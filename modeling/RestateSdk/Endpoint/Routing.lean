import RestateSdk.Endpoint.Gates

/-! Where `handle` goes once the signature check lets a request through. When the
collaborators it calls outside a `try` return, it either answers at one of its gates, with a
response naming the server, or hands the request to `handleInvoke`. -/
namespace RestateSdk.GenericHandler

variable {ε ω : Type} [DecidableEq ω] (imports : Imports ε ω) (h : GenericHandler ε ω)

/-- The collaborators `handle` calls outside a `try` return normally, and
`selectSupportedServiceDiscoveryProtocolVersion` answers with a version the code knows. Nothing
is assumed of what the code awaits. -/
structure Returning : Prop where
  rlog : LoggerReturns imports
  ensureError : ∀ e, (imports.ensureError e).Returns
  parseUrlComponents : ∀ path, (imports.parseUrlComponents path).Returns
  parseServiceProtocolVersion : ∀ s, (imports.parseServiceProtocolVersion s).Returns
  isServiceProtocolVersionSupported : ∀ v, (imports.isServiceProtocolVersionSupported v).Returns
  componentByName : ∀ name, (h.endpoint.componentByName name).Returns
  handlerMatching : ∀ component url, (imports.handlerMatching component url).Returns
  selectSupportedServiceDiscoveryProtocolVersion : ∀ accept, ∃ v,
    (imports.selectSupportedServiceDiscoveryProtocolVersion accept).result = .ok v ∧
    (v = imports.serviceDiscoveryProtocolVersionUnspecified ∨
      v = imports.serviceDiscoveryProtocolVersionV1)
  computeDiscovery : (h.endpoint.computeDiscovery .requestResponse).Returns
  jsonStringify : ∀ document, (imports.jsonStringify document).Returns
  serviceDiscoveryProtocolVersionToHeaderValue : ∀ v,
    (imports.serviceDiscoveryProtocolVersionToHeaderValue v).Returns

variable {imports h}

theorem handleDiscovery_returns (returning : Returning imports h) (accept : Option HeaderValue) :
    ∃ response, (handleDiscovery imports h accept).result = .ok response ∧
      ServerHeader imports response := by
  by_cases single : ∃ a, accept = some (.single a)
  · obtain ⟨a, rfl⟩ := single
    obtain ⟨v, selected, known⟩ := returning.selectSupportedServiceDiscoveryProtocolVersion a
    by_cases unspecified : v = imports.serviceDiscoveryProtocolVersionUnspecified
    · exact ⟨_, handleDiscovery_unsupported imports h returning.rlog a (unspecified ▸ selected),
        toErrorResponse_serverHeader imports _ _⟩
    · obtain rfl := known.resolve_left unspecified
      obtain ⟨document, computed⟩ := returning.computeDiscovery
      obtain ⟨json, stringified⟩ := returning.jsonStringify document
      obtain ⟨contentType, header⟩ := returning.serviceDiscoveryProtocolVersionToHeaderValue
        imports.serviceDiscoveryProtocolVersionV1
      exact ⟨_, handleDiscovery_v1 imports h a selected unspecified computed stringified header,
        by simp [ServerHeader, List.lookup_cons]⟩
  · exact ⟨_, handleDiscovery_missing_accept imports h returning.rlog accept
      (fun a same => single ⟨a, same⟩), toErrorResponse_serverHeader imports _ _⟩

/-- Past an accepted signature, `handle` answers at a gate or runs `handleInvoke`. -/
theorem handle_routes (returning : Returning imports h) (request : RestateRequest ω)
    (context : Option AdditionalContext)
    (accepted : (validateConnectionSignature imports h request.url request.headers).outcome =
      .fulfilled none) :
    (∃ response, (handle imports h request context).outcome = .fulfilled response ∧
      ServerHeader imports response) ∨
    ∃ handler body version, (handle imports h request context).outcome =
      (handleInvoke imports handler body request.headers version (context.getD [])).outcome := by
  have rlog := returning.rlog
  have answered : ∀ {code message}, (handle imports h request context).outcome =
      .fulfilled (toErrorResponse imports code message) →
      ∃ response, (handle imports h request context).outcome = .fulfilled response ∧
        ServerHeader imports response :=
    fun fulfilled => ⟨_, fulfilled, toErrorResponse_serverHeader imports _ _⟩
  obtain ⟨parsed, hp⟩ := returning.parseUrlComponents request.url
  rcases parsed with _ | _ | url
  · exact .inl <| answered (handle_invalid_path imports h request context rlog accepted hp)
  · obtain ⟨response, returned, header⟩ := handleDiscovery_returns returning (request.headers "accept")
    exact .inl ⟨response, by rw [handle_discovery imports h request context accepted hp,
      Sync.toAsync_of_ok returned], header⟩
  by_cases single : ∃ s, request.headers "content-type" = some (.single s)
  · obtain ⟨s, contentType⟩ := single
    obtain ⟨version, parsedVersion⟩ := returning.parseServiceProtocolVersion s
    obtain ⟨supported, hs⟩ := returning.isServiceProtocolVersionSupported version
    cases supported
    · exact .inl <| answered (handle_unsupported_version imports h request context rlog accepted hp
        contentType parsedVersion hs)
    obtain ⟨component, hc⟩ := returning.componentByName (imports.componentName url)
    rcases component with _ | component
    · exact .inl <| answered (handle_unknown_component imports h request context rlog accepted hp
        contentType parsedVersion hs hc)
    obtain ⟨handler, hh⟩ := returning.handlerMatching component url
    rcases handler with _ | handler
    · exact .inl <| answered (handle_unknown_handler imports h request context rlog accepted hp
        contentType parsedVersion hs hc hh)
    cases hb : request.body with
    | none => exact .inl <| answered (handle_missing_body imports h request context rlog accepted hp
        contentType parsedVersion hs hc hh hb)
    | some body => exact .inr ⟨handler, body, version, handle_invoke imports h request context
        accepted hp contentType parsedVersion hs hc hh hb⟩
  · exact .inl <| answered (handle_missing_content_type imports h request context rlog accepted hp
      (fun s same => single ⟨s, same⟩))

end RestateSdk.GenericHandler
