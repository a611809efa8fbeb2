import RestateSdk.Endpoint.Routing

/-! What `handle` answers. A refused signature ends the run at the check, with nothing assumed
of the collaborators; past the check the first gate that fails decides, given only what that
gate's code calls. The code catches only around the signature check and the invocation, so
answering every request takes the rest on trust (`Trusted`); without it a discovery document
that cannot be computed escapes `handle`. -/
namespace RestateSdk.GenericHandler

variable {ε ω : Type} [DecidableEq ω] (imports : Imports ε ω) (h : GenericHandler ε ω)

/-- What the code takes on trust: the collaborators it calls outside a `try` return, as
`Returning` says, and the promises it awaits settle. -/
structure Trusted extends Returning imports h : Prop where
  validateRequestSignature : ∀ keySet path headers,
    (imports.validateRequestSignature keySet path headers).Settles
  invoke : ∀ stateMachine, (imports.invoke stateMachine).Settles
  getResult : ∀ connection, (imports.getResult connection).Settles

/-- The gates after the signature check, in the order the code tries them, each with what
`handle` settles to when it is the first to fail. A gate that logs asks for a logger that
returns; nothing else is assumed. -/
structure Gated (request : RestateRequest ω) (context : Option AdditionalContext) : Prop where
  path : LoggerReturns imports → SignatureAccepted imports h request →
    (imports.parseUrlComponents request.url).result = .ok none →
    (handle imports h request context).outcome = .fulfilled (toErrorResponse imports 404
      ("Invalid path: path doesn\x27t end in /invoke/SvcName/handlerName and also not in " ++
        "/discover: " ++ request.url))
  accept : LoggerReturns imports → SignatureAccepted imports h request →
    (imports.parseUrlComponents request.url).result = .ok (some .discovery) →
    (∀ a, request.headers "accept" ≠ some (.single a)) →
    (handle imports h request context).outcome =
      .fulfilled (toErrorResponse imports 415 "Missing accept header")
  discoveryVersion : LoggerReturns imports → SignatureAccepted imports h request →
    (imports.parseUrlComponents request.url).result = .ok (some .discovery) →
    ∀ a, request.headers "accept" = some (.single a) →
    (imports.selectSupportedServiceDiscoveryProtocolVersion a).result =
      .ok imports.serviceDiscoveryProtocolVersionUnspecified →
    (handle imports h request context).outcome = .fulfilled (toErrorResponse imports 415
      ("Unsupported service discovery protocol version \x27" ++ a ++ "\x27"))
  discovery : SignatureAccepted imports h request →
    (imports.parseUrlComponents request.url).result = .ok (some .discovery) →
    ∀ a, request.headers "accept" = some (.single a) →
    (imports.selectSupportedServiceDiscoveryProtocolVersion a).result =
      .ok imports.serviceDiscoveryProtocolVersionV1 →
    imports.serviceDiscoveryProtocolVersionV1 ≠ imports.serviceDiscoveryProtocolVersionUnspecified →
    ∀ document json contentType,
    (h.endpoint.computeDiscovery .requestResponse).result = .ok document →
    (imports.jsonStringify document).result = .ok json →
    (imports.serviceDiscoveryProtocolVersionToHeaderValue
      imports.serviceDiscoveryProtocolVersionV1).result = .ok contentType →
    (handle imports h request context).outcome = .fulfilled
      ⟨[("content-type", contentType), ("x-restate-server", imports.xRestateServer)], 200,
        .string json⟩
  contentType : LoggerReturns imports → SignatureAccepted imports h request →
    ∀ url, (imports.parseUrlComponents request.url).result = .ok (some (.handler url)) →
    (∀ s, request.headers "content-type" ≠ some (.single s)) →
    (handle imports h request context).outcome =
      .fulfilled (toErrorResponse imports 415 "Missing content-type header")
  protocolVersion : LoggerReturns imports → SignatureAccepted imports h request →
    ∀ url s version, (imports.parseUrlComponents request.url).result = .ok (some (.handler url)) →
    request.headers "content-type" = some (.single s) →
    (imports.parseServiceProtocolVersion s).result = .ok version →
    (imports.isServiceProtocolVersionSupported version).result = .ok false →
    (handle imports h request context).outcome = .fulfilled
      (toErrorResponse imports 415 ("Unsupported service protocol version \x27" ++ s ++ "\x27"))
  component : LoggerReturns imports → SignatureAccepted imports h request →
    ∀ url s version, (imports.parseUrlComponents request.url).result = .ok (some (.handler url)) →
    request.headers "content-type" = some (.single s) →
    (imports.parseServiceProtocolVersion s).result = .ok version →
    (imports.isServiceProtocolVersionSupported version).result = .ok true →
    (h.endpoint.componentByName (imports.componentName url)).result = .ok none →
    (handle imports h request context).outcome = .fulfilled
      (toErrorResponse imports 404 ("No service found for URL: " ++ imports.toText url))
  handler : LoggerReturns imports → SignatureAccepted imports h request →
    ∀ url s version component,
    (imports.parseUrlComponents request.url).result = .ok (some (.handler url)) →
    request.headers "content-type" = some (.single s) →
    (imports.parseServiceProtocolVersion s).result = .ok version →
    (imports.isServiceProtocolVersionSupported version).result = .ok true →
    (h.endpoint.componentByName (imports.componentName url)).result = .ok (some component) →
    (imports.handlerMatching component url).result = .ok none →
    (handle imports h request context).outcome = .fulfilled
      (toErrorResponse imports 404 ("No service found for URL: " ++ imports.toText url))
  body : LoggerReturns imports → SignatureAccepted imports h request →
    ∀ url s version component handler,
    (imports.parseUrlComponents request.url).result = .ok (some (.handler url)) →
    request.headers "content-type" = some (.single s) →
    (imports.parseServiceProtocolVersion s).result = .ok version →
    (imports.isServiceProtocolVersionSupported version).result = .ok true →
    (h.endpoint.componentByName (imports.componentName url)).result = .ok (some component) →
    (imports.handlerMatching component url).result = .ok (some handler) →
    request.body = none →
    (handle imports h request context).outcome =
      .fulfilled (toErrorResponse imports 400 "The incoming message body was null")
  invoke : SignatureAccepted imports h request →
    ∀ url s version component handler body,
    (imports.parseUrlComponents request.url).result = .ok (some (.handler url)) →
    request.headers "content-type" = some (.single s) →
    (imports.parseServiceProtocolVersion s).result = .ok version →
    (imports.isServiceProtocolVersionSupported version).result = .ok true →
    (h.endpoint.componentByName (imports.componentName url)).result = .ok (some component) →
    (imports.handlerMatching component url).result = .ok (some handler) →
    request.body = some body →
    (handle imports h request context).outcome =
      (handleInvoke imports handler body request.headers version (context.getD [])).outcome ∧
    (LoggerReturns imports → (∀ e, (imports.ensureError e).Returns) →
      (handle imports h request context).Yields
        (Invoked imports handler body request.headers version (context.getD [])))

/-- Each gate answers as its code says. -/
theorem handle_gated (request : RestateRequest ω) (context : Option AdditionalContext) :
    Gated imports h request context := by
  have admitted := validateConnectionSignature_of_accepted imports h request
  have discovered := handle_discovery imports h request context
  exact {
    path := fun rlog accepted parsed =>
      handle_invalid_path imports h request context rlog (admitted accepted) parsed
    accept := fun rlog accepted parsed missing => by
      rw [discovered (admitted accepted) parsed,
        Sync.toAsync_of_ok (handleDiscovery_missing_accept imports h rlog _ missing)]
    discoveryVersion := fun rlog accepted parsed a accept selected => by
      rw [discovered (admitted accepted) parsed, accept,
        Sync.toAsync_of_ok (handleDiscovery_unsupported imports h rlog a selected)]
    discovery := fun accepted parsed a accept selected known _ _ _ computed stringified header => by
      rw [discovered (admitted accepted) parsed, accept, Sync.toAsync_of_ok
        (handleDiscovery_v1 imports h a selected known computed stringified header)]
    contentType := fun rlog accepted _ parsed missing =>
      handle_missing_content_type imports h request context rlog (admitted accepted) parsed missing
    protocolVersion := fun rlog accepted _ _ _ parsed contentType parsedVersion unsupported =>
      handle_unsupported_version imports h request context rlog (admitted accepted) parsed
        contentType parsedVersion unsupported
    component := fun rlog accepted _ _ _ parsed contentType parsedVersion supported unknown =>
      handle_unknown_component imports h request context rlog (admitted accepted) parsed
        contentType parsedVersion supported unknown
    handler := fun rlog accepted _ _ _ _ parsed contentType parsedVersion supported known
        unmatched => handle_unknown_handler imports h request context rlog (admitted accepted)
          parsed contentType parsedVersion supported known unmatched
    body := fun rlog accepted _ _ _ _ _ parsed contentType parsedVersion supported known matched
        missing => handle_missing_body imports h request context rlog (admitted accepted) parsed
          contentType parsedVersion supported known matched missing
    invoke := fun accepted _ _ version _ handler body parsed contentType parsedVersion supported
        known matched present =>
      have same := handle_invoke imports h request context (admitted accepted) parsed contentType
        parsedVersion supported known matched present
      ⟨same, fun rlog ensureError response fulfilled =>
        (handleInvoke_answers imports handler body request.headers version _ rlog
          ensureError).yields response (same.symm.trans fulfilled)⟩ }

variable {imports h}

/-- Under the trust, `handle` fulfils on every request, with a response naming the server. -/
theorem handle_resolves (trusted : Trusted imports h) (request : RestateRequest ω)
    (context : Option AdditionalContext) :
    ∃ response, (handle imports h request context).outcome = .fulfilled response ∧
      ServerHeader imports response := by
  rcases signature_accepted_or_refused imports h request
    (fun keySet _ => trusted.validateRequestSignature keySet _ _) with accepted | refused
  · rcases handle_routes trusted.toReturning request context
      (validateConnectionSignature_of_accepted imports h request accepted) with
      answered | ⟨handler, body, version, invoked⟩
    · exact answered
    · obtain ⟨response, responded, completed⟩ := (handleInvoke_answers imports handler body
        request.headers version (context.getD []) trusted.rlog trusted.ensureError).fulfils
        fun | .inl ⟨stateMachine, hung⟩ => trusted.invoke stateMachine hung
            | .inr ⟨connection, hung⟩ => trusted.getResult connection hung
      exact ⟨response, invoked.trans responded,
        invoked_serverHeader imports handler body request.headers version _ completed⟩
  · exact ⟨_, by rw [handle_of_refused imports h request context trusted.rlog trusted.ensureError
      refused], toErrorResponse_serverHeader imports _ _⟩

variable (imports h)

/-- What `handle` answers. A refused signature is all that runs, whatever the collaborators
do, and answers 401 once the logger and `ensureError` return; past the check the first gate
that fails decides; and under the trust every request is answered with a response naming the
server. -/
theorem handle_answers (request : RestateRequest ω) (context : Option AdditionalContext) :
    (SignatureRefused imports h request →
      handle imports h request context =
        (validateConnectionSignature imports h request.url request.headers >>= fun _ =>
          pure (toErrorResponse imports 401 "Unauthorized"))) ∧
    (LoggerReturns imports → (∀ e, (imports.ensureError e).Returns) →
      SignatureRefused imports h request →
      (handle imports h request context).outcome =
        .fulfilled (toErrorResponse imports 401 "Unauthorized")) ∧
    Gated imports h request context ∧
    (Trusted imports h → ∃ response, (handle imports h request context).outcome =
      .fulfilled response ∧ ServerHeader imports response) :=
  ⟨handle_eq_of_refused imports h request context,
    fun rlog ensureError refused => by
      rw [handle_of_refused imports h request context rlog ensureError refused],
    handle_gated imports h request context,
    fun trusted => handle_resolves trusted request context⟩

/-- Collaborators that answer plainly: no key set, every path is the discovery path, and
every call returns. -/
def plainImports : Imports Unit Nat where
  validateRequestSignature _ _ _ := pure ⟨true, 0⟩
  parseUrlComponents _ := pure (some .discovery)
  componentName _ := ""
  parseServiceProtocolVersion _ := pure 0
  isServiceProtocolVersionSupported _ := pure true
  serviceProtocolVersionToHeaderValue _ := pure ""
  selectSupportedServiceDiscoveryProtocolVersion _ := pure 1
  serviceDiscoveryProtocolVersionToHeaderValue _ := pure ""
  serviceDiscoveryProtocolVersionUnspecified := 0
  serviceDiscoveryProtocolVersionV1 := 1
  handlerMatching _ _ := pure none
  kind _ := pure 0
  decodeMessagesBuffer _ := pure []
  messageType _ := 0
  outputEntryMessageType := 0
  newInvocationBuilder _ := pure 0
  handleMessage _ _ := pure ()
  build _ := pure 0
  inferLoggerContext _ _ := pure 0
  newLambdaConnection _ _ := pure 0
  newStateMachine _ _ _ _ _ := pure 0
  invoke _ := pure ()
  getResult _ := pure 0
  ensureError _ := pure ⟨"", none⟩
  rlog _ _ := pure ()
  jsonStringify _ := pure ""
  newError _ := 0
  toText _ := ""
  xRestateServer := ""

def plainHandler : GenericHandler Unit Nat := ⟨⟨none, fun _ => pure none, fun _ => pure 0⟩⟩

/-- A request for `/discover` with a discovery version in its `accept` header. -/
def discoverRequest : RestateRequest Nat := ⟨"/discover", fun _ => some (.single "v1"), none⟩

theorem plain_trusted : Trusted plainImports plainHandler where
  rlog _ _ := rfl
  ensureError _ := ⟨_, rfl⟩
  parseUrlComponents _ := ⟨_, rfl⟩
  parseServiceProtocolVersion _ := ⟨_, rfl⟩
  isServiceProtocolVersionSupported _ := ⟨_, rfl⟩
  componentByName _ := ⟨_, rfl⟩
  handlerMatching _ _ := ⟨_, rfl⟩
  selectSupportedServiceDiscoveryProtocolVersion _ := ⟨1, rfl, .inr rfl⟩
  computeDiscovery := ⟨_, rfl⟩
  jsonStringify _ := ⟨_, rfl⟩
  serviceDiscoveryProtocolVersionToHeaderValue _ := ⟨_, rfl⟩
  validateRequestSignature _ _ _ fulfilled := Outcome.noConfusion fulfilled
  invoke _ fulfilled := Outcome.noConfusion fulfilled
  getResult _ fulfilled := Outcome.noConfusion fulfilled

/-- The plain collaborators with a validator that finds every signature invalid. -/
def refusingImports : Imports Unit Nat :=
  { plainImports with validateRequestSignature := fun _ _ _ => pure ⟨false, 0⟩ }

/-- The plain endpoint with a key set. -/
def keyedHandler : GenericHandler Unit Nat := ⟨⟨some 0, fun _ => pure none, fun _ => pure 0⟩⟩

theorem handle_answers_refused :
    SignatureRefused refusingImports keyedHandler discoverRequest ∧
    handle refusingImports keyedHandler discoverRequest none =
      (validateConnectionSignature refusingImports keyedHandler discoverRequest.url
          discoverRequest.headers >>= fun _ =>
        pure (toErrorResponse refusingImports 401 "Unauthorized")) ∧
    LoggerReturns refusingImports ∧ (∀ e, (refusingImports.ensureError e).Returns) ∧
    (handle refusingImports keyedHandler discoverRequest none).outcome =
      .fulfilled (toErrorResponse refusingImports 401 "Unauthorized") ∧
    SignatureAccepted plainImports plainHandler discoverRequest ∧
    (handle plainImports plainHandler discoverRequest none).outcome =
      .fulfilled ⟨[("content-type", ""), ("x-restate-server", "")], 200, .string ""⟩ ∧
    Trusted plainImports plainHandler ∧
    ∃ response, (handle plainImports plainHandler discoverRequest none).outcome =
      .fulfilled response ∧ ServerHeader plainImports response :=
  have refused : SignatureRefused refusingImports keyedHandler discoverRequest :=
    ⟨0, rfl, .inl ⟨_, rfl, rfl⟩⟩
  have rlog : LoggerReturns refusingImports := fun _ _ => rfl
  have ensureError : ∀ e, (refusingImports.ensureError e).Returns := fun _ => ⟨_, rfl⟩
  have accepted : SignatureAccepted plainImports plainHandler discoverRequest := .inl rfl
  have refusedRun := handle_answers refusingImports keyedHandler discoverRequest none
  have plainRun := handle_answers plainImports plainHandler discoverRequest none
  ⟨refused, refusedRun.1 refused, rlog, ensureError, refusedRun.2.1 rlog ensureError refused,
    accepted, plainRun.2.2.1.discovery accepted rfl "v1" rfl rfl (by decide) 0 "" "" rfl rfl rfl,
    plain_trusted, plainRun.2.2.2 plain_trusted⟩

/-- Without the trust `handle` can reject: on the discovery path, a `computeDiscovery` that
throws escapes the handler. -/
theorem handle_rejects_when_discovery_throws :
    (handle plainImports ⟨⟨none, fun _ => pure none, fun _ => ⟨[], .error 0⟩⟩⟩ discoverRequest
      none).outcome = .rejected 0 := rfl

end RestateSdk.GenericHandler
