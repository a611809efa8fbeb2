import RestateSdk.Endpoint.Handler

/-! The paths through `handle`, one lemma each: given what the collaborators answer on the
way, what the handler's promise settles to. The signature check comes first and, when it
refuses, is all that runs. -/
namespace RestateSdk.GenericHandler

variable {ε ω : Type} (imports : Imports ε ω) (h : GenericHandler ε ω)

/-- `validateRequestSignature` reports the request invalid or throws. -/
def SignatureRefused (request : RestateRequest ω) : Prop :=
  ∃ keySet, h.endpoint.keySet = some keySet ∧
    ((∃ r, (imports.validateRequestSignature keySet request.url request.headers).outcome =
        .fulfilled r ∧ r.valid = false) ∨
      ∃ e, (imports.validateRequestSignature keySet request.url request.headers).outcome =
        .rejected e)

/-- The endpoint has no key set, or the request's signature validates. -/
def SignatureAccepted (request : RestateRequest ω) : Prop :=
  h.endpoint.keySet = none ∨ ∃ keySet r, h.endpoint.keySet = some keySet ∧
    (imports.validateRequestSignature keySet request.url request.headers).outcome = .fulfilled r ∧
    r.valid = true

/-- Every response built by `toErrorResponse` names the server. -/
def ServerHeader (response : RestateResponse ω) : Prop :=
  response.headers.lookup "x-restate-server" = some imports.xRestateServer

theorem toErrorResponse_serverHeader (code : Nat) (message : String) :
    ServerHeader imports (toErrorResponse imports code message) := by
  simp [ServerHeader, toErrorResponse, List.lookup_cons]

/-- `rlog` returns on every call. -/
def LoggerReturns : Prop := ∀ level message, (imports.rlog level message).result = .ok ()

section Signature

variable (request : RestateRequest ω)

theorem validateConnectionSignature_of_accepted (accepted : SignatureAccepted imports h request) :
    (validateConnectionSignature imports h request.url request.headers).outcome = .fulfilled none := by
  rcases accepted with none_set | ⟨keySet, r, set, validated, valid⟩
  · simp [validateConnectionSignature, none_set]
  · simp [validateConnectionSignature, set, Async.tryCatch, Async.bind_of_fulfilled validated, valid]

/-- A refused request leaves the check nothing to fulfil with but the 401 answer, whatever the
logger and `ensureError` do: they can only make it reject. -/
theorem validateConnectionSignature_yields_of_refused (refused : SignatureRefused imports h request) :
    (validateConnectionSignature imports h request.url request.headers).Yields
      (· = some (toErrorResponse imports 401 "Unauthorized")) := by
  obtain ⟨keySet, set, refusal⟩ := refused
  simp only [validateConnectionSignature, set]
  refine Async.tryCatch_yields (Async.bind_yields fun r validated => ?_)
    fun _ => Async.bind_yields fun _ _ => Async.bind_yields fun _ _ => Async.pure_yields rfl
  rcases refusal with ⟨r', validated', invalid⟩ | ⟨e, thrown⟩
  · obtain rfl := Outcome.fulfilled.inj (validated'.symm.trans validated)
    simp only [invalid, Bool.not_false, ite_true]
    exact Async.bind_yields fun _ _ => Async.pure_yields rfl
  · exact nomatch thrown.symm.trans validated

theorem validateConnectionSignature_of_refused
    (rlog : LoggerReturns imports)
    (ensureError : ∀ e, (imports.ensureError e).Returns) (refused : SignatureRefused imports h request) :
    (validateConnectionSignature imports h request.url request.headers).outcome =
      .fulfilled (some (toErrorResponse imports 401 "Unauthorized")) := by
  obtain ⟨keySet, set, ⟨r, validated, invalid⟩ | ⟨e, thrown⟩⟩ := refused
  · simp [validateConnectionSignature, set, Async.tryCatch, Async.bind_of_fulfilled validated, invalid,
      Sync.toAsync_of_ok (rlog _ _)]
  · obtain ⟨error, made⟩ := ensureError e
    simp [validateConnectionSignature, set, Async.tryCatch_bind_of_rejected thrown,
      Sync.toAsync_of_ok made, Sync.toAsync_of_ok (rlog _ _)]

theorem signature_accepted_or_refused
    (settles : ∀ keySet, h.endpoint.keySet = some keySet →
      (imports.validateRequestSignature keySet request.url request.headers).Settles) :
    SignatureAccepted imports h request ∨ SignatureRefused imports h request := by
  cases set : h.endpoint.keySet with
  | none => exact .inl (.inl set)
  | some keySet =>
    cases validated : (imports.validateRequestSignature keySet request.url request.headers).outcome with
    | fulfilled r =>
      cases valid : r.valid
      · exact .inr ⟨keySet, set, .inl ⟨r, validated, valid⟩⟩
      · exact .inl (.inr ⟨keySet, r, set, validated, valid⟩)
    | rejected e => exact .inr ⟨keySet, set, .inr ⟨e, validated⟩⟩
    | pending => exact absurd validated (settles keySet set)

end Signature

section Paths

variable [DecidableEq ω] (request : RestateRequest ω) (context : Option AdditionalContext)

/-- A refused signature: the whole run is the signature check, then the 401 answer. -/
theorem handle_eq_of_refused (refused : SignatureRefused imports h request) :
    handle imports h request context =
      (validateConnectionSignature imports h request.url request.headers >>= fun _ =>
        pure (toErrorResponse imports 401 "Unauthorized")) := by
  unfold handle
  exact Async.bind_congr fun checked fulfilled => by
    rw [validateConnectionSignature_yields_of_refused imports h request refused checked fulfilled]

variable (rlog : LoggerReturns imports)
include rlog

/-- With the logger and `ensureError` returning, a refused signature answers 401. -/
theorem handle_of_refused (ensureError : ∀ e, (imports.ensureError e).Returns)
    (refused : SignatureRefused imports h request) :
    handle imports h request context =
      ⟨(validateConnectionSignature imports h request.url request.headers).log,
        .fulfilled (toErrorResponse imports 401 "Unauthorized")⟩ := by
  rw [handle_eq_of_refused imports h request context refused, Async.bind_of_fulfilled
    (validateConnectionSignature_of_refused imports h request rlog ensureError refused)]
  simp

variable (accepted : (validateConnectionSignature imports h request.url request.headers).outcome =
  .fulfilled none)
include accepted

theorem handle_invalid_path (parsed : (imports.parseUrlComponents request.url).result = .ok none) :
    (handle imports h request context).outcome = .fulfilled (toErrorResponse imports 404
      ("Invalid path: path doesn\x27t end in /invoke/SvcName/handlerName and also not in " ++
        "/discover: " ++ request.url)) := by
  simp [handle, Async.outcome_bind_of_fulfilled accepted, Sync.toAsync_of_ok parsed,
    Sync.toAsync_of_ok (rlog _ _), String.append_assoc]

omit rlog in
theorem handle_discovery (parsed : (imports.parseUrlComponents request.url).result = .ok (some .discovery)) :
    (handle imports h request context).outcome =
      (handleDiscovery imports h (request.headers "accept")).toAsync.outcome := by
  simp [handle, Async.outcome_bind_of_fulfilled accepted, Sync.toAsync_of_ok parsed]

variable {url : ω} (parsed : (imports.parseUrlComponents request.url).result = .ok (some (.handler url)))
include parsed

theorem handle_missing_content_type
    (missing : ∀ s, request.headers "content-type" ≠ some (.single s)) :
    (handle imports h request context).outcome =
      .fulfilled (toErrorResponse imports 415 "Missing content-type header") := by
  cases header : request.headers "content-type" with
  | none => simp [handle, Async.outcome_bind_of_fulfilled accepted, Sync.toAsync_of_ok parsed,
      Sync.toAsync_of_ok (rlog _ _), header]
  | some value =>
    cases value with
    | single s => exact absurd header (missing s)
    | several values => simp [handle, Async.outcome_bind_of_fulfilled accepted,
        Sync.toAsync_of_ok parsed, Sync.toAsync_of_ok (rlog _ _), header]

variable {s : String} {version : ω} (contentType : request.headers "content-type" = some (.single s))
  (parsedVersion : (imports.parseServiceProtocolVersion s).result = .ok version)
include contentType parsedVersion

theorem handle_unsupported_version
    (unsupported : (imports.isServiceProtocolVersionSupported version).result = .ok false) :
    (handle imports h request context).outcome = .fulfilled (toErrorResponse imports 415
      ("Unsupported service protocol version \x27" ++ s ++ "\x27")) := by
  simp [handle, Async.outcome_bind_of_fulfilled accepted, Sync.toAsync_of_ok parsed, contentType,
    Sync.toAsync_of_ok parsedVersion, Sync.toAsync_of_ok unsupported, Sync.toAsync_of_ok (rlog _ _)]

variable (supported : (imports.isServiceProtocolVersionSupported version).result = .ok true)
include supported

theorem handle_unknown_component
    (unknown : (h.endpoint.componentByName (imports.componentName url)).result = .ok none) :
    (handle imports h request context).outcome = .fulfilled (toErrorResponse imports 404
      ("No service found for URL: " ++ imports.toText url)) := by
  simp [handle, Async.outcome_bind_of_fulfilled accepted, Sync.toAsync_of_ok parsed, contentType,
    Sync.toAsync_of_ok parsedVersion, Sync.toAsync_of_ok supported, Sync.toAsync_of_ok unknown,
    Sync.toAsync_of_ok (rlog _ _)]

variable {component : ω}
  (known : (h.endpoint.componentByName (imports.componentName url)).result = .ok (some component))
include known

theorem handle_unknown_handler
    (unmatched : (imports.handlerMatching component url).result = .ok none) :
    (handle imports h request context).outcome = .fulfilled (toErrorResponse imports 404
      ("No service found for URL: " ++ imports.toText url)) := by
  simp [handle, Async.outcome_bind_of_fulfilled accepted, Sync.toAsync_of_ok parsed, contentType,
    Sync.toAsync_of_ok parsedVersion, Sync.toAsync_of_ok supported, Sync.toAsync_of_ok known,
    Sync.toAsync_of_ok unmatched, Sync.toAsync_of_ok (rlog _ _)]

variable {handler : ω} (matched : (imports.handlerMatching component url).result = .ok (some handler))
include matched

theorem handle_missing_body (missing : request.body = none) :
    (handle imports h request context).outcome =
      .fulfilled (toErrorResponse imports 400 "The incoming message body was null") := by
  simp [handle, Async.outcome_bind_of_fulfilled accepted, Sync.toAsync_of_ok parsed, contentType,
    Sync.toAsync_of_ok parsedVersion, Sync.toAsync_of_ok supported, Sync.toAsync_of_ok known,
    Sync.toAsync_of_ok matched, missing, Sync.toAsync_of_ok (rlog _ _)]

omit rlog in
theorem handle_invoke {body : ω} (present : request.body = some body) :
    (handle imports h request context).outcome =
      (handleInvoke imports handler body request.headers version (context.getD [])).outcome := by
  simp [handle, Async.outcome_bind_of_fulfilled accepted, Sync.toAsync_of_ok parsed, contentType,
    Sync.toAsync_of_ok parsedVersion, Sync.toAsync_of_ok supported, Sync.toAsync_of_ok known,
    Sync.toAsync_of_ok matched, present]

end Paths

section Discovery

variable [DecidableEq ω] (rlog : LoggerReturns imports)
include rlog

theorem handleDiscovery_missing_accept (accept : Option HeaderValue)
    (missing : ∀ a, accept ≠ some (.single a)) :
    (handleDiscovery imports h accept).result =
      .ok (toErrorResponse imports 415 "Missing accept header") := by
  cases accept with
  | none => simp [handleDiscovery, Sync.bind_of_ok (rlog _ _)]
  | some value =>
    cases value with
    | single a => exact absurd rfl (missing a)
    | several values => simp [handleDiscovery, Sync.bind_of_ok (rlog _ _)]

theorem handleDiscovery_unsupported (a : String)
    (unspecified : (imports.selectSupportedServiceDiscoveryProtocolVersion a).result =
      .ok imports.serviceDiscoveryProtocolVersionUnspecified) :
    (handleDiscovery imports h (some (.single a))).result = .ok (toErrorResponse imports 415
      ("Unsupported service discovery protocol version \x27" ++ a ++ "\x27")) := by
  simp [handleDiscovery, Sync.bind_of_ok unspecified, Sync.bind_of_ok (rlog _ _)]

omit rlog in
theorem handleDiscovery_v1 (a : String)
    (selected : (imports.selectSupportedServiceDiscoveryProtocolVersion a).result =
      .ok imports.serviceDiscoveryProtocolVersionV1)
    (known : imports.serviceDiscoveryProtocolVersionV1 ≠ imports.serviceDiscoveryProtocolVersionUnspecified)
    {document : ω} {json contentType : String}
    (computed : (h.endpoint.computeDiscovery .requestResponse).result = .ok document)
    (stringified : (imports.jsonStringify document).result = .ok json)
    (header : (imports.serviceDiscoveryProtocolVersionToHeaderValue
      imports.serviceDiscoveryProtocolVersionV1).result = .ok contentType) :
    (handleDiscovery imports h (some (.single a))).result =
      .ok ⟨[("content-type", contentType), ("x-restate-server", imports.xRestateServer)], 200,
        .string json⟩ := by
  simp [handleDiscovery, Sync.bind_of_ok selected, known, Sync.bind_of_ok computed,
    Sync.bind_of_ok stringified, Sync.map_of_ok header]

end Discovery

section Invoke

variable [DecidableEq ω] (handler body : ω) (headers : Headers) (version : ω)
  (context : AdditionalContext)

/-- A run of `handleInvoke`'s `try` block that gets to its `return`: every step returns, the
state machine's `invoke()` and the connection's `getResult()` fulfil, and the response is 200
with the protocol version's content type and the result of the connection made for this
journal. -/
def Completed (response : RestateResponse ω) : Prop :=
  ∃ entries journalBuilder connection invocation kind loggerContext stateMachine result contentType,
    (imports.decodeMessagesBuffer body).result = .ok entries ∧
    (imports.newInvocationBuilder handler).result = .ok journalBuilder ∧
    (entries.forM (imports.handleMessage journalBuilder) : Sync ε ω PUnit).result = .ok ⟨⟩ ∧
    (imports.newLambdaConnection headers
      (entries.find? fun e => imports.messageType e = imports.outputEntryMessageType).isSome).result =
        .ok connection ∧
    (imports.build journalBuilder).result = .ok invocation ∧
    (imports.kind handler).result = .ok kind ∧
    (imports.inferLoggerContext invocation context).result = .ok loggerContext ∧
    (imports.newStateMachine connection invocation .requestResponse kind loggerContext).result =
      .ok stateMachine ∧
    (imports.invoke stateMachine).outcome = .fulfilled () ∧
    (imports.getResult connection).outcome = .fulfilled result ∧
    (imports.serviceProtocolVersionToHeaderValue version).result = .ok contentType ∧
    response = ⟨[("content-type", contentType), ("x-restate-server", imports.xRestateServer)], 200,
      .bytes result⟩

/-- What `handleInvoke` answers: the response of a completed run of its `try` block, or 500
with the message of the value that block threw. -/
def Invoked (response : RestateResponse ω) : Prop :=
  Completed imports handler body headers version context response ∨
  ∃ thrown error,
    (runInvocation imports handler body headers version context).outcome = .rejected thrown ∧
    (imports.ensureError thrown).result = .ok error ∧
    response = toErrorResponse imports 500 error.message

theorem invoked_serverHeader {response : RestateResponse ω}
    (invoked : Invoked imports handler body headers version context response) :
    ServerHeader imports response := by
  rcases invoked with ⟨_, _, _, _, _, _, _, _, _, _, _, _, _, _, _, _, _, _, _, _, rfl⟩ |
    ⟨_, _, _, _, rfl⟩
  · simp [ServerHeader, List.lookup_cons]
  · exact toErrorResponse_serverHeader imports 500 _

/-- The `try` block fulfils only along a completed run, and stays pending only while a state
machine's `invoke()` or a connection's `getResult()` does. -/
theorem runInvocation_guards :
    (runInvocation imports handler body headers version context).Guards
      (Completed imports handler body headers version context)
      ((∃ stateMachine, (imports.invoke stateMachine).outcome = .pending) ∨
        ∃ connection, (imports.getResult connection).outcome = .pending) := by
  refine Sync.toAsync_bind_guards fun entries decoded => ?_
  refine Sync.toAsync_bind_guards fun journalBuilder built => ?_
  refine Sync.toAsync_bind_guards fun _ replayed => ?_
  refine Sync.toAsync_bind_guards fun connection connected => ?_
  refine Sync.toAsync_bind_guards fun invocation made => ?_
  refine Sync.toAsync_bind_guards fun kind kinded => ?_
  refine Sync.toAsync_bind_guards fun loggerContext inferred => ?_
  refine Sync.toAsync_bind_guards fun stateMachine started => ?_
  refine Async.bind_guards (fun hung => .inl ⟨stateMachine, hung⟩) fun _ invoked => ?_
  refine Async.bind_guards (fun hung => .inr ⟨connection, hung⟩) fun result fetched => ?_
  refine Sync.toAsync_bind_guards fun contentType header => ?_
  exact Async.pure_guards ⟨entries, journalBuilder, connection, invocation, kind, loggerContext,
    stateMachine, result, contentType, decoded, built, replayed, connected, made, kinded, inferred,
    started, invoked, fetched, header, rfl⟩

variable (rlog : LoggerReturns imports) (ensureError : ∀ e, (imports.ensureError e).Returns)
include rlog ensureError

/-- With the logger and `ensureError` returning, `handleInvoke` never rejects: it answers what
its `try` block completes with or the 500 of what that block threw, and hangs only where the
block does. -/
theorem handleInvoke_answers :
    (handleInvoke imports handler body headers version context).Answers
      (Invoked imports handler body headers version context)
      ((∃ stateMachine, (imports.invoke stateMachine).outcome = .pending) ∨
        ∃ connection, (imports.getResult connection).outcome = .pending) :=
  Async.tryCatch_answers (runInvocation_guards imports handler body headers version context)
    fun thrown rejected => by
      obtain ⟨error, made⟩ := ensureError thrown
      exact ⟨toErrorResponse imports 500 error.message,
        by simp [Sync.toAsync_of_ok made, Sync.toAsync_of_ok (rlog _ _)],
        thrown, error, rejected, made, rfl⟩

end Invoke

end RestateSdk.GenericHandler
