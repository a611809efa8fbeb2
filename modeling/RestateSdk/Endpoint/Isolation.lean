import RestateSdk.Endpoint.Soundness

/-! What `handle` never touches. Everything that decodes the body, builds the journal, opens
the connection and runs the state machine is called from `handleInvoke` alone, which `handle`
reaches only once the request has passed every gate; a request that fails one runs the same,
event for event, whatever those collaborators are. -/
namespace RestateSdk

variable {ε ω : Type}

/-- The collaborators only `handleInvoke` calls or reads. -/
structure Invocation (ε ω : Type) where
  decodeMessagesBuffer : ω → Sync ε ω (List ω)
  messageType : ω → ω
  outputEntryMessageType : ω
  newInvocationBuilder : ω → Sync ε ω ω
  handleMessage : ω → ω → Sync ε ω Unit
  build : ω → Sync ε ω ω
  inferLoggerContext : ω → AdditionalContext → Sync ε ω ω
  newLambdaConnection : Headers → Bool → Sync ε ω ω
  newStateMachine : ω → ω → ProtocolMode → ω → ω → Sync ε ω ω
  kind : ω → Sync ε ω ω
  invoke : ω → Async ε ω Unit
  getResult : ω → Async ε ω ω
  serviceProtocolVersionToHeaderValue : ω → Sync ε ω String

/-- The same imports with the invocation's collaborators replaced. -/
def Imports.withInvocation (imports : Imports ε ω) (invocation : Invocation ε ω) : Imports ε ω :=
  { imports with
    decodeMessagesBuffer := invocation.decodeMessagesBuffer
    messageType := invocation.messageType
    outputEntryMessageType := invocation.outputEntryMessageType
    newInvocationBuilder := invocation.newInvocationBuilder
    handleMessage := invocation.handleMessage
    build := invocation.build
    inferLoggerContext := invocation.inferLoggerContext
    newLambdaConnection := invocation.newLambdaConnection
    newStateMachine := invocation.newStateMachine
    kind := invocation.kind
    invoke := invocation.invoke
    getResult := invocation.getResult
    serviceProtocolVersionToHeaderValue := invocation.serviceProtocolVersionToHeaderValue }

namespace GenericHandler

variable (imports : Imports ε ω) (h : GenericHandler ε ω)

/-- The request passes every gate of `handle`: the signature check lets it through, its path
names a handler, its content type is a supported protocol version, the component and the
handler exist and it has a body. -/
def Admitted (request : RestateRequest ω) : Prop :=
  (validateConnectionSignature imports h request.url request.headers).outcome = .fulfilled none ∧
  ∃ url s version component handler body,
    (imports.parseUrlComponents request.url).result = .ok (some (.handler url)) ∧
    request.headers "content-type" = some (.single s) ∧
    (imports.parseServiceProtocolVersion s).result = .ok version ∧
    (imports.isServiceProtocolVersionSupported version).result = .ok true ∧
    (h.endpoint.componentByName (imports.componentName url)).result = .ok (some component) ∧
    (imports.handlerMatching component url).result = .ok (some handler) ∧
    request.body = some body

variable [DecidableEq ω] (invocation : Invocation ε ω)

/-- A request that fails a gate runs the same, event for event, whatever the collaborators of
the invocation and the additional context are. -/
theorem handle_independent_of_invocation (request : RestateRequest ω)
    (context context' : Option AdditionalContext) (refused : ¬ Admitted imports h request) :
    handle (imports.withInvocation invocation) h request context' =
      handle imports h request context := by
  unfold handle
  refine Async.bind_congr fun checked validated => ?_
  cases checked with
  | some error => rfl
  | none =>
  refine Async.bind_congr fun parsed hp => ?_
  rcases parsed with _ | _ | url
  · rfl
  · rfl
  cases contentType : request.headers "content-type" with
  | none => rfl
  | some value =>
  cases value with
  | several values => rfl
  | single s =>
  refine Async.bind_congr fun version hv => ?_
  refine Async.bind_congr fun supported hs => ?_
  cases supported with
  | false => simp only [Bool.not_false, ite_true]; rfl
  | true =>
  refine Async.bind_congr fun component hc => ?_
  rcases component with _ | component
  · rfl
  refine Async.bind_congr fun handler hh => ?_
  rcases handler with _ | handler
  · rfl
  cases present : request.body with
  | none => rfl
  | some body =>
  exact absurd ⟨validated, url, s, version, component, handler, body, Sync.result_of_toAsync hp,
    contentType, Sync.result_of_toAsync hv, Sync.result_of_toAsync hs, Sync.result_of_toAsync hc,
    Sync.result_of_toAsync hh, present⟩ refused

/-- Invocation collaborators that cause an event and fail at every call. -/
def failingInvocation : Invocation Unit Nat where
  decodeMessagesBuffer _ := ⟨[()], .error 0⟩
  messageType _ := 0
  outputEntryMessageType := 0
  newInvocationBuilder _ := ⟨[()], .error 0⟩
  handleMessage _ _ := ⟨[()], .error 0⟩
  build _ := ⟨[()], .error 0⟩
  inferLoggerContext _ _ := ⟨[()], .error 0⟩
  newLambdaConnection _ _ := ⟨[()], .error 0⟩
  newStateMachine _ _ _ _ _ := ⟨[()], .error 0⟩
  kind _ := ⟨[()], .error 0⟩
  invoke _ := ⟨[()], .rejected 0⟩
  getResult _ := ⟨[()], .rejected 0⟩
  serviceProtocolVersionToHeaderValue _ := ⟨[()], .error 0⟩

theorem handle_independent_of_invocation_discover :
    ¬ Admitted plainImports plainHandler discoverRequest ∧
    handle (plainImports.withInvocation failingInvocation) plainHandler discoverRequest
        (some [("x", "y")]) = handle plainImports plainHandler discoverRequest none :=
  have refused : ¬ Admitted plainImports plainHandler discoverRequest :=
    fun ⟨_, _, _, _, _, _, _, parsed, _⟩ => by cases parsed
  ⟨refused, handle_independent_of_invocation plainImports plainHandler failingInvocation
    discoverRequest none (some [("x", "y")]) refused⟩

end GenericHandler

end RestateSdk
