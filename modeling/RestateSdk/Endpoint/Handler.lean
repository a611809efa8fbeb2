import RestateSdk.Effects

/-! `GenericHandler` of the request-response endpoint. Its collaborators live in modules
that are not part of this model; each is a field of `Imports` (or of `EndpointBuilder`) with
the arguments the code passes it, and may cause events, return any value of its type or
throw. JavaScript values the handler only passes along (key sets, components, messages,
connections, protocol versions) are one type `ω`; a method that mutates its object counts
by what it returns. -/
namespace RestateSdk

/-- A request header's value, `string | string[]`. -/
inductive HeaderValue where
  | single (value : String)
  | several (values : List String)
  deriving DecidableEq, Repr

/-- `Headers`: an absent header is `undefined`. -/
abbrev Headers := String → Option HeaderValue

/-- `AdditionalContext`. -/
abbrev AdditionalContext := List (String × String)

structure RestateRequest (ω : Type) where
  url : String
  headers : Headers
  body : Option ω

/-- A response body by how the code makes it. -/
inductive Body (ω : Type) where
  /-- `Buffer.from(JSON.stringify({ message }))`. -/
  | messageJson (message : String)
  /-- `Buffer.from(text)`. -/
  | string (text : String)
  /-- A `Uint8Array` made elsewhere. -/
  | bytes (bytes : ω)

structure RestateResponse (ω : Type) where
  headers : List (String × String)
  statusCode : Nat
  body : Body ω

/-- What `parseUrlComponents` recognises: `"discovery"` or the components of an invoke path. -/
inductive ParsedUrl (ω : Type) where
  | discovery
  | handler (url : ω)

inductive ProtocolMode where
  | bidiStream
  | requestResponse
  deriving DecidableEq, Repr

inductive LogLevel where
  | trace
  | warn
  | error
  deriving DecidableEq, Repr

structure ValidateResponse (ω : Type) where
  valid : Bool
  error : ω

/-- The `Error` that `ensureError` hands back. -/
structure JsError where
  message : String
  stack : Option String

structure EndpointBuilder (ε ω : Type) where
  keySet : Option ω
  componentByName : String → Sync ε ω (Option ω)
  computeDiscovery : ProtocolMode → Sync ε ω ω

/-- The functions, methods and constants the handler's module imports. -/
structure Imports (ε ω : Type) where
  validateRequestSignature : ω → String → Headers → Async ε ω (ValidateResponse ω)
  parseUrlComponents : String → Sync ε ω (Option (ParsedUrl ω))
  /-- `parsed.componentName`. -/
  componentName : ω → String
  parseServiceProtocolVersion : String → Sync ε ω ω
  isServiceProtocolVersionSupported : ω → Sync ε ω Bool
  serviceProtocolVersionToHeaderValue : ω → Sync ε ω String
  selectSupportedServiceDiscoveryProtocolVersion : String → Sync ε ω ω
  serviceDiscoveryProtocolVersionToHeaderValue : ω → Sync ε ω String
  serviceDiscoveryProtocolVersionUnspecified : ω
  serviceDiscoveryProtocolVersionV1 : ω
  /-- `component.handlerMatching(parsed)`. -/
  handlerMatching : ω → ω → Sync ε ω (Option ω)
  /-- `handler.kind()`. -/
  kind : ω → Sync ε ω ω
  decodeMessagesBuffer : ω → Sync ε ω (List ω)
  /-- `message.messageType`. -/
  messageType : ω → ω
  outputEntryMessageType : ω
  /-- `new InvocationBuilder(handler)`. -/
  newInvocationBuilder : ω → Sync ε ω ω
  /-- `journalBuilder.handleMessage(message)`. -/
  handleMessage : ω → ω → Sync ε ω Unit
  /-- `journalBuilder.build()`. -/
  build : ω → Sync ε ω ω
  /-- `invocation.inferLoggerContext(context)`. -/
  inferLoggerContext : ω → AdditionalContext → Sync ε ω ω
  /-- `new LambdaConnection(headers, alreadyCompleted)`. -/
  newLambdaConnection : Headers → Bool → Sync ε ω ω
  /-- `new StateMachine(connection, invocation, mode, kind, loggerContext)`. -/
  newStateMachine : ω → ω → ProtocolMode → ω → ω → Sync ε ω ω
  /-- `stateMachine.invoke()`, awaited. -/
  invoke : ω → Async ε ω Unit
  /-- `connection.getResult()`, awaited. -/
  getResult : ω → Async ε ω ω
  ensureError : ω → Sync ε ω JsError
  rlog : LogLevel → String → Sync ε ω Unit
  /-- `JSON.stringify` of a discovery document. -/
  jsonStringify : ω → Sync ε ω String
  /-- `new Error(message)`. -/
  newError : String → ω
  /-- How a template literal prints a value. -/
  toText : ω → String
  /-- `X_RESTATE_SERVER`. -/
  xRestateServer : String

structure GenericHandler (ε ω : Type) where
  endpoint : EndpointBuilder ε ω

namespace GenericHandler

variable {ε ω : Type} (imports : Imports ε ω) (h : GenericHandler ε ω)

/-- `toErrorResponse(code, message)`. -/
def toErrorResponse (code : Nat) (message : String) : RestateResponse ω :=
  { headers := [("content-type", "text/plain"), ("x-restate-server", imports.xRestateServer)]
    statusCode := code
    body := .messageJson message }

/-- `validateConnectionSignature(path, headers)`. -/
def validateConnectionSignature (path : String) (headers : Headers) :
    Async ε ω (Option (RestateResponse ω)) :=
  match h.endpoint.keySet with
  | none => pure none
  | some keySet =>
    Async.tryCatch
      (do
        let validateResponse ← imports.validateRequestSignature keySet path headers
        if !validateResponse.valid then
          imports.rlog .error ("Rejecting request as its JWT did not validate: " ++
            imports.toText validateResponse.error)
          return some (toErrorResponse imports 401 "Unauthorized")
        else
          return none)
      fun e => do
        let error ← imports.ensureError e
        imports.rlog .error ("Error while attempting to validate request signature: " ++
          error.stack.getD error.message)
        return some (toErrorResponse imports 401 "Unauthorized")

variable [DecidableEq ω]

/-- The `try` block of `handleInvoke`. -/
def runInvocation (handler body : ω) (headers : Headers) (serviceProtocolVersion : ω)
    (context : AdditionalContext) : Async ε ω (RestateResponse ω) := do
  let decodedEntries ← imports.decodeMessagesBuffer body
  let journalBuilder ← imports.newInvocationBuilder handler
  (decodedEntries.forM (imports.handleMessage journalBuilder) : Sync ε ω PUnit)
  let alreadyCompleted :=
    (decodedEntries.find? fun e => imports.messageType e = imports.outputEntryMessageType).isSome
  let connection ← imports.newLambdaConnection headers alreadyCompleted
  let invocation ← imports.build journalBuilder
  let stateMachine ← imports.newStateMachine connection invocation .requestResponse
    (← imports.kind handler) (← imports.inferLoggerContext invocation context)
  imports.invoke stateMachine
  let result ← imports.getResult connection
  let contentType ← imports.serviceProtocolVersionToHeaderValue serviceProtocolVersion
  return { headers := [("content-type", contentType), ("x-restate-server", imports.xRestateServer)]
           statusCode := 200
           body := .bytes result }

/-- `handleInvoke(handler, body, headers, serviceProtocolVersion, context)`. -/
def handleInvoke (handler body : ω) (headers : Headers) (serviceProtocolVersion : ω)
    (context : AdditionalContext) : Async ε ω (RestateResponse ω) :=
  Async.tryCatch (runInvocation imports handler body headers serviceProtocolVersion context)
    fun e => do
      let error ← imports.ensureError e
      imports.rlog .error error.message
      -- a missing stack prints as `undefined`
      imports.rlog .error (error.stack.getD "undefined")
      return toErrorResponse imports 500 error.message

/-- `handleDiscovery(acceptVersionsString)`. -/
def handleDiscovery (acceptVersionsString : Option HeaderValue) : Sync ε ω (RestateResponse ω) :=
  match acceptVersionsString with
  | some (.single acceptVersionsString) => do
    let serviceDiscoveryProtocolVersion ←
      imports.selectSupportedServiceDiscoveryProtocolVersion acceptVersionsString
    if serviceDiscoveryProtocolVersion = imports.serviceDiscoveryProtocolVersionUnspecified then
      let errorMessage :=
        "Unsupported service discovery protocol version \x27" ++ acceptVersionsString ++ "\x27"
      imports.rlog .warn errorMessage
      return toErrorResponse imports 415 errorMessage
    else
      let discovery ← h.endpoint.computeDiscovery .requestResponse
      if serviceDiscoveryProtocolVersion = imports.serviceDiscoveryProtocolVersionV1 then
        let discoveryJson ← imports.jsonStringify discovery
        let contentType ←
          imports.serviceDiscoveryProtocolVersionToHeaderValue serviceDiscoveryProtocolVersion
        return { headers := [("content-type", contentType), ("x-restate-server", imports.xRestateServer)]
                 statusCode := 200
                 body := .string discoveryJson }
      else
        throw (imports.newError ("Unsupported service discovery protocol version: " ++
          imports.toText serviceDiscoveryProtocolVersion))
  | _ => do
    let errorMessage := "Missing accept header"
    imports.rlog .warn errorMessage
    return toErrorResponse imports 415 errorMessage

/-- `handle(request, context)`. -/
def handle (request : RestateRequest ω) (context : Option AdditionalContext) :
    Async ε ω (RestateResponse ω) := do
  let path := request.url
  match ← validateConnectionSignature imports h path request.headers with
  | some error => return error
  | none =>
  match ← imports.parseUrlComponents path with
  | none =>
    let msg := "Invalid path: path doesn\x27t end in /invoke/SvcName/handlerName and also not " ++
      "in /discover: " ++ path
    imports.rlog .trace msg
    return toErrorResponse imports 404 msg
  | some .discovery => handleDiscovery imports h (request.headers "accept")
  | some (.handler parsed) =>
  match request.headers "content-type" with
  | some (.single serviceProtocolVersionString) =>
    let serviceProtocolVersion ← imports.parseServiceProtocolVersion serviceProtocolVersionString
    if !(← imports.isServiceProtocolVersionSupported serviceProtocolVersion) then
      let errorMessage :=
        "Unsupported service protocol version \x27" ++ serviceProtocolVersionString ++ "\x27"
      imports.rlog .warn errorMessage
      return toErrorResponse imports 415 errorMessage
    else
    match ← h.endpoint.componentByName (imports.componentName parsed) with
    | none =>
      let msg := "No service found for URL: " ++ imports.toText parsed
      imports.rlog .error msg
      return toErrorResponse imports 404 msg
    | some method =>
    match ← imports.handlerMatching method parsed with
    | none =>
      let msg := "No service found for URL: " ++ imports.toText parsed
      imports.rlog .error msg
      return toErrorResponse imports 404 msg
    | some handler =>
    match request.body with
    | none =>
      let msg := "The incoming message body was null"
      imports.rlog .error msg
      return toErrorResponse imports 400 msg
    | some body =>
      handleInvoke imports handler body request.headers serviceProtocolVersion (context.getD [])
  | _ =>
    let errorMessage := "Missing content-type header"
    imports.rlog .warn errorMessage
    return toErrorResponse imports 415 errorMessage

end GenericHandler

end RestateSdk
