import RestateSdk.Endpoint.Soundness

/-! What can become of the handler's promise when nothing is assumed of what the code awaits.
The two `try` blocks catch every failure of the signature validator and of the invocation, so
the promise never rejects on their account: it answers, or it stays pending, and only while
the validator, the state machine or the connection's result never settles. -/
namespace RestateSdk.GenericHandler

variable {ε ω : Type} [DecidableEq ω] {imports : Imports ε ω} {h : GenericHandler ε ω}

/-- Whatever the decoder, the journal builder, the connection and the state machine do,
`handleInvoke`'s promise never rejects: it fulfils with the 200 response of a run in which every
step returned, carrying the result of the connection that run made, or with the 500 response
carrying the message of the value the `try` block threw; or it stays pending, and then the state
machine's `invoke()` or the connection's `getResult()` never settles. -/
theorem handleInvoke_never_rejects (rlog : LoggerReturns imports)
    (ensureError : ∀ e, (imports.ensureError e).Returns) (handler body : ω) (headers : Headers)
    (version : ω) (context : AdditionalContext) :
    (handleInvoke imports handler body headers version context).Answers
      (Invoked imports handler body headers version context)
      ((∃ stateMachine, (imports.invoke stateMachine).outcome = .pending) ∨
        ∃ connection, (imports.getResult connection).outcome = .pending) :=
  handleInvoke_answers imports handler body headers version context rlog ensureError

theorem handleInvoke_never_rejects_plain :
    LoggerReturns plainImports ∧ (∀ e, (plainImports.ensureError e).Returns) ∧
    (handleInvoke plainImports 0 0 (fun _ => none) 0 []).Answers
      (Invoked plainImports 0 0 (fun _ => none) 0 [])
      ((∃ stateMachine, (plainImports.invoke stateMachine).outcome = .pending) ∨
        ∃ connection, (plainImports.getResult connection).outcome = .pending) :=
  have rlog : LoggerReturns plainImports := fun _ _ => rfl
  have ensureError : ∀ e, (plainImports.ensureError e).Returns := fun _ => ⟨_, rfl⟩
  ⟨rlog, ensureError, handleInvoke_never_rejects rlog ensureError 0 0 (fun _ => none) 0 []⟩

/-- A journal entry the builder throws on ends the invocation. The entries before it are
replayed in order, the ones after it are never handed to the builder, no connection, journal or
state machine is made, and `handleInvoke` answers 500 with the message of the builder's error. -/
theorem handleInvoke_stops_at_refused_entry
    (rlog : ∀ level message, (imports.rlog level message).result = .ok ())
    {handler body journalBuilder entry thrown : ω} {pre post : List ω} {error : JsError}
    (headers : Headers) (version : ω) (context : AdditionalContext)
    (decoded : (imports.decodeMessagesBuffer body).result = .ok (pre ++ entry :: post))
    (built : (imports.newInvocationBuilder handler).result = .ok journalBuilder)
    (replayed : ∀ e ∈ pre, (imports.handleMessage journalBuilder e).result = .ok ())
    (refused : (imports.handleMessage journalBuilder entry).result = .error thrown)
    (made : (imports.ensureError thrown).result = .ok error) :
    handleInvoke imports handler body headers version context =
      ⟨(imports.decodeMessagesBuffer body).log ++ (imports.newInvocationBuilder handler).log ++
          (pre.flatMap fun e => (imports.handleMessage journalBuilder e).log) ++
          (imports.handleMessage journalBuilder entry).log ++ (imports.ensureError thrown).log ++
          (imports.rlog .error error.message).log ++
          (imports.rlog .error (error.stack.getD "undefined")).log,
        .fulfilled (toErrorResponse imports 500 error.message)⟩ := by
  have replay := Sync.forM_of_error refused post replayed
  simp [handleInvoke, runInvocation, Async.tryCatch, Sync.toAsync_of_ok decoded, Sync.toAsync_of_ok built, replay,
    Sync.toAsync_of_ok made, Sync.toAsync_of_ok (rlog _ _)]

/-- Collaborators whose decoder finds the journal `[1, 2, 3]` and whose journal builder throws
on entry `2`. -/
def replayImports : Imports Unit Nat :=
  { plainImports with
    decodeMessagesBuffer := fun _ => pure [1, 2, 3]
    handleMessage := fun _ entry => if entry = 2 then ⟨[()], .error entry⟩ else ⟨[()], .ok ()⟩ }

theorem handleInvoke_stops_at_entry_two :
    (∀ level message, (replayImports.rlog level message).result = .ok ()) ∧
    (replayImports.decodeMessagesBuffer 0).result = .ok ([1] ++ 2 :: [3]) ∧
    (replayImports.newInvocationBuilder 0).result = .ok 0 ∧
    (∀ e ∈ [1], (replayImports.handleMessage 0 e).result = .ok ()) ∧
    (replayImports.handleMessage 0 2).result = .error 2 ∧
    (replayImports.ensureError 2).result = .ok ⟨"", none⟩ ∧
    handleInvoke replayImports 0 0 (fun _ => none) 0 [] =
      ⟨(replayImports.decodeMessagesBuffer 0).log ++ (replayImports.newInvocationBuilder 0).log ++
          ([1].flatMap fun e => (replayImports.handleMessage 0 e).log) ++
          (replayImports.handleMessage 0 2).log ++ (replayImports.ensureError 2).log ++
          (replayImports.rlog .error "").log ++ (replayImports.rlog .error "undefined").log,
        .fulfilled (toErrorResponse replayImports 500 "")⟩ :=
  have rlog : ∀ level message, (replayImports.rlog level message).result = .ok () := fun _ _ => rfl
  have decoded : (replayImports.decodeMessagesBuffer 0).result = .ok ([1] ++ 2 :: [3]) := rfl
  have built : (replayImports.newInvocationBuilder 0).result = .ok 0 := rfl
  have replayed : ∀ e ∈ [1], (replayImports.handleMessage 0 e).result = .ok () := by
    simp [replayImports]
  have refused : (replayImports.handleMessage 0 2).result = .error 2 := rfl
  have made : (replayImports.ensureError 2).result = .ok ⟨"", none⟩ := rfl
  ⟨rlog, decoded, built, replayed, refused, made, handleInvoke_stops_at_refused_entry rlog
    (fun _ => none) 0 [] decoded built replayed refused made⟩

/-- A validator that never settles on the endpoint's key set leaves `handle` pending. -/
theorem handle_of_hung_signature (request : RestateRequest ω) (context : Option AdditionalContext)
    {keySet : ω} (set : h.endpoint.keySet = some keySet)
    (hung : (imports.validateRequestSignature keySet request.url request.headers).outcome = .pending) :
    (handle imports h request context).outcome = .pending := by
  have checking : (validateConnectionSignature imports h request.url request.headers).outcome =
      .pending := by
    simp only [validateConnectionSignature, set]
    rw [Async.bind_of_pending hung]
    rfl
  rw [handle, Async.bind_of_pending checking]

/-- With the collaborators outside a `try` returning, and nothing assumed of what `handle`
awaits, its promise never rejects and answers only with responses naming the server. It stays
pending only when the validator never settles on this request, or a state machine's `invoke()`
or a connection's `getResult()` never settles. -/
theorem handle_never_rejects (returning : Returning imports h) (request : RestateRequest ω)
    (context : Option AdditionalContext) :
    (handle imports h request context).Answers (ServerHeader imports)
      ((∃ keySet, h.endpoint.keySet = some keySet ∧
          (imports.validateRequestSignature keySet request.url request.headers).outcome = .pending) ∨
        (∃ stateMachine, (imports.invoke stateMachine).outcome = .pending) ∨
        ∃ connection, (imports.getResult connection).outcome = .pending) := by
  by_cases settled : ∀ keySet, h.endpoint.keySet = some keySet →
      (imports.validateRequestSignature keySet request.url request.headers).Settles
  · rcases signature_accepted_or_refused imports h request settled with accepted | refused
    · rcases handle_routes returning request context
        (validateConnectionSignature_of_accepted imports h request accepted) with
        ⟨response, answered, header⟩ | ⟨handler, body, version, invoked⟩
      · exact .of_fulfilled answered header
      · exact .of_outcome invoked ((handleInvoke_answers imports handler body request.headers
          version _ returning.rlog returning.ensureError).mono
            (fun _ => invoked_serverHeader imports handler body request.headers version _) .inr)
    · rw [handle_of_refused imports h request context returning.rlog returning.ensureError refused]
      exact .of_fulfilled rfl (toErrorResponse_serverHeader imports _ _)
  · simp only [Async.Settles, not_forall, not_not, exists_prop] at settled
    obtain ⟨keySet, set, hung⟩ := settled
    exact .of_pending (handle_of_hung_signature request context set hung) (.inl ⟨keySet, set, hung⟩)

theorem handle_never_rejects_discover :
    Returning plainImports plainHandler ∧
    (handle plainImports plainHandler discoverRequest none).Answers (ServerHeader plainImports)
      ((∃ keySet, plainHandler.endpoint.keySet = some keySet ∧
          (plainImports.validateRequestSignature keySet discoverRequest.url
            discoverRequest.headers).outcome = .pending) ∨
        (∃ stateMachine, (plainImports.invoke stateMachine).outcome = .pending) ∨
        ∃ connection, (plainImports.getResult connection).outcome = .pending) :=
  ⟨plain_trusted.toReturning, handle_never_rejects plain_trusted.toReturning discoverRequest none⟩

end RestateSdk.GenericHandler
