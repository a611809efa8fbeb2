import RestateSdk.Promises.Utils

/-! `transformIt(p, f)` against the promise `p.then(f)` it stands in for. The object defers
`f` until `then` is called, and the two agree wherever the wrapped promise does not fulfil
and wherever `f` does not fail; they part where the object hands the call straight to `p`:
`catch` and `then(undefined, h)` see `p`'s own value, and a failure of `f` reaches no
`onrejected`. -/
namespace RestateSdk

variable {ε ω : Type}

/-- One call on a promise-like object. -/
inductive Call (ε ω : Type) where
  | «then» (onfulfilled onrejected : Option (Callback ε ω))
  | «catch» (onrejected : Option (Callback ε ω))
  | «finally» (onfinally : Option (Finalizer ε ω))

def JsPromise.call (p : JsPromise ε ω) : Call ε ω → Sync ε ω (JsPromise ε ω)
  | .«then» onfulfilled onrejected => JsPromise.native <$> p.«then» onfulfilled onrejected
  | .«catch» onrejected => p.«catch» onrejected
  | .«finally» onfinally => p.«finally» onfinally

/-- The same call made on `promise.then(transformOnfulfilled)`, with the events of building
that promise first. -/
def thenCall (promise : Outcome ω ω) (transformOnfulfilled : Callback ε ω) (c : Call ε ω) :
    Sync ε ω (JsPromise ε ω) :=
  promise.«then» (some transformOnfulfilled) none >>= fun derived => (JsPromise.native derived).call c

theorem awaitTransformed_settle (transformOnfulfilled onfulfilled : Callback ε ω) (t : ω) :
    (awaitTransformed transformOnfulfilled onfulfilled t).settle =
      awaitTransformed transformOnfulfilled onfulfilled t := by
  simp only [awaitTransformed, Sync.settle, Sync.mk_ok_bind]
  split <;> rfl

/-- Every call on `transformIt(p, f)` acts as on `p.then(f)` when `p` does not fulfil. -/
theorem transformIt_call_of_not_fulfilled (promise : Outcome ω ω)
    (unfulfilled : ∀ t, promise ≠ .fulfilled t) (transformOnfulfilled : Callback ε ω)
    (c : Call ε ω) :
    (transformIt (.native promise) transformOnfulfilled).call c =
      thenCall promise transformOnfulfilled c := by
  cases promise with
  | fulfilled t => exact absurd rfl (unfulfilled t)
  | rejected _ | pending =>
    cases c with
    | «then» onfulfilled _ =>
      cases onfulfilled <;> simp [transformIt, thenCall, JsPromise.call, JsPromise.«then»]
    | «catch» _ => simp [transformIt, thenCall, JsPromise.call, JsPromise.«catch», Outcome.«catch»]
    | «finally» _ => rfl

theorem transformIt_call_rejected :
    (∀ t, (Outcome.rejected 3 : Outcome Nat Nat) ≠ .fulfilled t) ∧
      (transformIt (.native (.rejected 3)) (fun v => pure (.fulfilled (v + 1)) : Callback Nat Nat)).call
          (.«catch» (some fun e => ⟨[e], .ok (.fulfilled 0)⟩)) =
        thenCall (.rejected 3) (fun v => pure (.fulfilled (v + 1)))
          (.«catch» (some fun e => ⟨[e], .ok (.fulfilled 0)⟩)) :=
  have unfulfilled : ∀ t, (Outcome.rejected 3 : Outcome Nat Nat) ≠ .fulfilled t := fun _ h => by cases h
  ⟨unfulfilled, transformIt_call_of_not_fulfilled (.rejected 3) unfulfilled _ _⟩

/-- With `onfulfilled` given, `then` acts as on `p.then(f)` whenever `f` does not fail on
`p`'s value: the events of `f` come first in both, then those of `onfulfilled`. -/
theorem transformIt_then_of_transform_succeeds (t : ω) (transformOnfulfilled : Callback ε ω)
    (succeeds : ∀ e, Outcome.ofResult (transformOnfulfilled t).result ≠ .rejected e)
    (onfulfilled : Callback ε ω) (onrejected : Option (Callback ε ω)) :
    (transformIt (.native (.fulfilled t)) transformOnfulfilled).call
        (.«then» (some onfulfilled) onrejected) =
      thenCall (.fulfilled t) transformOnfulfilled (.«then» (some onfulfilled) onrejected) := by
  simp only [transformIt, thenCall, JsPromise.call, JsPromise.«then», Outcome.«then»,
    awaitTransformed_settle]
  simp only [awaitTransformed, Sync.settle, Sync.mk_ok_bind]
  cases h : Outcome.ofResult (transformOnfulfilled t).result with
  | fulfilled u => simp [Outcome.«then», Sync.settle]
  | rejected e => exact absurd h (succeeds e)
  | pending => simp [Outcome.«then»]

theorem transformIt_then_identity :
    (∀ e, Outcome.ofResult ((fun v => ⟨[], .ok (.fulfilled v)⟩ : Callback Unit Nat) 0).result ≠
      .rejected e) ∧
    (transformIt (.native (.fulfilled 0)) (fun v => ⟨[], .ok (.fulfilled v)⟩)).call
        (.«then» (some fun v => ⟨[()], .ok (.fulfilled v)⟩) none) =
      thenCall (.fulfilled 0) (fun v => ⟨[], .ok (.fulfilled v)⟩)
        (.«then» (some fun v => ⟨[()], .ok (.fulfilled v)⟩) none) :=
  have succeeds : ∀ e, Outcome.ofResult
      ((fun v => ⟨[], .ok (.fulfilled v)⟩ : Callback Unit Nat) 0).result ≠ .rejected e :=
    fun _ h => by cases h
  ⟨succeeds, transformIt_then_of_transform_succeeds 0 _ succeeds _ _⟩

/-- Where the two part. On `p` fulfilled with `0` and `f` throwing `7`, an await's
`then(resolve, reject)` runs neither callback on `transformIt(p, f)` (its promise rejects with
`7` and the await never resumes) and runs `reject` on `p.then(f)`; and `catch(h)` on
`transformIt(p, g)` resolves with `0` itself where `p.then(g)` resolves with `g`'s `1`. -/
theorem transformIt_misses_transform :
    let resolve : Callback String Nat := fun v => ⟨["resolve"], .ok (.fulfilled v)⟩
    let reject : Callback String Nat := fun e => ⟨["reject"], .ok (.fulfilled e)⟩
    let throws : Callback String Nat := fun _ => ⟨[], .error 7⟩
    let succ : Callback String Nat := fun t => ⟨[], .ok (.fulfilled (t + 1))⟩
    ((transformIt (.native (.fulfilled 0)) throws).call (.«then» (some resolve) (some reject))).log =
      [] ∧
    (thenCall (.fulfilled 0) throws (.«then» (some resolve) (some reject))).log = ["reject"] ∧
    (transformIt (.native (.fulfilled 0)) succ).call (.«catch» (some reject)) =
      pure (.native (.fulfilled 0)) ∧
    thenCall (.fulfilled 0) succ (.«catch» (some reject)) = pure (.native (.fulfilled 1)) :=
  ⟨rfl, rfl, rfl, rfl⟩

end RestateSdk
