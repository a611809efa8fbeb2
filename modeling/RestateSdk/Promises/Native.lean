import RestateSdk.Effects

/-! Native promises, known by how they settle, and the callbacks handed to them. A callback
is a JavaScript function: it causes events, then returns or throws, and what it returns (a
plain value or a promise-like) counts by the settlement it resolves to. `then`, `catch` and
`finally` follow Promise.prototype: the callback for the settlement runs on its value and the
derived promise settles to what the callback gives. -/
namespace RestateSdk

/-- A function `(value) => ...` handed to `then` or `catch`. -/
abbrev Callback (ε ω : Type) := ω → Sync ε ω (Outcome ω ω)

/-- A function `() => ...` handed to `finally`. -/
abbrev Finalizer (ε ω : Type) := Sync ε ω (Outcome ω ω)

variable {ε ω : Type}

/-- The settlement a callback's completion resolves to: what it returned is adopted, what
it threw rejects. -/
def Outcome.ofResult : Except ω (Outcome ω ω) → Outcome ω ω
  | .ok s => s
  | .error e => .rejected e

@[simp] theorem Outcome.ofResult_ok (s : Outcome ω ω) : Outcome.ofResult (.ok s) = s := rfl
@[simp] theorem Outcome.ofResult_error (e : ω) :
    (Outcome.ofResult (.error e) : Outcome ω ω) = .rejected e := rfl

/-- The promise a callback's completion resolves, which never throws itself. -/
def Sync.settle (x : Sync ε ω (Outcome ω ω)) : Sync ε ω (Outcome ω ω) :=
  ⟨x.log, .ok (Outcome.ofResult x.result)⟩

namespace Outcome

/-- `promise.then(onfulfilled, onrejected)` on a native promise. -/
def «then» : Outcome ω ω → Option (Callback ε ω) → Option (Callback ε ω) →
    Sync ε ω (Outcome ω ω)
  | .fulfilled v, some onfulfilled, _ => (onfulfilled v).settle
  | .fulfilled v, none, _ => pure (.fulfilled v)
  | .rejected e, _, some onrejected => (onrejected e).settle
  | .rejected e, _, none => pure (.rejected e)
  | .pending, _, _ => pure .pending

/-- `promise.catch(onrejected)`, which Promise.prototype defines as `then(undefined, onrejected)`. -/
def «catch» (s : Outcome ω ω) (onrejected : Option (Callback ε ω)) : Sync ε ω (Outcome ω ω) :=
  s.«then» none onrejected

/-- The settlement `finally` passes on once its callback's promise settles to `r`: the
original one when `r` fulfils, `r`'s failure otherwise. -/
def after (s r : Outcome ω ω) : Outcome ω ω :=
  match r with
  | .fulfilled _ => s
  | .rejected e => .rejected e
  | .pending => .pending

/-- `promise.finally(onfinally)` on a native promise. -/
def «finally» : Outcome ω ω → Option (Finalizer ε ω) → Sync ε ω (Outcome ω ω)
  | .fulfilled v, some onfinally => (after (.fulfilled v)) <$> onfinally.settle
  | .rejected e, some onfinally => (after (.rejected e)) <$> onfinally.settle
  | .pending, some _ => pure .pending
  | s, none => pure s

@[simp] theorem pending_then (onfulfilled onrejected : Option (Callback ε ω)) :
    (pending : Outcome ω ω).«then» onfulfilled onrejected = pure .pending := by
  cases onfulfilled <;> cases onrejected <;> rfl

@[simp] theorem rejected_then (e : ω) (onfulfilled onrejected : Option (Callback ε ω)) :
    (rejected e : Outcome ω ω).«then» onfulfilled onrejected = (rejected e).«then» none onrejected := by
  cases onfulfilled <;> cases onrejected <;> rfl

@[simp] theorem then_none_none (s : Outcome ω ω) :
    s.«then» (none : Option (Callback ε ω)) none = pure s := by
  cases s <;> rfl

end Outcome

end RestateSdk
