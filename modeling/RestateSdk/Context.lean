import RestateSdk.Effects

/-! `context.ts`. Besides its interfaces the file holds two pieces of code: the combinators of
`CombineablePromise`, which give a non-empty array to the context of its first element and an
empty one to the native combinator of the same name, and `useContext` / `useKeyedContext`,
which read the context the SDK attached to a service instance. The aggregation itself is
`ContextImpl.createCombinator`, which is not part of this file. -/
namespace RestateSdk

variable {ε ω : Type}

/-- The native combinator each method of `CombineablePromise` passes on. -/
inductive Combinator where
  | all
  | race
  | any
  | allSettled
  deriving DecidableEq, Repr

/-- A `CombineablePromise`: a native promise and the context that made it. -/
structure CombineablePromise (ω : Type) where
  promise : Outcome ω ω
  /-- `__restate_context`. -/
  restateContext : ω

/-- A service instance as the two hooks read it: `$$restate`, absent when it is `undefined`
or `null`. -/
structure ServiceInstance (ω : Type) where
  restate : Option ω

/-- What the code of `context.ts` uses and does not define. -/
structure ContextImports (ε ω : Type) where
  /-- `(context as ContextImpl).createCombinator(combinator, values)`. -/
  createCombinator : ω → Combinator → List (CombineablePromise ω) → Sync ε ω (Outcome ω ω)
  /-- The empty array `[]`. -/
  emptyArray : ω
  /-- The `AggregateError` without errors that `Promise.any([])` rejects with. -/
  emptyAggregateError : ω
  /-- `new Error(message)`. -/
  newError : String → ω

/-- The promise a native combinator returns for an empty array. -/
def Combinator.ofEmpty (imports : ContextImports ε ω) : Combinator → Outcome ω ω
  | .all => .fulfilled imports.emptyArray
  | .race => .pending
  | .any => .rejected imports.emptyAggregateError
  | .allSettled => .fulfilled imports.emptyArray

namespace CombineablePromise

variable (imports : ContextImports ε ω)

/-- The body the four methods share: an empty array goes to the native combinator, any other
to the context of its first element. -/
def combine (combinator : Combinator) : List (CombineablePromise ω) → Sync ε ω (Outcome ω ω)
  | [] => pure (combinator.ofEmpty imports)
  | values@(first :: _) => imports.createCombinator first.restateContext combinator values

/-- The methods as the source writes them: an array of length `0` goes to the native
combinator, whose promise settles as `Combinator.ofEmpty` says, any other to the context of
`values[0]`. -/
theorem combine_eq (combinator : Combinator) (values : List (CombineablePromise ω)) :
    combine imports combinator values =
      if empty : values.length = 0 then pure (combinator.ofEmpty imports)
      else imports.createCombinator (values.get ⟨0, Nat.pos_of_ne_zero empty⟩).restateContext
        combinator values := by
  cases values <;> rfl

/-- `CombineablePromise.all(values)`. -/
def all (values : List (CombineablePromise ω)) : Sync ε ω (Outcome ω ω) :=
  combine imports .all values

/-- `CombineablePromise.race(values)`. -/
def race (values : List (CombineablePromise ω)) : Sync ε ω (Outcome ω ω) :=
  combine imports .race values

/-- `CombineablePromise.any(values)`. -/
def any (values : List (CombineablePromise ω)) : Sync ε ω (Outcome ω ω) :=
  combine imports .any values

/-- `CombineablePromise.allSettled(values)`. -/
def allSettled (values : List (CombineablePromise ω)) : Sync ε ω (Outcome ω ω) :=
  combine imports .allSettled values

end CombineablePromise

/-- The check the two hooks share: the attached context, or an error outside a call. -/
def attachedContext (imports : ContextImports ε ω) (wrapper : ServiceInstance ω) : Sync ε ω ω :=
  match wrapper.restate with
  | none => throw (imports.newError "not running within a Restate call.")
  | some context => pure context

/-- The hooks return the attached context exactly when there is one, causing no event. -/
theorem attachedContext_returns_iff (imports : ContextImports ε ω) (wrapper : ServiceInstance ω)
    (context : ω) :
    (attachedContext imports wrapper).result = .ok context ↔ wrapper.restate = some context := by
  cases wrapper with
  | mk restate => cases restate <;> simp [attachedContext]

/-- Outside a call the hooks throw `new Error("not running within a Restate call.")`. -/
theorem attachedContext_of_absent (imports : ContextImports ε ω) (wrapper : ServiceInstance ω)
    (absent : wrapper.restate = none) :
    attachedContext imports wrapper =
      ⟨[], .error (imports.newError "not running within a Restate call.")⟩ := by
  simp [attachedContext, absent]

/-- `useContext(instance)`. -/
def useContext (imports : ContextImports ε ω) (wrapper : ServiceInstance ω) : Sync ε ω ω :=
  attachedContext imports wrapper

/-- `useKeyedContext(instance)`. -/
def useKeyedContext (imports : ContextImports ε ω) (wrapper : ServiceInstance ω) : Sync ε ω ω :=
  attachedContext imports wrapper

end RestateSdk
