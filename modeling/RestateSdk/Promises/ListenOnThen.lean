import RestateSdk.Promises.Utils

/-! `listenOnThen(p, g)` against `p` itself, for any promise-like `p`. `catch` and `finally`
wrap what they return again, so along any chain of them the object is `p`'s chain with the
listener carried on top; a `then` at the end runs the listener once and then subscribes as
`p`'s chain would.
The listener is a JavaScript function, so it may throw, and a throw leaves `then` before it
subscribes. -/
namespace RestateSdk

variable {ε ω : Type}

/-- One link of a chain: `catch(h)` or `finally(h)`. -/
inductive Link (ε ω : Type) where
  | «catch» (onrejected : Option (Callback ε ω))
  | «finally» (onfinally : Option (Finalizer ε ω))

/-- A chain of calls, each made on what the previous one returned. -/
def JsPromise.chain : JsPromise ε ω → List (Link ε ω) → Sync ε ω (JsPromise ε ω)
  | p, [] => pure p
  | p, .«catch» onrejected :: links => p.«catch» onrejected >>= (·.chain links)
  | p, .«finally» onfinally :: links => p.«finally» onfinally >>= (·.chain links)

theorem listening_chain (promise : JsPromise ε ω) (onThen : Sync ε ω Unit) (links : List (Link ε ω)) :
    (JsPromise.listening promise onThen).chain links =
      (JsPromise.listening · onThen) <$> promise.chain links := by
  induction links generalizing promise with
  | nil => rfl
  | cons link links ih =>
    cases link <;> simp [JsPromise.chain, JsPromise.«catch», JsPromise.«finally», listenOnThen, ih]

/-- Building a chain of `catch` and `finally` on `listenOnThen(p, g)` makes exactly `p`'s
calls and never runs `g`; a `then` on its last object runs `g` once, before subscribing, and
then does exactly what the same chain followed by the same `then` does on `p`. If `g` throws,
that `then` throws its error and subscribes nothing. -/
theorem listenOnThen_chain_then (promise : JsPromise ε ω) (onThen : Sync ε ω Unit)
    (links : List (Link ε ω)) (onfulfilled onrejected : Option (Callback ε ω)) :
    (listenOnThen promise (some onThen)).chain links =
        (listenOnThen · (some onThen)) <$> promise.chain links ∧
      ((listenOnThen promise (some onThen)).chain links >>= (·.«then» onfulfilled onrejected)) =
        (promise.chain links >>= fun last =>
          onThen >>= fun _ => last.«then» onfulfilled onrejected) := by
  refine ⟨listening_chain promise onThen links, ?_⟩
  simp only [listenOnThen, listening_chain, bind_map_left]
  rfl

/-- A throwing listener: on `p` fulfilled with `5` a `then(onfulfilled)` runs `onfulfilled` on
`5`, while on `listenOnThen(p, g)` with `g` throwing `9` the same call throws `9` and runs no
callback. -/
theorem listenOnThen_then_throwing_listener :
    let onfulfilled : Callback Nat Nat := fun v => ⟨[v], .ok (.fulfilled v)⟩
    ((JsPromise.native (.fulfilled 5)).«then» (some onfulfilled) none).log = [5] ∧
    ((listenOnThen (.native (.fulfilled 5)) (some ⟨[], .error 9⟩)).«then» (some onfulfilled)
      none).log = [] ∧
    ((listenOnThen (.native (.fulfilled 5)) (some ⟨[], .error 9⟩)).«then» (some onfulfilled)
      none).result = .error 9 :=
  ⟨rfl, rfl, rfl⟩

end RestateSdk
