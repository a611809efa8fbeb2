import RestateSdk.Promises.Native

/-! `utils/promises.ts`. The two helpers return object literals with their own `then`,
`catch` and `finally`; an object literal is a constructor of `JsPromise` holding the
variables its methods capture, and a method call goes to the code the object was built
with. What they wrap is any `Promise<T>`: a native promise, known by its settlement, or one
of these objects again. -/
namespace RestateSdk

variable {ε ω : Type}

/-- The promise-like objects of this file: native promises and the two object literals, each
wrapping another promise-like. -/
inductive JsPromise (ε ω : Type) where
  | native (state : Outcome ω ω)
  | transformed (promise : JsPromise ε ω) (transformOnfulfilled : Callback ε ω)
  | listening (promise : JsPromise ε ω) (onThen : Sync ε ω Unit)

/-- `async (t) => onfulfilled(await transformOnfulfilled(t))`. An async function never throws
where it is called; its promise takes the failure of the awaited value or the settlement of
`onfulfilled`'s result. -/
def awaitTransformed (transformOnfulfilled onfulfilled : Callback ε ω) : Callback ε ω :=
  fun t => do
    match ← (transformOnfulfilled t).settle with
    | .fulfilled u => (onfulfilled u).settle
    | failed => pure failed

/-- `transformIt(promise, transformOnfulfilled)`. -/
def transformIt (promise : JsPromise ε ω) (transformOnfulfilled : Callback ε ω) : JsPromise ε ω :=
  .transformed promise transformOnfulfilled

/-- `listenOnThen(promise, onThen)`: without a listener the promise itself comes back. -/
def listenOnThen (promise : JsPromise ε ω) : Option (Sync ε ω Unit) → JsPromise ε ω
  | some onThen => .listening promise onThen
  | none => promise

namespace JsPromise

/-- `then`. Each object passes the call on to the promise it wraps, so what comes back is the
native promise of the innermost `then`, known by its settlement. In `listenOnThen`'s object the
source checks `onThen !== undefined` again; the object is built only when the listener is
present, so the check always holds. -/
def «then» : JsPromise ε ω → Option (Callback ε ω) → Option (Callback ε ω) →
    Sync ε ω (Outcome ω ω)
  | native s, onfulfilled, onrejected => s.«then» onfulfilled onrejected
  | transformed promise transformOnfulfilled, some onfulfilled, onrejected =>
      promise.«then» (some (awaitTransformed transformOnfulfilled onfulfilled)) onrejected
  | transformed promise _, none, onrejected => promise.«then» none onrejected
  | listening promise onThen, onfulfilled, onrejected => do
      onThen
      promise.«then» onfulfilled onrejected

/-- `catch`; `transformIt`'s object binds the wrapped promise's own `catch`. -/
def «catch» : JsPromise ε ω → Option (Callback ε ω) → Sync ε ω (JsPromise ε ω)
  | native s, onrejected => native <$> s.«catch» onrejected
  | transformed promise _, onrejected => promise.«catch» onrejected
  | listening promise onThen, onrejected =>
      (listenOnThen · (some onThen)) <$> promise.«catch» onrejected

/-- `finally`. -/
def «finally» : JsPromise ε ω → Option (Finalizer ε ω) → Sync ε ω (JsPromise ε ω)
  | native s, onfinally => native <$> s.«finally» onfinally
  | transformed promise transformOnfulfilled, onfinally => do
      let derived ← promise.«then» (some transformOnfulfilled) none
      native <$> derived.«finally» onfinally
  | listening promise onThen, onfinally =>
      (listenOnThen · (some onThen)) <$> promise.«finally» onfinally

end JsPromise

/-- `CompletablePromise`: a promise with the resolving functions of its executor. Those act
on their first call only, so an unresolved one is still pending. -/
structure CompletablePromise (ω : Type) where
  alreadyResolved : Bool
  promise : Outcome ω ω
  unresolved_pending : alreadyResolved = false → promise = .pending

namespace CompletablePromise

/-- `new CompletablePromise()`. -/
def new : CompletablePromise ω := ⟨false, .pending, fun _ => rfl⟩

/-- `resolve(value)`: `this.success(value)`, the executor's `resolve`, which adopts what `value`
resolves to: a plain value fulfils the promise, a promise-like hands on its own settlement. -/
def resolve (c : CompletablePromise ω) (value : Outcome ω ω) : CompletablePromise ω :=
  if c.alreadyResolved then c else ⟨true, value, nofun⟩

/-- `reject(reason)`: `this.failure(reason)`. -/
def reject (c : CompletablePromise ω) (reason : ω) : CompletablePromise ω :=
  if c.alreadyResolved then c else ⟨true, .rejected reason, nofun⟩

end CompletablePromise

end RestateSdk
