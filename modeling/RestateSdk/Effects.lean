import Mathlib.Logic.Basic

/-! What running JavaScript leaves behind, as the SDK's code can observe it. A synchronous
call records the events it caused, then returns a value or throws one. An asynchronous call
records its events and hands back a promise that fulfils, rejects or never settles. Events
are whatever callbacks and collaborators do that an observer can see. -/
namespace RestateSdk

/-- How a promise settles; `pending` is a promise that never settles. -/
inductive Outcome (ρ α : Type) where
  | fulfilled (value : α)
  | rejected (reason : ρ)
  | pending
  deriving DecidableEq, Repr

/-- A synchronous call: the events it caused, then its value or the value it threw. -/
structure Sync (ε ω α : Type) where
  log : List ε
  result : Except ω α

/-- An asynchronous computation: the events it caused and how its promise settles. -/
structure Async (ε ω α : Type) where
  log : List ε
  outcome : Outcome ω α

namespace Sync

variable {ε ω α β γ : Type}

def bind (x : Sync ε ω α) (k : α → Sync ε ω β) : Sync ε ω β :=
  match x.result with
  | .ok a => ⟨x.log ++ (k a).log, (k a).result⟩
  | .error e => ⟨x.log, .error e⟩

instance : Monad (Sync ε ω) where
  pure a := ⟨[], .ok a⟩
  bind := bind

/-- The call returns normally. -/
def Returns (x : Sync ε ω α) : Prop := ∃ a, x.result = .ok a

@[simp] theorem pure_log (a : α) : (pure a : Sync ε ω α).log = [] := rfl
@[simp] theorem pure_result (a : α) : (pure a : Sync ε ω α).result = .ok a := rfl

@[simp] theorem mk_ok_bind (l : List ε) (a : α) (k : α → Sync ε ω β) :
    (⟨l, .ok a⟩ : Sync ε ω α) >>= k = ⟨l ++ (k a).log, (k a).result⟩ := rfl

@[simp] theorem mk_error_bind (l : List ε) (e : ω) (k : α → Sync ε ω β) :
    (⟨l, .error e⟩ : Sync ε ω α) >>= k = ⟨l, .error e⟩ := rfl

@[simp] theorem mk_ok_map (f : α → β) (l : List ε) (a : α) :
    f <$> (⟨l, .ok a⟩ : Sync ε ω α) = ⟨l, .ok (f a)⟩ := by
  show (⟨l ++ [], .ok (f a)⟩ : Sync ε ω β) = _
  rw [List.append_nil]

@[simp] theorem mk_error_map (f : α → β) (l : List ε) (e : ω) :
    f <$> (⟨l, .error e⟩ : Sync ε ω α) = ⟨l, .error e⟩ := rfl

theorem eta (x : Sync ε ω α) : x = ⟨x.log, x.result⟩ := rfl

theorem bind_of_ok {x : Sync ε ω α} {a : α} (h : x.result = .ok a) (k : α → Sync ε ω β) :
    x >>= k = ⟨x.log ++ (k a).log, (k a).result⟩ := by
  rw [eta x, h]; rfl

theorem map_of_ok {x : Sync ε ω α} {a : α} (h : x.result = .ok a) (f : α → β) :
    f <$> x = ⟨x.log, .ok (f a)⟩ := by
  rw [eta x, h, mk_ok_map]

theorem bind_of_error {x : Sync ε ω α} {e : ω} (h : x.result = .error e) (k : α → Sync ε ω β) :
    x >>= k = ⟨x.log, .error e⟩ := by
  rw [eta x, h]; rfl

instance : LawfulMonad (Sync ε ω) := LawfulMonad.mk' _
  (fun x => by cases x with | mk l r => cases r <;> simp [Functor.map, bind])
  (fun a k => by simp [Bind.bind, bind])
  (fun x k k' => by
    cases x with
    | mk l r =>
      cases r with
      | error e => rfl
      | ok a => cases h : (k a).result <;> simp [bind_of_ok, bind_of_error, h])

instance : MonadExceptOf ω (Sync ε ω) where
  throw e := ⟨[], .error e⟩
  tryCatch x handler := match x.result with
    | .ok _ => x
    | .error e => ⟨x.log ++ (handler e).log, (handler e).result⟩

@[simp] theorem throw_eq (e : ω) : (throw e : Sync ε ω α) = ⟨[], .error e⟩ := rfl

/-- `forEach` stops at the first call that throws: the calls after it never run. -/
theorem forM_of_error {f : α → Sync ε ω PUnit} {a : α} {e : ω} (fails : (f a).result = .error e)
    (post : List α) :
    ∀ {pre : List α}, (∀ b ∈ pre, (f b).result = .ok ⟨⟩) →
      (pre ++ a :: post).forM f = ⟨(pre.flatMap fun b => (f b).log) ++ (f a).log, .error e⟩
  | [], _ => by
    show (f a >>= fun _ => post.forM f) = _
    rw [bind_of_error fails]; rfl
  | b :: pre, returns => by
    show (f b >>= fun _ => (pre ++ a :: post).forM f) = _
    rw [bind_of_ok (returns b (.head pre)), forM_of_error fails post fun c mem => returns c (.tail b mem)]
    simp

end Sync

namespace Async

variable {ε ω α β : Type}

def bind (x : Async ε ω α) (k : α → Async ε ω β) : Async ε ω β :=
  match x.outcome with
  | .fulfilled a => ⟨x.log ++ (k a).log, (k a).outcome⟩
  | .rejected e => ⟨x.log, .rejected e⟩
  | .pending => ⟨x.log, .pending⟩

instance : Monad (Async ε ω) where
  pure a := ⟨[], .fulfilled a⟩
  bind := bind

/-- `try { ... } catch (e) { ... }` around code that awaits: a rejection runs the handler. -/
def tryCatch (x : Async ε ω α) (handler : ω → Async ε ω α) : Async ε ω α :=
  match x.outcome with
  | .rejected e => ⟨x.log ++ (handler e).log, (handler e).outcome⟩
  | _ => x

/-- The promise settles, one way or the other. -/
def Settles (x : Async ε ω α) : Prop := x.outcome ≠ .pending

@[simp] theorem pure_log (a : α) : (pure a : Async ε ω α).log = [] := rfl
@[simp] theorem pure_outcome (a : α) : (pure a : Async ε ω α).outcome = .fulfilled a := rfl

@[simp] theorem mk_fulfilled_bind (l : List ε) (a : α) (k : α → Async ε ω β) :
    (⟨l, .fulfilled a⟩ : Async ε ω α) >>= k = ⟨l ++ (k a).log, (k a).outcome⟩ := rfl

@[simp] theorem mk_rejected_bind (l : List ε) (e : ω) (k : α → Async ε ω β) :
    (⟨l, .rejected e⟩ : Async ε ω α) >>= k = ⟨l, .rejected e⟩ := rfl

@[simp] theorem mk_pending_bind (l : List ε) (k : α → Async ε ω β) :
    (⟨l, .pending⟩ : Async ε ω α) >>= k = ⟨l, .pending⟩ := rfl

theorem eta (x : Async ε ω α) : x = ⟨x.log, x.outcome⟩ := rfl

theorem bind_of_fulfilled {x : Async ε ω α} {a : α} (h : x.outcome = .fulfilled a)
    (k : α → Async ε ω β) : x >>= k = ⟨x.log ++ (k a).log, (k a).outcome⟩ := by
  rw [eta x, h]; rfl

theorem bind_of_rejected {x : Async ε ω α} {e : ω} (h : x.outcome = .rejected e)
    (k : α → Async ε ω β) : x >>= k = ⟨x.log, .rejected e⟩ := by
  rw [eta x, h]; rfl

theorem bind_of_pending {x : Async ε ω α} (h : x.outcome = .pending) (k : α → Async ε ω β) :
    x >>= k = ⟨x.log, .pending⟩ := by
  rw [eta x, h]; rfl

theorem tryCatch_bind_of_rejected {x : Async ε ω α} {e : ω} (h : x.outcome = .rejected e)
    (k : α → Async ε ω β) (handler : ω → Async ε ω β) :
    tryCatch (x >>= k) handler = ⟨x.log ++ (handler e).log, (handler e).outcome⟩ := by
  rw [bind_of_rejected h]; rfl

@[simp] theorem mk_rejected_tryCatch (l : List ε) (e : ω) (handler : ω → Async ε ω α) :
    tryCatch ⟨l, .rejected e⟩ handler = ⟨l ++ (handler e).log, (handler e).outcome⟩ := rfl

@[simp] theorem mk_fulfilled_tryCatch (l : List ε) (a : α) (handler : ω → Async ε ω α) :
    tryCatch ⟨l, .fulfilled a⟩ handler = ⟨l, .fulfilled a⟩ := rfl

theorem outcome_bind_of_fulfilled {x : Async ε ω α} {a : α} (h : x.outcome = .fulfilled a)
    (k : α → Async ε ω β) : (x >>= k).outcome = (k a).outcome := by
  rw [bind_of_fulfilled h]

/-- Every value the promise fulfils with satisfies `P`. -/
def Yields (P : α → Prop) (x : Async ε ω α) : Prop := ∀ a, x.outcome = .fulfilled a → P a

theorem pure_yields {P : α → Prop} {a : α} (h : P a) : (pure a : Async ε ω α).Yields P :=
  fun _ fulfilled => Outcome.fulfilled.inj fulfilled ▸ h

theorem bind_yields {x : Async ε ω α} {k : α → Async ε ω β} {P : β → Prop}
    (rest : ∀ a, x.outcome = .fulfilled a → (k a).Yields P) : (x >>= k).Yields P := by
  rw [eta x]
  cases h : x.outcome with
  | fulfilled a => exact rest a h
  | rejected e => exact fun _ => nofun
  | pending => exact fun _ => nofun

theorem tryCatch_yields {x : Async ε ω α} {handler : ω → Async ε ω α} {P : α → Prop}
    (first : x.Yields P) (handles : ∀ e, (handler e).Yields P) : (tryCatch x handler).Yields P := by
  rw [eta x]
  cases h : x.outcome with
  | fulfilled a => exact fun _ fulfilled => first _ (h.trans fulfilled)
  | rejected e => exact handles e
  | pending => exact fun _ => nofun

/-- Where the promise can go besides rejecting: a value it fulfils with satisfies `P`, and it
stays pending only when `hang` holds. -/
structure Guards (P : α → Prop) (hang : Prop) (x : Async ε ω α) : Prop where
  yields : x.Yields P
  hangs : x.outcome = .pending → hang

theorem pure_guards {P : α → Prop} {hang : Prop} {a : α} (h : P a) :
    (pure a : Async ε ω α).Guards P hang :=
  ⟨pure_yields h, nofun⟩

/-- A step that hangs only under `hang`, followed by steps that guard `P`, guards `P`. -/
theorem bind_guards {x : Async ε ω α} {k : α → Async ε ω β} {P : β → Prop} {hang : Prop}
    (first : x.outcome = .pending → hang) (rest : ∀ a, x.outcome = .fulfilled a → (k a).Guards P hang) :
    (x >>= k).Guards P hang := by
  rw [eta x]
  cases h : x.outcome with
  | fulfilled a => exact ⟨(rest a h).yields, (rest a h).hangs⟩
  | rejected e => exact ⟨fun _ => nofun, nofun⟩
  | pending => exact ⟨fun _ => nofun, fun _ => first h⟩

theorem bind_congr {x : Async ε ω α} {k k' : α → Async ε ω β}
    (same : ∀ a, x.outcome = .fulfilled a → k a = k' a) : x >>= k = x >>= k' := by
  rw [eta x]
  cases h : x.outcome with
  | fulfilled a => simp [same a h]
  | rejected e => rfl
  | pending => rfl

/-- What can become of the promise: it never rejects, a value it fulfils with satisfies `P`,
and it stays pending only when `hang` holds. -/
structure Answers (P : α → Prop) (hang : Prop) (x : Async ε ω α) : Prop where
  never_rejects : ∀ e, x.outcome ≠ .rejected e
  yields : x.Yields P
  hangs : x.outcome = .pending → hang

theorem Answers.of_fulfilled {P : α → Prop} {hang : Prop} {x : Async ε ω α} {a : α}
    (fulfilled : x.outcome = .fulfilled a) (holds : P a) : x.Answers P hang where
  never_rejects _ := by rw [fulfilled]; exact nofun
  yields _ other := Outcome.fulfilled.inj (fulfilled.symm.trans other) ▸ holds
  hangs pending := nomatch fulfilled.symm.trans pending

theorem Answers.of_pending {P : α → Prop} {hang : Prop} {x : Async ε ω α}
    (pending : x.outcome = .pending) (hung : hang) : x.Answers P hang where
  never_rejects _ := by rw [pending]; exact nofun
  yields _ fulfilled := nomatch pending.symm.trans fulfilled
  hangs _ := hung

theorem Answers.of_outcome {P : α → Prop} {hang : Prop} {x y : Async ε ω α}
    (same : x.outcome = y.outcome) (answers : y.Answers P hang) : x.Answers P hang where
  never_rejects e := same ▸ answers.never_rejects e
  yields a := same ▸ answers.yields a
  hangs := same ▸ answers.hangs

theorem Answers.mono {P Q : α → Prop} {hang hang' : Prop} {x : Async ε ω α}
    (answers : x.Answers P hang) (holds : ∀ a, P a → Q a) (hung : hang → hang') :
    x.Answers Q hang' where
  never_rejects := answers.never_rejects
  yields a fulfilled := holds a (answers.yields a fulfilled)
  hangs pending := hung (answers.hangs pending)

/-- `try`/`catch` whose handler fulfils on every rejection of the block: the promise never
rejects, fulfils with what the block guards or with the handler's answer, and hangs where the
block does. -/
theorem tryCatch_answers {x : Async ε ω α} {handler : ω → Async ε ω α} {P Q : α → Prop}
    {hang : Prop} (first : x.Guards P hang)
    (handles : ∀ e, x.outcome = .rejected e → ∃ a, (handler e).outcome = .fulfilled a ∧ Q a) :
    (tryCatch x handler).Answers (fun a => P a ∨ Q a) hang := by
  rw [eta x]
  cases h : x.outcome with
  | fulfilled a => exact .of_fulfilled rfl (.inl (first.yields a h))
  | rejected e =>
    obtain ⟨a, fulfilled, holds⟩ := handles e h
    exact .of_fulfilled fulfilled (.inr holds)
  | pending => exact .of_pending rfl (first.hangs h)

/-- Where `hang` fails, the promise fulfils. -/
theorem Answers.fulfils {P : α → Prop} {hang : Prop} {x : Async ε ω α} (answers : x.Answers P hang)
    (settles : ¬ hang) : ∃ a, x.outcome = .fulfilled a ∧ P a := by
  cases h : x.outcome with
  | fulfilled a => exact ⟨a, rfl, answers.yields a h⟩
  | rejected e => exact absurd h (answers.never_rejects e)
  | pending => exact absurd (answers.hangs h) settles

end Async

/-- A synchronous call made from asynchronous code: a throw rejects the caller's promise. -/
def Sync.toAsync {ε ω α : Type} (x : Sync ε ω α) : Async ε ω α :=
  ⟨x.log, match x.result with
    | .ok a => .fulfilled a
    | .error e => .rejected e⟩

instance {ε ω : Type} : MonadLift (Sync ε ω) (Async ε ω) := ⟨Sync.toAsync⟩

@[simp] theorem Sync.liftM_eq {ε ω α : Type} (x : Sync ε ω α) :
    (liftM x : Async ε ω α) = x.toAsync := rfl

@[simp] theorem Sync.toAsync_mk_ok {ε ω α : Type} (l : List ε) (a : α) :
    (⟨l, .ok a⟩ : Sync ε ω α).toAsync = ⟨l, .fulfilled a⟩ := rfl

@[simp] theorem Sync.toAsync_mk_error {ε ω α : Type} (l : List ε) (e : ω) :
    (⟨l, .error e⟩ : Sync ε ω α).toAsync = ⟨l, .rejected e⟩ := rfl

theorem Sync.toAsync_of_ok {ε ω α : Type} {x : Sync ε ω α} {a : α} (h : x.result = .ok a) :
    x.toAsync = ⟨x.log, .fulfilled a⟩ := by
  rw [Sync.eta x, h]; rfl

theorem Sync.result_of_toAsync {ε ω α : Type} {x : Sync ε ω α} {a : α}
    (h : x.toAsync.outcome = .fulfilled a) : x.result = .ok a := by
  rw [Sync.eta x] at h ⊢
  cases hx : x.result <;> simp_all [Sync.toAsync]

theorem Sync.toAsync_settles {ε ω α : Type} (x : Sync ε ω α) : x.toAsync.Settles := by
  unfold Async.Settles Sync.toAsync
  cases x.result <;> simp

/-- A synchronous step never hangs, so it passes on what the steps after it guard. -/
theorem Sync.toAsync_bind_guards {ε ω α β : Type} {x : Sync ε ω α} {k : α → Async ε ω β}
    {P : β → Prop} {hang : Prop} (rest : ∀ a, x.result = .ok a → (k a).Guards P hang) :
    (x.toAsync >>= k).Guards P hang :=
  Async.bind_guards (fun pending => absurd pending (Sync.toAsync_settles x))
    fun a fulfilled => rest a (Sync.result_of_toAsync fulfilled)

end RestateSdk
