import LintScan.Scan.Basic
import Mathlib.Order.Defs.Unbundled

/-!
# Sessions, step by step

A scan is an attempt over a session.  This file says how one is carried out from a given state.

* `Session.runFrom`, `Attempt.runFrom` — what a computation comes to, and the state that it leaves.
* `Attempt.runFrom_bind`, `Attempt.runFrom_bind_ok_iff` — how a step after another one ends: well if
  both do.
* `Session.Within`, `Attempt.Within` — a computation leads only to states that are related to the
  one that it starts from; so do steps one after the other, each of which does.
* `Session.Looks` — a session that looks at the machine, comes to a value, and changes nothing but
  the journal.
-/

namespace LintScan

variable {ε δ α β : Type}

/-! ## From a state -/

/-- What a session comes to from a state, and the state that it leaves. -/
def Session.runFrom (m : Session α) (s : SessionState) : α × SessionState := StateT.run m s

/-- What an attempt comes to from a state, and the state that it leaves. -/
def Attempt.runFrom (a : Attempt ε α) (s : SessionState) : Except ε α × SessionState :=
  Session.runFrom (ExceptT.run a) s

namespace Session

@[simp] theorem runFrom_pure (a : α) (s : SessionState) :
    runFrom (pure a : Session α) s = (a, s) := rfl

@[simp] theorem runFrom_bind (m : Session α) (f : α → Session β) (s : SessionState) :
    runFrom (m >>= f) s = runFrom (f (runFrom m s).1) (runFrom m s).2 := rfl

@[simp] theorem runFrom_host (s : SessionState) : runFrom host s = (s.host, s) := rfl

/-- To look at what an attempt comes to is to carry it out. -/
@[simp] theorem runFrom_run (a : Attempt ε α) (s : SessionState) :
    runFrom (ExceptT.run a) s = a.runFrom s := rfl

end Session

namespace Attempt

@[simp] theorem runFrom_pure (a : α) (s : SessionState) :
    runFrom (pure a : Attempt ε α) s = (.ok a, s) := rfl

/-- A session inside an attempt does not fail. -/
@[simp] theorem runFrom_lift (m : Session α) (s : SessionState) :
    runFrom (liftM m : Attempt ε α) s = (.ok (m.runFrom s).1, (m.runFrom s).2) := rfl

/-- To look at the outcome of an attempt does not fail. -/
@[simp] theorem runFrom_outcome (a : Attempt ε α) (s : SessionState) :
    runFrom (outcome a : Attempt δ _) s = (.ok (a.runFrom s).1, (a.runFrom s).2) := rfl

/-- A query inside a scan leaves the state alone. -/
@[simp] theorem runFrom_ofExcept (wrap : ε → RunError) (x : Except ε α) (s : SessionState) :
    runFrom (RunError.ofExcept wrap x) s = (x.mapError wrap, s) := by
  cases x <;> rfl

theorem runFrom_bind (a : Attempt ε α) (f : α → Attempt ε β) (s : SessionState) :
    runFrom (a >>= f) s =
      match a.runFrom s with
      | (.ok x, s₁) => (f x).runFrom s₁
      | (.error e, s₁) => (.error e, s₁) := by
  have step : runFrom (a >>= f) s =
      Session.runFrom (ExceptT.bindCont f (a.runFrom s).1) (a.runFrom s).2 := rfl
  rw [step]
  obtain ⟨x | x, s₁⟩ := a.runFrom s <;> rfl

theorem runFrom_bind_ok_iff {a : Attempt ε α} {f : α → Attempt ε β} {s s' : SessionState} {b : β} :
    runFrom (a >>= f) s = (.ok b, s') ↔
      ∃ x s₁, a.runFrom s = (.ok x, s₁) ∧ (f x).runFrom s₁ = (.ok b, s') := by
  rw [runFrom_bind]
  obtain ⟨e | x, s₁⟩ := a.runFrom s <;> simp [and_assoc]

theorem runFrom_bind_of_ok {a : Attempt ε α} {s s₁ : SessionState} {x : α} (f : α → Attempt ε β)
    (h : a.runFrom s = (.ok x, s₁)) : runFrom (a >>= f) s = (f x).runFrom s₁ := by
  rw [runFrom_bind, h]

end Attempt

/-! ## Where a computation leads -/

/-- A session leads from each state to one that is related to it. -/
def Session.Within (r : SessionState → SessionState → Prop) (m : Session α) : Prop :=
  ∀ s, r s (m.runFrom s).2

/-- An attempt leads from each state to one that is related to it, whether it fails or not. -/
def Attempt.Within (r : SessionState → SessionState → Prop) (a : Attempt ε α) : Prop :=
  ∀ s, r s (a.runFrom s).2

section Within

variable {r r' : SessionState → SessionState → Prop}

theorem Session.Within.mono {m : Session α} (hm : m.Within r) (h : ∀ s s', r s s' → r' s s') :
    m.Within r' := fun s => h _ _ (hm s)

namespace Attempt.Within

theorem mono {a : Attempt ε α} (ha : a.Within r) (h : ∀ s s', r s s' → r' s s') :
    a.Within r' := fun s => h _ _ (ha s)

theorem lift {m : Session α} (hm : m.Within r) : Within r (liftM m : Attempt ε α) := hm

theorem outcome {a : Attempt ε α} (ha : a.Within r) :
    Within r (Attempt.outcome a : Attempt δ _) := ha

end Attempt.Within

variable [IsPreorder SessionState r]

namespace Session.Within

theorem pure (a : α) : Within r (Pure.pure a : Session α) := refl_of r

theorem host : Within r Session.host := refl_of r

theorem bind {m : Session α} {f : α → Session β} (hm : Within r m) (hf : ∀ a, Within r (f a)) :
    Within r (m >>= f) := fun s => trans_of r (hm s) (hf _ _)

theorem mapM {f : α → Session β} (hf : ∀ a, Within r (f a)) (as : List α) :
    Within r (as.mapM f) := by
  induction as with
  | nil => exact pure []
  | cons a as ih =>
    rw [List.mapM_cons]
    exact (hf a).bind fun b => ih.bind fun bs => pure (b :: bs)

theorem foldlM {f : β → α → Session β} (hf : ∀ b a, Within r (f b a)) (b : β) (as : List α) :
    Within r (as.foldlM f b) := by
  induction as generalizing b with
  | nil => exact pure b
  | cons a as ih => exact (hf b a).bind ih

end Session.Within

namespace Attempt.Within

theorem pure (a : α) : Within r (Pure.pure a : Attempt ε α) := refl_of r

theorem throw (e : ε) : Within r (MonadExcept.throw e : Attempt ε α) := refl_of r

theorem ofExcept (wrap : ε → RunError) (x : Except ε α) :
    Within r (RunError.ofExcept wrap x) := by
  intro s
  rw [runFrom_ofExcept]
  exact refl_of r s

/-- One step after another; the second may rely on what the first comes to. -/
theorem bind_of_ok {a : Attempt ε α} {f : α → Attempt ε β} (ha : a.Within r)
    (hf : ∀ s x s₁, a.runFrom s = (.ok x, s₁) → r s₁ ((f x).runFrom s₁).2) :
    Within r (a >>= f) := by
  intro s
  have hfirst := ha s
  rw [runFrom_bind]
  rcases hrun : a.runFrom s with ⟨e | x, s₁⟩
  · rwa [hrun] at hfirst
  · rw [hrun] at hfirst
    exact trans_of r hfirst (hf s x s₁ hrun)

theorem bind {a : Attempt ε α} {f : α → Attempt ε β} (ha : a.Within r)
    (hf : ∀ x, (f x).Within r) : Within r (a >>= f) :=
  ha.bind_of_ok fun _ x s₁ _ => hf x s₁

theorem foldlM {f : β → α → Attempt ε β} (hf : ∀ b a, (f b a).Within r) (b : β) (as : List α) :
    Within r (as.foldlM f b) := by
  induction as generalizing b with
  | nil => exact pure b
  | cons a as ih => exact (hf b a).bind ih

/-- A loop without a result leads where each of its rounds does. -/
theorem forIn {f : α → PUnit → Attempt ε (ForInStep PUnit)} (hf : ∀ a u, (f a u).Within r)
    (as : List α) : Within r (forIn as PUnit.unit f) := by
  induction as with
  | nil => exact pure _
  | cons a as ih =>
    rw [List.forIn_cons]
    refine (hf a _).bind fun step => ?_
    cases step with
    | done u => exact pure u
    | yield u => exact ih

end Attempt.Within

end Within

/-! ## Looking at the machine -/

/-- A session that comes to what the machine tells, and changes nothing but the journal. -/
def Session.Looks (value : Host → α) (m : Session α) : Prop :=
  ∀ s, ∃ journal, m.runFrom s = (value s.host, { s with journal })

namespace Session.Looks

theorem pure (a : α) : Looks (fun _ => a) (Pure.pure a : Session α) := fun s => ⟨s.journal, rfl⟩

theorem host : Looks (fun h => h) Session.host := fun s => ⟨s.journal, rfl⟩

theorem log (level : LogLevel) (text : String) : Looks (fun _ => ()) (Session.log level text) :=
  fun _ => ⟨_, rfl⟩

theorem bind {m : Session α} {f : α → Session β} {value : Host → α} {value' : α → Host → β}
    (hm : Looks value m) (hf : ∀ a, Looks (value' a) (f a)) :
    Looks (fun h => value' (value h) h) (m >>= f) := by
  intro s
  obtain ⟨j, hj⟩ := hm s
  obtain ⟨j', hj'⟩ := hf (value s.host) { s with journal := j }
  exact ⟨j', by rw [runFrom_bind, hj, hj']⟩

theorem mapM {f : α → Session β} {value : α → Host → β} (hf : ∀ a, Looks (value a) (f a))
    (as : List α) : Looks (fun h => as.map fun a => value a h) (as.mapM f) := by
  induction as with
  | nil => exact pure []
  | cons a as ih =>
    rw [List.mapM_cons]
    exact (hf a).bind fun b => ih.bind fun bs => pure (b :: bs)

theorem value_eq {m : Session α} {value : Host → α} (hm : Looks value m) (s : SessionState) :
    (m.runFrom s).1 = value s.host := by
  obtain ⟨_, hj⟩ := hm s
  rw [hj]

end Session.Looks

end LintScan
