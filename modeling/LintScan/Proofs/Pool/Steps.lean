import LintScan.Proofs.Session

/-!
# Tasks in steps

A session is carried out at one go.  What several workers do at once is told step by step, so this
file cuts sessions into steps, and says what a step may look at and change if it is not to disturb
the others:

* `Steps` — a task in steps: steps that write into the journal, which no step looks at, and steps
  that look at the machine and change it; `Steps.alone` carries a task out.
* `Steps.Does`, `Steps.DoesAttempt` — a task does what a session or an attempt does, and the tasks
  of which one is put together may be taken one by one.
* `Alike`, `Spares` — where every place of the files belongs to a job or to nobody: the machines
  that look alike to a job, and the changes that leave the places of the others alone.
* `Steps.Local` — along the way that a task goes alone, each of its steps depends only on what looks
  alike to its job, and spares the others.
* `Steps.Local.value_eq`, `Steps.Local.step` — such a task comes to the same from every machine that
  looks alike, and each of its steps keeps to its way.
* `Steps.acc_rest` — a task does not go on for ever.
-/

namespace LintScan

variable {ε α β γ : Type}

/-! ## Steps -/

/-- A task in steps. A step writes into the journal, or it looks at the machine and changes
it; what comes next may depend on what it has seen. -/
inductive Steps (α : Type) where
  | done (a : α)
  | record (entry : Journal → Journal) (rest : Steps α)
  | act (change : Host → Host) (rest : Host → Steps α)

namespace Steps

/-- The steps of a task and then those of a second one. -/
def bind : Steps α → (α → Steps β) → Steps β
  | done a, f => f a
  | record entry t, f => record entry (t.bind f)
  | act change t, f => act change fun h => (t h).bind f

instance : Monad Steps where
  pure := done
  bind := bind

/-- The step that writes into the journal. -/
def note (entry : Journal → Journal) : Steps Unit := record entry (done ())

/-- The step that looks at the machine. -/
def host : Steps Host := act id done

/-- The step that changes the files, unless the change fails. -/
def changeFiles (change : FileTree → Place → Except FileError FileTree) :
    Steps (Except FileError Unit) :=
  act
    (fun h => match change h.files h.workingDirectory with
      | .error _ => h
      | .ok files => { h with files })
    fun h => done ((change h.files h.workingDirectory).map fun _ => ())

/-- The next step of a task, which leaves the rest of the task and another state. -/
def step? : Steps α → SessionState → Option (Steps α × SessionState)
  | done _, _ => none
  | record entry t, s => some (t, { s with journal := entry s.journal })
  | act change t, s => some (t s.host, { s with host := change s.host })

/-- All steps of a task one after the other. -/
def alone : Steps α → SessionState → α × SessionState
  | done a, s => (a, s)
  | record entry t, s => t.alone { s with journal := entry s.journal }
  | act change t, s => (t s.host).alone { s with host := change s.host }

/-- What a task comes to. -/
def value : Steps α → Host → α
  | done a, _ => a
  | record _ t, h => t.value h
  | act change t, h => (t h).value (change h)

/-- The machine that a task leaves. -/
def leaves : Steps α → Host → Host
  | done _, h => h
  | record _ t, h => t.leaves h
  | act change t, h => (t h).leaves (change h)

theorem alone_fst (t : Steps α) (s : SessionState) : (t.alone s).1 = t.value s.host := by
  induction t generalizing s with
  | done a => rfl
  | record entry t ih => exact ih _
  | act change t ih => exact ih s.host _

theorem alone_host (t : Steps α) (s : SessionState) : (t.alone s).2.host = t.leaves s.host := by
  induction t generalizing s with
  | done a => rfl
  | record entry t ih => exact ih _
  | act change t ih => exact ih s.host _

theorem alone_bind (t : Steps α) (f : α → Steps β) (s : SessionState) :
    (t >>= f).alone s = (f (t.alone s).1).alone (t.alone s).2 := by
  induction t generalizing s with
  | done a => rfl
  | record entry t ih => exact ih _
  | act change t ih => exact ih s.host _

/-! ## What a task does -/

/-- The task does what the session does. -/
def Does (t : Steps α) (m : Session α) : Prop := ∀ s, t.alone s = m.runFrom s

/-- The task does what the attempt does. -/
def DoesAttempt (t : ExceptT ε Steps α) (a : Attempt ε α) : Prop := Does t.run a.run

namespace Does

theorem pure (a : α) : Does (Pure.pure a) (Pure.pure a) := fun _ => rfl

theorem host : Steps.host.Does Session.host := fun _ => rfl

theorem changeFiles (change : FileTree → Place → Except FileError FileTree) :
    (Steps.changeFiles change).Does (Session.changeFiles change) := by
  intro s
  unfold Session.changeFiles
  rw [Session.runFrom_bind, Session.runFrom_host]
  unfold Steps.changeFiles alone
  cases h : change s.host.files s.host.workingDirectory with
  | error e => simp only [h]; rfl
  | ok files => simp only [h]; rfl

theorem bind {t : Steps α} {m : Session α} {f : α → Steps β} {g : α → Session β} (h : t.Does m)
    (hf : ∀ a, (f a).Does (g a)) : (t >>= f).Does (m >>= g) := by
  intro s
  rw [alone_bind, h s, hf, Session.runFrom_bind]

theorem foldlM {f : β → α → Steps β} {g : β → α → Session β} (hf : ∀ b a, (f b a).Does (g b a))
    (as : List α) (b : β) : (as.foldlM f b).Does (as.foldlM g b) := by
  induction as generalizing b with
  | nil => exact pure b
  | cons a as ih => exact (hf b a).bind ih

end Does

namespace DoesAttempt

theorem pure (a : α) : DoesAttempt (Pure.pure a : ExceptT ε Steps α) (Pure.pure a) := fun _ => rfl

theorem throw (e : ε) :
    DoesAttempt (MonadExcept.throw e : ExceptT ε Steps α) (MonadExcept.throw e) := fun _ => rfl

theorem lift {t : Steps α} {m : Session α} (h : t.Does m) :
    DoesAttempt (liftM t : ExceptT ε Steps α) (liftM m) :=
  h.bind fun a => Does.pure (Except.ok a)

theorem bind {t : ExceptT ε Steps α} {a : Attempt ε α} {f : α → ExceptT ε Steps β}
    {g : α → Attempt ε β} (h : DoesAttempt t a) (hf : ∀ x, DoesAttempt (f x) (g x)) :
    DoesAttempt (t >>= f) (a >>= g) := by
  have hcont : Does (t.run >>= ExceptT.bindCont f) (a.run >>= ExceptT.bindCont g) := by
    refine Does.bind h fun outcome => ?_
    cases outcome with
    | ok x => exact hf x
    | error e => exact Does.pure _
  exact hcont

theorem foldlM {f : β → α → ExceptT ε Steps β} {g : β → α → Attempt ε β}
    (hf : ∀ b a, DoesAttempt (f b a) (g b a)) (as : List α) (b : β) :
    DoesAttempt (as.foldlM f b) (as.foldlM g b) := by
  induction as generalizing b with
  | nil => exact pure b
  | cons a as ih => exact (hf b a).bind ih

end DoesAttempt

end Steps

/-! ## Places of jobs -/

/-- The machine with only those entries whose places are kept. -/
def Host.restrict (h : Host) (keep : Place → Bool) : Host :=
  { h with files := ⟨h.files.entries.filter fun e => keep e.1⟩ }

theorem Host.restrict_restrict {keep keep' : Place → Bool} (h : Host)
    (hle : ∀ place, keep place = true → keep' place = true) :
    (h.restrict keep').restrict keep = h.restrict keep := by
  unfold restrict
  simp only [List.filter_filter]
  congr 2
  refine List.filter_congr fun e _ => ?_
  cases hk : keep e.1 with
  | false => rfl
  | true => rw [hle e.1 hk, Bool.and_self]

/-- What is known of a place. -/
theorem FileTree.entry?_restrict {h : Host} {keep : Place → Bool} {place : Place}
    (hkeep : keep place = true) : (h.restrict keep).files.entry? place = h.files.entry? place := by
  unfold FileTree.entry? Host.restrict
  split
  · rfl
  · simp only
    induction h.files.entries with
    | nil => rfl
    | cons e es ih =>
      rw [List.lookup_cons]
      by_cases he : place = e.1
      · subst he
        rw [List.filter_cons, if_pos hkeep, List.lookup_cons]
        simp
      · have hb : (place == e.1) = false := by simpa using he
        rw [hb, List.filter_cons]
        split
        · rw [List.lookup_cons, hb]
          exact ih
        · exact ih

variable (owner : Place → Option Nat) (i : Nat)

/-- Whether a job may look at a place: it belongs to the job or to nobody. -/
def mayLook (place : Place) : Bool := owner place = none || owner place = some i

/-- Two machines look alike to a job. -/
def Alike (h h' : Host) : Prop := h.restrict (mayLook owner i) = h'.restrict (mayLook owner i)

/-- A change leaves alone what does not belong to a job. -/
def Spares (h h' : Host) : Prop :=
  h'.restrict (fun place => owner place ≠ some i) = h.restrict fun place => owner place ≠ some i

variable {owner i} {h h' h'' : Host}

theorem Alike.refl (h : Host) : Alike owner i h h := rfl

theorem Alike.trans (a : Alike owner i h h') (b : Alike owner i h' h'') : Alike owner i h h'' :=
  Eq.trans a b

theorem Spares.refl (h : Host) : Spares owner i h h := rfl

theorem Spares.trans (a : Spares owner i h h') (b : Spares owner i h' h'') :
    Spares owner i h h'' :=
  Eq.trans b a

/-- To another job a machine looks as it did before. -/
theorem Spares.alike {j : Nat} (a : Spares owner i h h') (hj : j ≠ i) : Alike owner j h h' := by
  have hle : ∀ place, mayLook owner j place = true → decide (owner place ≠ some i) = true := by
    intro place hplace
    unfold mayLook at hplace
    grind
  have ha := congrArg (fun h => h.restrict (mayLook owner j)) a
  simp only [Host.restrict_restrict _ hle] at ha
  exact ha.symm

/-- Machines that look alike agree on the places that a job may look at. -/
theorem Alike.entry? (a : Alike owner i h h') {place : Place}
    (hlook : mayLook owner i place = true) :
    h'.files.entry? place = h.files.entry? place := by
  rw [← FileTree.entry?_restrict (h := h') hlook, ← FileTree.entry?_restrict (h := h) hlook, a]

/-- The machine with an entry put in. -/
def Host.put (h : Host) (place : Place) (e : Entry) : Host :=
  { h with files := h.files.set place e }

/-- Machines that look alike do so after an entry is put in. -/
theorem Alike.put (a : Alike owner i h h') (place : Place) (e : Entry) :
    Alike owner i (h.put place e) (h'.put place e) := by
  have hput : ∀ h : Host, (h.put place e).restrict (mayLook owner i) =
      ((h.restrict (mayLook owner i)).put place e).restrict (mayLook owner i) := by
    intro h
    unfold Host.put Host.restrict FileTree.set
    simp only [List.filter_append, List.filter_filter]
    congr 3
    refine List.filter_congr fun d _ => ?_
    cases mayLook owner i d.1 <;> simp
  unfold Alike at a ⊢
  rw [hput h, hput h', a]

/-- An entry that a job puts in at a place of its own spares the others. -/
theorem Spares.put {place : Place} (hown : owner place = some i) (e : Entry) :
    Spares owner i h (h.put place e) := by
  have hother : ∀ d : Place × Entry,
      (decide (owner d.1 ≠ some i) && d.1 != place) = decide (owner d.1 ≠ some i) := by
    intro d
    by_cases hd : d.1 = place
    · simp [hd, hown]
    · simp [hd]
  unfold Spares Host.put Host.restrict FileTree.set
  simp only [List.filter_append, List.filter_filter, hother]
  simp [hown]

namespace Steps

/-- Along the way that a task goes alone from a machine, what each step sees and does depends only
on what looks alike to the job, and each step spares the places of the others. -/
def Local (owner : Place → Option Nat) (i : Nat) : Steps α → Host → Prop
  | done _, _ => True
  | record _ t, h => t.Local owner i h
  | act change t, h =>
    (∀ h', Alike owner i h h' →
      t h' = t h ∧ Alike owner i (change h) (change h') ∧ Spares owner i h' (change h')) ∧
      (t h).Local owner i (change h)

namespace Local

variable {t : Steps α}

theorem bind {f : α → Steps β} (ht : t.Local owner i h)
    (hf : (f (t.value h)).Local owner i (t.leaves h)) : (t >>= f).Local owner i h := by
  induction t generalizing h with
  | done a => exact hf
  | record entry t ih => exact ih ht hf
  | act change t ih =>
    obtain ⟨hstep, hrest⟩ := ht
    refine ⟨fun h' halike => ?_, ih h hrest hf⟩
    obtain ⟨hnext, hchange⟩ := hstep h' halike
    exact ⟨congrArg (·.bind f) hnext, hchange⟩

theorem bindAttempt {t : ExceptT ε Steps α} {f : α → ExceptT ε Steps β}
    (ht : t.run.Local owner i h)
    (hf : ∀ a, t.run.value h = .ok a → (f a).run.Local owner i (t.run.leaves h)) :
    (t >>= f).run.Local owner i h := by
  have hcont : (t.run >>= ExceptT.bindCont f).Local owner i h := by
    refine bind ht ?_
    cases hv : t.run.value h with
    | ok a => exact hf a hv
    | error e => trivial
  exact hcont

/-- A task that begins with a look at the machine. -/
theorem hostBind {f : Host → ExceptT ε Steps β}
    (same : ∀ h', Alike owner i h h' → f h' = f h) (hf : (f h).run.Local owner i h) :
    ((liftM Steps.host : ExceptT ε Steps Host) >>= f).run.Local owner i h :=
  ⟨fun h' a => ⟨congrArg ExceptT.run (same h' a), a, .refl h'⟩, hf⟩

/-- Such a task comes to the same from every machine that looks alike; it spares the others, and
leaves machines that look alike again. -/
theorem value_eq (ht : t.Local owner i h) (halike : Alike owner i h h') :
    t.value h' = t.value h ∧ Alike owner i (t.leaves h) (t.leaves h') ∧
      Spares owner i h' (t.leaves h') := by
  induction t generalizing h h' with
  | done a => exact ⟨rfl, halike, .refl h'⟩
  | record entry t ih => exact ih ht halike
  | act change t ih =>
    obtain ⟨hstep, hrest⟩ := ht
    obtain ⟨hnext, hchange, hspares⟩ := hstep h' halike
    obtain ⟨hvalue, hleaves, hspares'⟩ := ih h hrest hchange
    simp only [value, leaves, hnext]
    exact ⟨hvalue, hleaves, hspares.trans hspares'⟩

/-- The next step of such a task, taken on a machine that looks alike, keeps to the way that the
task goes alone, and spares the others. -/
theorem step {s s' : SessionState} {t' : Steps α} (ht : t.Local owner i h)
    (halike : Alike owner i h s.host) (hstep : t.step? s = some (t', s')) :
    Spares owner i s.host s'.host ∧
      ∃ h', t'.Local owner i h' ∧ Alike owner i h' s'.host ∧ t'.value h' = t.value h := by
  cases t with
  | done a => cases hstep
  | record entry t =>
    cases hstep
    exact ⟨.refl _, h, ht, halike, rfl⟩
  | act change t =>
    cases hstep
    obtain ⟨hlook, hrest⟩ := ht
    obtain ⟨hnext, hchange, hspares⟩ := hlook s.host halike
    rw [hnext]
    exact ⟨hspares, change h, hrest, hchange, rfl⟩

end Local

/-! ## How long a task goes on -/

/-- What is left of a task after its next step. -/
def Rest (t' t : Steps α) : Prop := ∃ s s', t.step? s = some (t', s')

theorem acc_rest (t : Steps α) : Acc Rest t := by
  induction t with
  | done a => exact ⟨_, fun t' ⟨_, _, h⟩ => by cases h⟩
  | record entry t ih =>
    refine ⟨_, fun t' ⟨_, _, h⟩ => ?_⟩
    cases h
    exact ih
  | act change t ih =>
    refine ⟨_, fun t' ⟨s, _, h⟩ => ?_⟩
    cases h
    exact ih s.host

end Steps

end LintScan
