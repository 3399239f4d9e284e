import LintScan.Proofs.Pool.Alike

/-!
# Tasks that keep to their places

A task is put together from looks at the machine and changes of its files.  This file gives the
rules by which it is seen that such a task keeps to the places of its job:

* `Session.OnlyLooks`, `Session.OnlyNotes` — sessions that only look at the machine, and those that
  only write into the journal.
* `Steps.look` — the task that does in one step what a session does that only looks.
* `Session.SeesAlike` — a session that does not notice what belongs to other jobs.
* `Steps.Keeps` — from a machine of some kind, a task keeps to the places of its job, leaves a
  machine of this kind again, and comes to a value that is as it should be.
* `Keeps.bind`, `Keeps.foldlM`, `Keeps.look`, `KeepsAttempt.hostBind` — the rules.
-/

namespace LintScan

variable {ε α β γ : Type} {owner : Place → Option Nat} {i : Nat} {h : Host}

/-! ## Sessions that only look -/

/-- A session that only looks at the machine, whatever it sees there. -/
def Session.OnlyLooks (m : Session α) : Prop := ∃ value, m.Looks value

/-- An attempt that only looks at the machine. -/
def Attempt.OnlyLooks (a : Attempt ε α) : Prop := Session.OnlyLooks (ExceptT.run a)

theorem Session.Looks.onlyLooks {value : Host → α} {m : Session α} (hm : m.Looks value) :
    m.OnlyLooks := ⟨value, hm⟩

theorem Session.OnlyLooks.bind {m : Session α} {f : α → Session β} (hm : m.OnlyLooks)
    (hf : ∀ a, (f a).OnlyLooks) : (m >>= f).OnlyLooks := by
  obtain ⟨value, hvalue⟩ := hm
  choose values hvalues using hf
  exact (hvalue.bind hvalues).onlyLooks

namespace Attempt.OnlyLooks

theorem pure (a : α) : OnlyLooks (Pure.pure a : Attempt ε α) :=
  (Session.Looks.pure (Except.ok a)).onlyLooks

theorem throw (e : ε) : OnlyLooks (MonadExcept.throw e : Attempt ε α) :=
  (Session.Looks.pure (Except.error e)).onlyLooks

theorem lift {m : Session α} (hm : m.OnlyLooks) : OnlyLooks (liftM m : Attempt ε α) :=
  hm.bind fun a => (Session.Looks.pure (Except.ok a)).onlyLooks

theorem bind {a : Attempt ε α} {f : α → Attempt ε β} (ha : a.OnlyLooks)
    (hf : ∀ x, (f x).OnlyLooks) : (a >>= f).OnlyLooks := by
  have hcont : Session.OnlyLooks (ExceptT.run a >>= ExceptT.bindCont f) := by
    refine Session.OnlyLooks.bind ha fun outcome => ?_
    cases outcome with
    | ok x => exact hf x
    | error e => exact (Session.Looks.pure _).onlyLooks
  exact hcont

end Attempt.OnlyLooks

/-- A session that only writes into the journal. -/
def Session.OnlyNotes (m : Session α) : Prop :=
  ∃ (a : α) (entry : Journal → Journal),
    ∀ s, m.runFrom s = (a, { s with journal := entry s.journal })

/-- An attempt that only writes into the journal. -/
def Attempt.OnlyNotes (a : Attempt ε α) : Prop := Session.OnlyNotes (ExceptT.run a)

namespace Session.OnlyNotes

theorem pure (a : α) : OnlyNotes (Pure.pure a : Session α) := ⟨a, id, fun _ => rfl⟩

theorem log (level : LogLevel) (text : String) : OnlyNotes (Session.log level text) :=
  ⟨(), fun j => { j with log := j.log ++ [⟨level, text⟩] }, fun _ => rfl⟩

theorem logAll (es : List LogEntry) : OnlyNotes (Session.logAll es) :=
  ⟨(), fun j => { j with log := j.log ++ es }, fun _ => rfl⟩

theorem printLine (line : String) : OnlyNotes (Session.printLine line) :=
  ⟨(), fun j => { j with printed := j.printed ++ line ++ "\n" }, fun _ => rfl⟩

theorem bind {m : Session α} {f : α → Session β} (hm : m.OnlyNotes) (hf : ∀ a, (f a).OnlyNotes) :
    (m >>= f).OnlyNotes := by
  obtain ⟨a, entry, hentry⟩ := hm
  obtain ⟨b, entry', hentry'⟩ := hf a
  refine ⟨b, fun j => entry' (entry j), fun s => ?_⟩
  rw [runFrom_bind, hentry, hentry']

theorem onlyLooks {m : Session α} (hm : m.OnlyNotes) : m.OnlyLooks := by
  obtain ⟨a, entry, hentry⟩ := hm
  exact ⟨fun _ => a, fun s => ⟨_, hentry s⟩⟩

end Session.OnlyNotes

namespace Attempt.OnlyNotes

theorem pure (a : α) : OnlyNotes (Pure.pure a : Attempt ε α) := Session.OnlyNotes.pure (Except.ok a)

theorem throw (e : ε) : OnlyNotes (MonadExcept.throw e : Attempt ε α) :=
  Session.OnlyNotes.pure (Except.error e)

theorem lift {m : Session α} (hm : m.OnlyNotes) : OnlyNotes (liftM m : Attempt ε α) :=
  hm.bind fun a => .pure (Except.ok a)

theorem bind {a : Attempt ε α} {f : α → Attempt ε β} (ha : a.OnlyNotes)
    (hf : ∀ x, (f x).OnlyNotes) : (a >>= f).OnlyNotes := by
  have hcont : Session.OnlyNotes (ExceptT.run a >>= ExceptT.bindCont f) := by
    refine Session.OnlyNotes.bind ha fun outcome => ?_
    cases outcome with
    | ok x => exact hf x
    | error e => exact .pure _
  exact hcont

theorem onlyLooks {a : Attempt ε α} (ha : a.OnlyNotes) : a.OnlyLooks :=
  Session.OnlyNotes.onlyLooks ha

/-- A loop without a result only writes into the journal if each of its rounds does. -/
theorem forIn {f : α → PUnit → Attempt ε (ForInStep PUnit)} (hf : ∀ a u, (f a u).OnlyNotes)
    (as : List α) : OnlyNotes (forIn as PUnit.unit f) := by
  induction as with
  | nil => exact pure _
  | cons a as ih =>
    rw [List.forIn_cons]
    refine (hf a _).bind fun step => ?_
    cases step with
    | done u => exact pure u
    | yield u => exact ih

end Attempt.OnlyNotes

/-! ## Looks in one step -/

namespace Steps

/-- The step that does what a session does which only looks: it looks at the machine, and writes
into the journal what the session writes. -/
def look (m : Session α) : Steps α :=
  act id fun h =>
    record (fun j => (m.runFrom ⟨h, j⟩).2.journal) (done (m.runFrom ⟨h, {}⟩).1)

/-- The step that does what an attempt does which only looks. -/
def lookAttempt (a : Attempt ε α) : ExceptT ε Steps α := ExceptT.mk (look (ExceptT.run a))

theorem Does.look {m : Session α} (hm : m.OnlyLooks) : (Steps.look m).Does m := by
  obtain ⟨value, hvalue⟩ := hm
  intro s
  obtain ⟨j, hj⟩ := hvalue s
  obtain ⟨_, hnone⟩ := hvalue ⟨s.host, {}⟩
  unfold Steps.look
  simp only [alone, hnone]
  exact (congrArg (fun s' => (value s.host, { s with journal := s'.2.journal })) hj).trans hj.symm

theorem DoesAttempt.lookAttempt {a : Attempt ε α} (ha : a.OnlyLooks) :
    DoesAttempt (Steps.lookAttempt a) a := Does.look ha

theorem bind_done (t : Steps α) : t.bind done = t := by
  induction t with
  | done a => rfl
  | record entry t ih => exact congrArg (record entry) ih
  | act change t ih => exact congrArg (act change) (funext ih)

theorem bind_bind (t : Steps α) (f : α → Steps β) (g : β → Steps γ) :
    (t.bind f).bind g = t.bind fun a => (f a).bind g := by
  induction t with
  | done a => rfl
  | record entry t ih => exact congrArg (record entry) ih
  | act change t ih => exact congrArg (act change) (funext ih)

instance : LawfulMonad Steps := .mk' Steps bind_done (fun _ _ => rfl) bind_bind

theorem Does.mapM {f : α → Steps β} {g : α → Session β} (hf : ∀ a, (f a).Does (g a))
    (as : List α) : (as.mapM f).Does (as.mapM g) := by
  induction as with
  | nil => exact .pure []
  | cons a as ih =>
    rw [List.mapM_cons, List.mapM_cons]
    exact (hf a).bind fun b => ih.bind fun bs => .pure (b :: bs)

end Steps

/-! ## What a session does not notice -/

/-- A session comes to the same, and writes the same into the journal, on all machines that look
alike to a job. -/
def Session.SeesAlike (owner : Place → Option Nat) (i : Nat) (h : Host) (m : Session α) : Prop :=
  ∀ h', Alike owner i h h' → ∀ j, (m.runFrom ⟨h', j⟩).1 = (m.runFrom ⟨h, j⟩).1 ∧
    (m.runFrom ⟨h', j⟩).2.journal = (m.runFrom ⟨h, j⟩).2.journal

namespace Session.SeesAlike

/-- A session that only writes into the journal does not notice anything. -/
theorem of_onlyNotes {m : Session α} (hm : m.OnlyNotes) : m.SeesAlike owner i h := by
  obtain ⟨a, entry, hentry⟩ := hm
  intro h' _ j
  rw [hentry, hentry]
  exact ⟨rfl, rfl⟩

/-- To look at the machine is fine if what follows is the same. -/
theorem hostBind {f : Host → Session β} (same : ∀ h', Alike owner i h h' → f h' = f h)
    (hf : (f h).SeesAlike owner i h) : (Session.host >>= f).SeesAlike owner i h := by
  intro h' a j
  rw [runFrom_bind, runFrom_bind, runFrom_host, runFrom_host]
  simp only [same h' a]
  exact hf h' a j

/-- The same of an attempt. -/
theorem hostBindAttempt {f : Host → Attempt ε β} (same : ∀ h', Alike owner i h h' → f h' = f h)
    (hf : Session.SeesAlike owner i h (f h).run) :
    Session.SeesAlike owner i h ((liftM Session.host : Attempt ε Host) >>= f).run :=
  hostBind (fun h' a => congrArg ExceptT.run (same h' a)) hf

theorem bind {m : Session α} {f : α → Session β} (looks : m.OnlyLooks)
    (hm : m.SeesAlike owner i h) (hf : ∀ a, (f a).SeesAlike owner i h) :
    (m >>= f).SeesAlike owner i h := by
  obtain ⟨value, hvalue⟩ := looks
  intro h' a j
  obtain ⟨hsame, hjournal⟩ := hm h' a j
  obtain ⟨j₁, h₁⟩ := hvalue ⟨h, j⟩
  obtain ⟨j₂, h₂⟩ := hvalue ⟨h', j⟩
  rw [h₁, h₂] at hsame hjournal
  simp only at hsame hjournal
  rw [runFrom_bind, runFrom_bind, h₁, h₂]
  simp only [hsame, hjournal]
  exact hf _ h' a j₁

end Session.SeesAlike

/-! ## Rules -/

namespace Steps

theorem value_bind (t : Steps α) (f : α → Steps β) (h : Host) :
    (t >>= f).value h = (f (t.value h)).value (t.leaves h) := by
  induction t generalizing h with
  | done a => rfl
  | record entry t ih => exact ih h
  | act change t ih => exact ih h (change h)

theorem leaves_bind (t : Steps α) (f : α → Steps β) (h : Host) :
    (t >>= f).leaves h = (f (t.value h)).leaves (t.leaves h) := by
  induction t generalizing h with
  | done a => rfl
  | record entry t ih => exact ih h
  | act change t ih => exact ih h (change h)

/-- From a machine of some kind, a task keeps to the places of its job, leaves a machine of this
kind again, and comes to a value that is as it should be. -/
structure Keeps (owner : Place → Option Nat) (i : Nat) (C : Host → Prop) (h : Host) (t : Steps α)
    (Q : α → Prop) : Prop where
  apart : t.Local owner i h
  stays : C (t.leaves h)
  value : Q (t.value h)

/-- The same of a task that may fail; its value counts only if it does not. -/
def KeepsAttempt (owner : Place → Option Nat) (i : Nat) (C : Host → Prop) (h : Host)
    (t : ExceptT ε Steps α) (Q : α → Prop) : Prop :=
  Keeps owner i C h t.run fun outcome => ∀ a, outcome = .ok a → Q a

variable {C : Host → Prop} {Q : α → Prop} {R : β → Prop}

namespace Keeps

theorem mono {Q' : α → Prop} {t : Steps α} (ht : Keeps owner i C h t Q) (hQ : ∀ a, Q a → Q' a) :
    Keeps owner i C h t Q' := ⟨ht.apart, ht.stays, hQ _ ht.value⟩

theorem pure {a : α} (hC : C h) (hQ : Q a) : Keeps owner i C h (Pure.pure a) Q :=
  ⟨trivial, hC, hQ⟩

theorem note {Q : Unit → Prop} (entry : Journal → Journal) (hC : C h) (hQ : Q ()) :
    Keeps owner i C h (Steps.note entry) Q :=
  ⟨trivial, hC, hQ⟩

theorem bind {t : Steps α} {f : α → Steps β} (ht : Keeps owner i C h t Q)
    (hf : ∀ a, Q a → ∀ h', C h' → Keeps owner i C h' (f a) R) :
    Keeps owner i C h (t >>= f) R := by
  obtain ⟨hlocal, hC, hQ⟩ := ht
  obtain ⟨hlocal', hC', hR⟩ := hf _ hQ _ hC
  refine ⟨hlocal.bind hlocal', ?_, ?_⟩
  · rwa [leaves_bind]
  · rwa [value_bind]

/-- A look keeps to its places if it does not notice what belongs to other jobs. -/
theorem look {m : Session α} (hm : m.SeesAlike owner i h) (hC : C h)
    (hQ : Q (m.runFrom ⟨h, {}⟩).1) : Keeps owner i C h (Steps.look m) Q := by
  refine ⟨⟨fun h' a => ⟨?_, a, .refl h'⟩, trivial⟩, hC, hQ⟩
  beta_reduce
  rw [(hm h' a {}).1, funext fun j => (hm h' a j).2]

/-- A change of files keeps to its places if it does so when it works. -/
theorem changeFiles {change : FileTree → Place → Except FileError FileTree}
    (apart : (Steps.changeFiles change).Local owner i h) (hC : C h)
    (stays : ∀ files, change h.files h.workingDirectory = .ok files → C { h with files }) :
    Keeps owner i C h (Steps.changeFiles change) fun _ => True := by
  refine ⟨apart, ?_, trivial⟩
  unfold Steps.changeFiles
  simp only [leaves]
  cases hchange : change h.files h.workingDirectory with
  | error e => exact hC
  | ok files => exact stays files hchange

/-- A loop keeps to its places if each round does. -/
theorem foldlM {f : β → α → Steps β} {as : List α} {b : β} (hC : C h) (hb : R b)
    (hf : ∀ b a, a ∈ as → R b → ∀ h, C h → Keeps owner i C h (f b a) R) :
    Keeps owner i C h (as.foldlM f b) R := by
  induction as generalizing b h with
  | nil => exact .pure hC hb
  | cons a as ih =>
    rw [List.foldlM_cons]
    exact (hf b a List.mem_cons_self hb h hC).bind fun b hb h hC =>
      ih hC hb fun b a ha => hf b a (List.mem_cons_of_mem _ ha)

theorem mapM {f : α → Steps β} {as : List α} (hC : C h)
    (hf : ∀ a ∈ as, ∀ h, C h → Keeps owner i C h (f a) R) :
    Keeps owner i C h (as.mapM f) fun bs => ∀ b ∈ bs, R b := by
  induction as generalizing h with
  | nil => exact .pure hC nofun
  | cons a as ih =>
    rw [List.mapM_cons]
    obtain ⟨ha, has⟩ := List.forall_mem_cons.1 hf
    exact (ha h hC).bind fun b hb h hC => (ih hC has).bind fun bs hbs h hC =>
      .pure hC (List.forall_mem_cons.2 ⟨hb, hbs⟩)

end Keeps

namespace KeepsAttempt

theorem pure {a : α} (hC : C h) (hQ : Q a) :
    KeepsAttempt owner i C h (Pure.pure a : ExceptT ε Steps α) Q :=
  Keeps.pure hC fun _ hb => Except.ok.inj hb ▸ hQ

theorem throw (e : ε) (hC : C h) :
    KeepsAttempt owner i C h (MonadExcept.throw e : ExceptT ε Steps α) Q :=
  ⟨trivial, hC, fun _ hb => by cases hb⟩

theorem lift {t : Steps α} (ht : Keeps owner i C h t Q) :
    KeepsAttempt owner i C h (liftM t : ExceptT ε Steps α) Q :=
  Keeps.bind ht fun _ ha _ hC => Keeps.pure hC fun _ hb => Except.ok.inj hb ▸ ha

theorem bind {t : ExceptT ε Steps α} {f : α → ExceptT ε Steps β}
    (ht : KeepsAttempt owner i C h t Q)
    (hf : ∀ a, Q a → ∀ h', C h' → KeepsAttempt owner i C h' (f a) R) :
    KeepsAttempt owner i C h (t >>= f) R := by
  have hcont : Keeps owner i C h (t.run >>= ExceptT.bindCont f)
      fun outcome => ∀ b, outcome = .ok b → R b := by
    refine Keeps.bind ht fun outcome houtcome h' hC => ?_
    cases outcome with
    | ok a => exact hf a (houtcome a rfl) h' hC
    | error e => exact ⟨trivial, hC, fun _ hb => by cases hb⟩
  exact hcont

/-- A task that begins with a look at the machine. -/
theorem hostBind {f : Host → ExceptT ε Steps β}
    (same : ∀ h', Alike owner i h h' → f h' = f h) (hf : KeepsAttempt owner i C h (f h) R) :
    KeepsAttempt owner i C h ((liftM Steps.host : ExceptT ε Steps Host) >>= f) R :=
  ⟨.hostBind same hf.apart, hf.stays, hf.value⟩

theorem lookAttempt {a : Attempt ε α} (ha : Session.SeesAlike owner i h a.run) (hC : C h)
    (hQ : ∀ x, (a.runFrom ⟨h, {}⟩).1 = .ok x → Q x) :
    KeepsAttempt owner i C h (Steps.lookAttempt a) Q :=
  Keeps.look ha hC hQ

theorem foldlM {f : β → α → ExceptT ε Steps β} {as : List α} {b : β} (hC : C h) (hb : R b)
    (hf : ∀ b a, a ∈ as → R b → ∀ h, C h → KeepsAttempt owner i C h (f b a) R) :
    KeepsAttempt owner i C h (as.foldlM f b) R := by
  induction as generalizing b h with
  | nil => exact .pure hC hb
  | cons a as ih =>
    rw [List.foldlM_cons]
    exact (hf b a List.mem_cons_self hb h hC).bind fun b hb h hC =>
      ih hC hb fun b a ha => hf b a (List.mem_cons_of_mem _ ha)

end KeepsAttempt

end Steps

end LintScan
