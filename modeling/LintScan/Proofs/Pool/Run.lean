import LintScan.Proofs.Pool.Steps
import Mathlib.Logic.Relation
import Mathlib.Order.GameAdd

/-!
# Pools of workers

Several jobs are carried out by some workers at once.  This file says what can happen then, and that
nothing of it matters to a job that keeps to its own places:

* `Pool.Step` — a worker takes one step of a job; a job is begun only while a worker is free.
* `Pool.Settled`, `Settled.step`, `Settled.run` — every job will come to what it comes to alone; a
  step keeps this up, and so does a run.
* `Pool.exists_step` — as long as a job is not done, some worker can take a step.
* `Pool.acc_step` — no run goes on for ever.
-/

namespace LintScan

open Relation

variable {α β : Type}

/-- A job: whether it has begun, and what is left of it. -/
structure Job (β : Type) where
  begun : Bool := false
  task : Steps β

/-- Jobs, and the state that they share. -/
structure Pool (β : Type) where
  jobs : List (Job β)
  state : SessionState

namespace Job

/-- Whether a worker is at the job: it has begun and is not done. -/
def isRunning (j : Job β) : Bool :=
  j.begun && match j.task with
    | .done _ => false
    | _ => true

end Job

namespace Pool

/-- The pool before any of some jobs has begun. -/
def waiting (tasks : List (Steps β)) (s : SessionState) : Pool β :=
  { jobs := tasks.map fun task => { task }, state := s }

/-- How many workers are busy. -/
def busy (p : Pool β) : Nat := p.jobs.countP (·.isRunning)

/-- A worker takes the next step of a job. A job that has not begun needs a free worker. -/
inductive Step (workers : Nat) : Pool β → Pool β → Prop
  | step {p : Pool β} {i : Nat} {j : Job β} {task : Steps β} {s : SessionState} :
      p.jobs[i]? = some j → (j.begun = true ∨ p.busy < workers) →
      j.task.step? p.state = some (task, s) →
      Step workers p ⟨p.jobs.set i ⟨true, task⟩, s⟩

variable {workers : Nat} {p p' : Pool β}

/-! ## What the jobs come to -/

/-- Every job will come to its value: seen from the job, the machine looks like one on which it goes
its way alone, and the way leads to the value. -/
def Settled (owner : Place → Option Nat) (values : List β) (p : Pool β) : Prop :=
  p.jobs.length = values.length ∧ ∀ i (j : Job β) v, p.jobs[i]? = some j → values[i]? = some v →
    ∃ h, j.task.Local owner i h ∧ Alike owner i h p.state.host ∧ j.task.value h = v

namespace Settled

variable {owner : Place → Option Nat} {values : List β}

theorem waiting {tasks : List (Steps β)} {s : SessionState}
    (apart : ∀ i (task : Steps β), tasks[i]? = some task → task.Local owner i s.host) :
    Settled owner (tasks.map (·.value s.host)) (.waiting tasks s) := by
  unfold Settled Pool.waiting
  refine ⟨by simp, fun i j v hj hv => ?_⟩
  simp only [List.getElem?_map, Option.map_eq_some_iff] at hj hv
  obtain ⟨task, htask, rfl⟩ := hj
  obtain ⟨task', htask', rfl⟩ := hv
  cases htask.symm.trans htask'
  exact ⟨s.host, apart i task htask, .refl _, rfl⟩

/-- A step of one job leaves every job on its way. -/
theorem step (h : p.Settled owner values) (hstep : Step workers p p') :
    p'.Settled owner values := by
  obtain @⟨i, j, task, s, hi, _, htask⟩ := hstep
  obtain ⟨hlength, hjobs⟩ := h
  refine ⟨by simpa using hlength, fun k j' v hk hv => ?_⟩
  obtain ⟨hlt, _⟩ := List.getElem?_eq_some_iff.1 hi
  obtain ⟨w, hw⟩ : ∃ w, values[i]? = some w := by
    rw [hlength] at hlt
    exact ⟨_, List.getElem?_eq_getElem hlt⟩
  obtain ⟨m, hlocal, halike, hvalue⟩ := hjobs i j w hi hw
  obtain ⟨hspares, hnext⟩ := hlocal.step halike htask
  by_cases hki : k = i
  · subst hki
    rw [List.getElem?_set_self hlt] at hk
    cases hk
    cases hw.symm.trans hv
    rw [← hvalue]
    exact hnext
  · rw [List.getElem?_set_ne (Ne.symm hki)] at hk
    obtain ⟨m', hlocal', halike', hvalue'⟩ := hjobs k j' v hk hv
    exact ⟨m', hlocal', halike'.trans (hspares.alike hki), hvalue'⟩

/-- So does a run. -/
theorem run (h : p.Settled owner values) (hrun : ReflTransGen (Step workers) p p') :
    p'.Settled owner values := by
  induction hrun with
  | refl => exact h
  | tail _ hstep ih => exact ih.step hstep

/-- Jobs that are done have come to their values. -/
theorem eq_done (h : p.Settled owner values) (ended : ∀ j ∈ p.jobs, ∃ v, j.task = .done v) :
    p.jobs.map (·.task) = values.map .done := by
  obtain ⟨hlength, hjobs⟩ := h
  apply List.ext_getElem?
  intro i
  rw [List.getElem?_map, List.getElem?_map]
  by_cases hi : i < values.length
  · have hv := List.getElem?_eq_getElem hi
    have hj := List.getElem?_eq_getElem (hlength.symm ▸ hi)
    obtain ⟨w, hw⟩ := ended _ (List.mem_of_getElem? hj)
    obtain ⟨m, _, _, hvalue⟩ := hjobs i _ _ hj hv
    rw [hw] at hvalue
    rw [hj, hv, Option.map_some, Option.map_some, hw]
    exact congrArg (fun v => some (Steps.done v)) hvalue
  · rw [List.getElem?_eq_none (by omega), List.getElem?_eq_none (by omega)]
    rfl

end Settled

/-! ## Progress -/

theorem exists_step?_of_not_done {task : Steps β} (h : ∀ v, task ≠ .done v) (s : SessionState) :
    ∃ task' s', task.step? s = some (task', s') := by
  cases task with
  | done v => exact absurd rfl (h v)
  | record entry t => exact ⟨_, _, rfl⟩
  | act change t => exact ⟨_, _, rfl⟩

/-- As long as a job is not done, some worker can take a step: one that is at a job, or else a free
one. -/
theorem exists_step (hworkers : 0 < workers) {j : Job β} (hj : j ∈ p.jobs)
    (hopen : ∀ v, j.task ≠ .done v) : ∃ p', Step workers p p' := by
  have hstep : ∀ k ∈ p.jobs, (∀ v, k.task ≠ .done v) → (k.begun = true ∨ p.busy < workers) →
      ∃ p', Step workers p p' := by
    intro k hk hopen hfree
    obtain ⟨i, hi⟩ := List.getElem?_of_mem hk
    obtain ⟨task, s, htask⟩ := exists_step?_of_not_done hopen p.state
    exact ⟨_, .step hi hfree htask⟩
  by_cases hbusy : p.busy = 0
  · exact hstep j hj hopen (.inr (by omega))
  · obtain ⟨k, hk, hrunning⟩ := List.countP_pos_iff.1 (Nat.pos_of_ne_zero hbusy)
    unfold Job.isRunning at hrunning
    rw [Bool.and_eq_true] at hrunning
    refine hstep k hk (fun v hv => ?_) (.inl hrunning.1)
    rw [hv] at hrunning
    exact absurd hrunning.2 (by simp)

/-! ## Every run ends -/

/-- One of some tasks is replaced by what is left of it after its next step. -/
def OneOnward (ts' ts : List (Steps β)) : Prop :=
  ∃ i t t', ts[i]? = some t ∧ Steps.Rest t' t ∧ ts' = ts.set i t'

theorem acc_oneOnward (ts : List (Steps β)) : Acc OneOnward ts := by
  induction ts with
  | nil =>
    refine ⟨_, fun ts' ⟨i, t, t', h, _⟩ => ?_⟩
    simp at h
  | cons t ts ih =>
    -- Either the head goes on or one of the others does, and neither can do so for ever.
    have hpair : ∀ q : Steps β × List (Steps β), Acc (Prod.GameAdd Steps.Rest OneOnward) q →
        Acc OneOnward (q.1 :: q.2) := by
      intro q hq
      induction hq with
      | intro q _ ihq =>
        refine ⟨_, fun ts' ⟨i, u, u', hu, hrest, hts'⟩ => ?_⟩
        subst hts'
        cases i with
        | zero =>
          cases hu
          exact ihq (u', q.2) (Prod.GameAdd.fst hrest)
        | succ i =>
          exact ihq (q.1, q.2.set i u') (Prod.GameAdd.snd ⟨i, u, u', hu, hrest, rfl⟩)
    exact hpair (t, ts) ((Steps.acc_rest t).prod_gameAdd ih)

/-- No run goes on for ever. -/
theorem acc_step (workers : Nat) (p : Pool β) : Acc (fun p' p => Step workers p p') p := by
  have hback : Subrelation (fun p' p => Step workers p p')
      (InvImage OneOnward fun p : Pool β => p.jobs.map (·.task)) := by
    rintro _ p @⟨i, j, task, s, hi, _, htask⟩
    refine ⟨i, j.task, task, ?_, ⟨p.state, s, htask⟩, ?_⟩
    · simp only
      rw [List.getElem?_map, hi]
      rfl
    · simp only
      rw [List.map_set]
  exact Subrelation.accessible hback (InvImage.accessible _ (acc_oneOnward _))

end Pool

end LintScan
