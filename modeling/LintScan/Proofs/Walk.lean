import Mathlib.Data.List.Nodup
import Mathlib.Logic.Relation

/-!
# Walks

Levels, parents and dependencies are looked up by walks that may fail and that go along a relation
between names.

* `bind_eq_ok_iff`, `bind_eq_error_iff` — how a step after another one ends.
* `foldlM_ok`, `foldlM_error`, `foldlM_ok_step` and their likes for `mapM` — a walk over a list ends
  well if each of its steps does, and ends badly only through one of its steps.
* `transGen_of_mem_snoc` — the names that a walk has passed lie below the next one.
* `NoCycleFrom` — no name that can be reached lies on a cycle; `noCycleFrom_of_acc` — so it is where
  every way onward ends.
* `Avoiding` — the steps that do not start at a given name; `noCycleFrom_of_avoiding` — a cycle
  needs other steps only if it can be reached from that name.
-/

namespace LintScan

open Relation

variable {α β ε σ : Type}

/-! ## Steps that may fail -/

theorem bind_eq_ok_iff {x : Except ε α} {f : α → Except ε β} {b : β} :
    (x >>= f) = .ok b ↔ ∃ a, x = .ok a ∧ f a = .ok b := by
  cases x with
  | error e => simp [bind, Except.bind]
  | ok a => simp [bind, Except.bind]

theorem bind_eq_error_iff {x : Except ε α} {f : α → Except ε β} {e : ε} :
    (x >>= f) = .error e ↔ x = .error e ∨ ∃ a, x = .ok a ∧ f a = .error e := by
  cases x with
  | error e' => simp [bind, Except.bind]
  | ok a => simp [bind, Except.bind]

theorem map_eq_ok_iff {x : Except ε α} {f : α → β} {b : β} :
    x.map f = .ok b ↔ ∃ a, x = .ok a ∧ f a = b := by
  cases x with
  | error e => simp [Except.map]
  | ok a => simp [Except.map]

theorem ok_of_not_error {x : Except ε α} (h : ∀ e, x ≠ .error e) : ∃ a, x = .ok a := by
  cases x with
  | error e => exact absurd rfl (h e)
  | ok a => exact ⟨a, rfl⟩

/-! ## Walks over a list -/

theorem foldlM_error {f : σ → α → Except ε σ} {e : ε} :
    ∀ {as : List α} {s : σ}, as.foldlM f s = .error e → ∃ t, ∃ a ∈ as, f t a = .error e
  | [], s, h => by cases h
  | a :: as, s, h => by
    rw [List.foldlM_cons, bind_eq_error_iff] at h
    rcases h with h | ⟨t, _, h⟩
    · exact ⟨s, a, List.mem_cons_self, h⟩
    · obtain ⟨t, b, hb, he⟩ := foldlM_error h
      exact ⟨t, b, List.mem_cons_of_mem _ hb, he⟩

theorem foldlM_ok {f : σ → α → Except ε σ} {as : List α} (s : σ)
    (h : ∀ t, ∀ a ∈ as, ∃ u, f t a = .ok u) : ∃ u, as.foldlM f s = .ok u := by
  apply ok_of_not_error
  intro e he
  obtain ⟨t, a, ha, hf⟩ := foldlM_error he
  obtain ⟨u, hu⟩ := h t a ha
  rw [hu] at hf
  cases hf

theorem foldlM_ok_step {f : σ → α → Except ε σ} :
    ∀ {as : List α} {s u : σ}, as.foldlM f s = .ok u → ∀ a ∈ as, ∃ t v, f t a = .ok v
  | a :: as, s, u, h, b, hb => by
    rw [List.foldlM_cons, bind_eq_ok_iff] at h
    obtain ⟨t, ht, h⟩ := h
    rcases List.mem_cons.1 hb with rfl | hb
    · exact ⟨s, t, ht⟩
    · exact foldlM_ok_step h b hb

/-- A walk goes the same way with other steps, as long as these do the same where what is known of
the state at the end holds. -/
theorem foldlM_ok_congr {f g : σ → α → Except ε σ} {known : σ → Prop}
    (back : ∀ {s a t}, f s a = .ok t → known t → known s)
    (each : ∀ {s a t}, f s a = .ok t → known t → g s a = .ok t) :
    ∀ {as : List α} {s u : σ}, as.foldlM f s = .ok u → known u →
      known s ∧ as.foldlM g s = .ok u
  | [], s, u, h, hu => by
    cases h
    exact ⟨hu, rfl⟩
  | a :: as, s, u, h, hu => by
    rw [List.foldlM_cons, bind_eq_ok_iff] at h
    obtain ⟨t, ht, h⟩ := h
    obtain ⟨hknown, hrest⟩ := foldlM_ok_congr back each h hu
    refine ⟨back ht hknown, ?_⟩
    rw [List.foldlM_cons, each ht hknown]
    exact hrest

theorem mapM_error {f : α → Except ε β} {e : ε} :
    ∀ {as : List α}, as.mapM f = .error e → ∃ a ∈ as, f a = .error e
  | [], h => by cases h
  | a :: as, h => by
    rw [List.mapM_cons, bind_eq_error_iff] at h
    rcases h with h | ⟨b, _, h⟩
    · exact ⟨a, List.mem_cons_self, h⟩
    · rw [bind_eq_error_iff] at h
      rcases h with h | ⟨bs, _, h⟩
      · obtain ⟨a', ha, he⟩ := mapM_error h
        exact ⟨a', List.mem_cons_of_mem _ ha, he⟩
      · cases h

theorem mapM_ok {f : α → Except ε β} {as : List α} (h : ∀ a ∈ as, ∃ b, f a = .ok b) :
    ∃ bs, as.mapM f = .ok bs := by
  apply ok_of_not_error
  intro e he
  obtain ⟨a, ha, hf⟩ := mapM_error he
  obtain ⟨b, hb⟩ := h a ha
  rw [hb] at hf
  cases hf

theorem mapM_cons_eq_ok_iff {f : α → Except ε β} {a : α} {as : List α} {bs : List β} :
    (a :: as).mapM f = .ok bs ↔
      ∃ b rest, f a = .ok b ∧ as.mapM f = .ok rest ∧ bs = b :: rest := by
  rw [List.mapM_cons, bind_eq_ok_iff]
  constructor
  · rintro ⟨b, hb, h⟩
    obtain ⟨rest, hrest, h⟩ := bind_eq_ok_iff.1 h
    cases h
    exact ⟨b, rest, hb, hrest, rfl⟩
  · rintro ⟨b, rest, hb, hrest, rfl⟩
    exact ⟨b, hb, bind_eq_ok_iff.2 ⟨rest, hrest, rfl⟩⟩

theorem mapM_ok_step {f : α → Except ε β} :
    ∀ {as : List α} {bs : List β}, as.mapM f = .ok bs → ∀ a ∈ as, ∃ b, f a = .ok b
  | a :: as, bs, h, a', ha => by
    obtain ⟨b, rest, hb, hrest, _⟩ := mapM_cons_eq_ok_iff.1 h
    rcases List.mem_cons.1 ha with rfl | ha
    · exact ⟨b, hb⟩
    · exact mapM_ok_step hrest a' ha

theorem mapM_ok_mem {f : α → Except ε β} :
    ∀ {as : List α} {bs : List β}, as.mapM f = .ok bs → ∀ b ∈ bs, ∃ a ∈ as, f a = .ok b
  | [], bs, h, b, hb => by
    cases h
    cases hb
  | a :: as, bs, h, b, hb => by
    obtain ⟨b', rest, hb', hrest, rfl⟩ := mapM_cons_eq_ok_iff.1 h
    rcases List.mem_cons.1 hb with rfl | hb
    · exact ⟨a, List.mem_cons_self, hb'⟩
    · obtain ⟨a', ha', hf⟩ := mapM_ok_mem hrest b hb
      exact ⟨a', List.mem_cons_of_mem a ha', hf⟩

theorem mapM_congr {f g : α → Except ε β} {as : List α} (h : ∀ a ∈ as, g a = f a) :
    as.mapM g = as.mapM f := by
  induction as with
  | nil => rfl
  | cons a as ih =>
    rw [List.mapM_cons, List.mapM_cons, h a List.mem_cons_self,
      ih fun b hb => h b (List.mem_cons_of_mem a hb)]

/-- Steps that go on as those of another walk have its results, each changed alike. -/
theorem mapM_ok_map {γ : Type} {f : α → Except ε β} {g : α → Except ε γ} {k : β → γ} :
    ∀ {as : List α} {bs : List β}, as.mapM f = .ok bs →
      (∀ a ∈ as, ∀ b, f a = .ok b → g a = .ok (k b)) → as.mapM g = .ok (bs.map k)
  | [], bs, h, _ => by
    cases h
    rfl
  | a :: as, bs, h, hg => by
    obtain ⟨b, rest, hb, hrest, rfl⟩ := mapM_cons_eq_ok_iff.1 h
    have htail := mapM_ok_map hrest fun a' ha' => hg a' (List.mem_cons_of_mem a ha')
    exact mapM_cons_eq_ok_iff.2 ⟨k b, _, hg a List.mem_cons_self b hb, htail, rfl⟩

/-! ## The names that a walk has passed -/

theorem nodup_snoc {passed : List α} {a : α} (h : passed.Nodup) (ha : a ∉ passed) :
    (passed ++ [a]).Nodup := by
  rw [← List.concat_eq_append, List.nodup_concat]
  exact ⟨ha, h⟩

variable {r : α → α → Prop} {a b : α}

theorem transGen_of_mem_snoc {passed : List α} (below : ∀ c ∈ passed, TransGen r c a)
    (hab : r a b) : ∀ c ∈ passed ++ [a], TransGen r c b := by
  intro c hc
  rcases List.mem_append.1 hc with hc | hc
  · exact (below c hc).tail hab
  · rw [List.mem_singleton] at hc
    exact hc ▸ .single hab

/-! ## Cycles -/

/-- No cycle can be reached from `a`. -/
def NoCycleFrom (r : α → α → Prop) (a : α) : Prop :=
  ∀ b, ReflTransGen r a b → ¬ TransGen r b b

theorem NoCycleFrom.step (h : NoCycleFrom r a) (hab : r a b) : NoCycleFrom r b :=
  fun c hc => h c (.head hab hc)

theorem not_transGen_of_acc (h : Acc (fun b a => r a b) a) : ¬ TransGen r a a := by
  induction h with
  | intro a _ ih =>
    intro hc
    obtain ⟨b, hab, hba⟩ := TransGen.head'_iff.1 hc
    exact ih b hab (TransGen.tail' hba hab)

theorem noCycleFrom_of_acc (h : Acc (fun b a => r a b) a) : NoCycleFrom r a := by
  intro b hb
  have hacc : Acc (fun b a => r a b) b := by
    induction hb with
    | refl => exact h
    | tail _ hbc ih => exact ih.inv hbc
  exact not_transGen_of_acc hacc

theorem NoCycleFrom.mono {s : α → α → Prop} (h : NoCycleFrom s a) (hrs : ∀ x y, r x y → s x y) :
    NoCycleFrom r a :=
  fun b hb hcycle => h b (ReflTransGen.mono hrs a b hb) (TransGen.mono hrs b b hcycle)

/-! ## Steps that do not start at a given name -/

/-- The steps that do not start at `d`. -/
def Avoiding (r : α → α → Prop) (d a b : α) : Prop := a ≠ d ∧ r a b

/-- A way either takes no step from `d`, or comes to `d` and goes on from there. -/
theorem reflTransGen_avoiding_or (d : α) (h : ReflTransGen r a b) :
    ReflTransGen (Avoiding r d) a b ∨ (ReflTransGen r a d ∧ ReflTransGen r d b) := by
  induction h with
  | refl => exact .inl .refl
  | @tail b c hab hbc ih =>
    rcases ih with havoid | ⟨had, hdb⟩
    · by_cases hb : b = d
      · subst hb
        exact .inr ⟨hab, .single hbc⟩
      · exact .inl (havoid.tail ⟨hb, hbc⟩)
    · exact .inr ⟨had, hdb.tail hbc⟩

theorem transGen_avoiding_or (d : α) (h : TransGen r a b) :
    TransGen (Avoiding r d) a b ∨ (ReflTransGen r a d ∧ TransGen r d b) := by
  obtain ⟨c, hac, hcb⟩ := TransGen.tail'_iff.1 h
  rcases reflTransGen_avoiding_or d hac with havoid | ⟨had, hdc⟩
  · by_cases hc : c = d
    · subst hc
      exact .inr ⟨hac, .single hcb⟩
    · exact .inl (.tail' havoid ⟨hc, hcb⟩)
  · exact .inr ⟨had, .tail' hdc hcb⟩

/-- Where the steps that do not start at `d` lead to no cycle, a cycle can only be reached from
`d`. -/
theorem noCycleFrom_of_avoiding {d : α} (havoid : NoCycleFrom (Avoiding r d) a)
    (hd : ReflTransGen r a d → NoCycleFrom r d) : NoCycleFrom r a := by
  intro b hab hcycle
  rcases transGen_avoiding_or d hcycle with hround | ⟨hbd, hdb⟩
  · rcases reflTransGen_avoiding_or d hab with hway | ⟨had, hdb⟩
    · exact havoid b hway hround
    · exact hd had b hdb hcycle
  · exact hd (hab.trans hbd) d .refl (hdb.trans_left hbd)

theorem NoCycleFrom.of_reach (h : NoCycleFrom r a) (hab : ReflTransGen r a b) : NoCycleFrom r b :=
  fun c hbc => h c (hab.trans hbc)

end LintScan
