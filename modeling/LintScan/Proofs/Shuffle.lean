import Mathlib.Data.List.Dedup
import Mathlib.Data.List.Perm.Basic

/-!
# Shuffled lists

Several writers put entries into one list, each of them in its own order.  This file says what is
known of such a list, and that a sort which keeps the order of equal entries takes it apart again:

* `Shuffle` — a list put together from others by taking the head of one of them again and again.
* `Shuffle.filter_eq` — of a shuffled list, the entries that only one writer has are those of this
  writer, in its order.
* `filter_mergeSort` — sorting by a key leaves the entries of one key in their order.
* `mergeSort_eq_flatMap` — so a list sorted by a key is made up of the entries of each key, the keys
  ascending.
* `mergeSort_congr` — lists with the same entries of each key are sorted into one list.
-/

namespace LintScan

variable {α κ : Type}

/-- The last list is put together from the others: as long as one of them has an entry left, the
next entry is the head of one of them. -/
inductive Shuffle : List (List α) → List α → Prop
  | done {ls : List (List α)} : (∀ l ∈ ls, l = []) → Shuffle ls []
  | take {ls : List (List α)} {i : Nat} {a : α} {rest log : List α} :
      ls[i]? = some (a :: rest) → Shuffle (ls.set i rest) log → Shuffle ls (a :: log)

namespace Shuffle

variable {ls : List (List α)} {log : List α}

/-- Entries that are passed over are passed over in every list. -/
theorem filter (p : α → Bool) (h : Shuffle ls log) :
    Shuffle (ls.map (List.filter p)) (log.filter p) := by
  induction h with
  | done hempty =>
    refine .done fun l hl => ?_
    obtain ⟨m, hm, rfl⟩ := List.mem_map.1 hl
    rw [hempty m hm]
    rfl
  | @take ls i a rest log hi _ ih =>
    have hhead : (ls.map (List.filter p))[i]? = some ((a :: rest).filter p) := by
      rw [List.getElem?_map, hi]
      rfl
    rw [List.map_set] at ih
    by_cases hp : p a = true
    · rw [List.filter_cons_of_pos hp] at hhead ⊢
      exact .take hhead ih
    · rw [List.filter_cons_of_neg hp] at hhead ⊢
      obtain ⟨hlt, hget⟩ := List.getElem?_eq_some_iff.1 hhead
      rwa [← hget, List.set_getElem_self] at ih

/-- What is put together from one list, beside empty ones, is this list. -/
theorem eq_of_others_empty {i : Nat} {l : List α} (h : Shuffle ls log) (hl : ls[i]? = some l)
    (others : ∀ j m, ls[j]? = some m → j ≠ i → m = []) : log = l := by
  induction h generalizing l with
  | done hempty => exact (hempty l (List.mem_of_getElem? hl)).symm
  | @take ls j a rest log hj _ ih =>
    have hji : j = i := by
      by_contra hne
      cases others j _ hj hne
    subst hji
    obtain rfl : a :: rest = l := by
      rw [hj] at hl
      exact Option.some.inj hl
    obtain ⟨hlt, _⟩ := List.getElem?_eq_some_iff.1 hj
    congr 1
    refine ih (List.getElem?_set_self hlt) fun k m hk hne => ?_
    rw [List.getElem?_set_ne (Ne.symm hne)] at hk
    exact others k m hk hne

/-- Of a shuffled list, the entries that only one of the lists has are those of this list, in its
order. -/
theorem filter_eq {i : Nat} {l : List α} (p : α → Bool) (h : Shuffle ls log)
    (hl : ls[i]? = some l)
    (others : ∀ j m, ls[j]? = some m → j ≠ i → ∀ a ∈ m, p a = false) :
    log.filter p = l.filter p := by
  refine (h.filter p).eq_of_others_empty (i := i) (by rw [List.getElem?_map, hl]; rfl) ?_
  intro j m hj hne
  rw [List.getElem?_map] at hj
  obtain ⟨m', hm', rfl⟩ := Option.map_eq_some_iff.1 hj
  rw [List.filter_eq_nil_iff]
  intro a ha
  simp [others j m' hm' hne a ha]

/-- A shuffled list has the entries of all the lists. -/
theorem perm (h : Shuffle ls log) : log.Perm ls.flatten := by
  induction h with
  | done hempty => rw [List.flatten_eq_nil_iff.2 hempty]
  | @take ls i a rest log hi _ ih =>
    obtain ⟨hlt, hget⟩ := List.getElem?_eq_some_iff.1 hi
    refine (ih.cons a).trans ?_
    rw [List.set_eq_take_append_cons_drop, if_pos hlt]
    conv_rhs => rw [← List.take_append_drop i ls, List.drop_eq_getElem_cons hlt, hget]
    simp only [List.flatten_append, List.flatten_cons, List.cons_append]
    exact List.perm_middle.symm

/-- A list without entries adds nothing. -/
theorem nil_cons (h : Shuffle ls log) : Shuffle ([] :: ls) log := by
  induction h with
  | done hempty => exact .done (List.forall_mem_cons.2 ⟨rfl, hempty⟩)
  | @take ls i a rest log hi _ ih => exact .take (i := i + 1) hi ih

/-- One way to put lists together is to take them one after the other. -/
theorem flatten (ls : List (List α)) : Shuffle ls ls.flatten := by
  induction ls with
  | nil => exact .done fun l hl => by cases hl
  | cons l ls ih =>
    induction l with
    | nil => exact ih.nil_cons
    | cons a rest ihrest => exact .take (i := 0) rfl ihrest

end Shuffle

/-! ## Lists in the order of a key -/

section Sorted

variable [LE κ] [Std.IsLinearOrder κ] [DecidableEq κ] (key : α → κ)

/-- A list in the order of its keys begins with the entries of the least key. -/
theorem eq_filter_append_filter {k : κ} {l : List α} (sorted : l.Pairwise fun a b => key a ≤ key b)
    (least : ∀ a ∈ l, k ≤ key a) :
    l = l.filter (key · = k) ++ l.filter (key · ≠ k) := by
  induction l with
  | nil => rfl
  | cons a l ih =>
    rw [List.pairwise_cons] at sorted
    by_cases ha : key a = k
    · rw [List.filter_cons_of_pos (by simpa using ha), List.filter_cons_of_neg (by simpa using ha)]
      exact congrArg (a :: ·) (ih sorted.2 fun b hb => least b (List.mem_cons_of_mem a hb))
    · -- No later entry has the key, for it would have to stand before this one.
      have hnone : (a :: l).filter (key · = k) = [] := by
        rw [List.filter_eq_nil_iff]
        intro b hb hk
        have hkb : key b = k := of_decide_eq_true hk
        rcases List.mem_cons.1 hb with rfl | hb
        · exact ha hkb
        · exact ha (Std.le_antisymm (hkb ▸ sorted.1 b hb) (least a List.mem_cons_self))
      rw [hnone, List.nil_append, List.filter_eq_self.2]
      intro b hb
      have := List.filter_eq_nil_iff.1 hnone b hb
      simpa using this

variable [LT κ] [Std.LawfulOrderLT κ]

/-- A list in the order of its keys is made up of the entries of each key, the keys ascending. -/
theorem eq_flatMap_filter {ks : List κ} {l : List α}
    (sorted : l.Pairwise fun a b => key a ≤ key b) (ascending : ks.Pairwise (· < ·))
    (known : ∀ a ∈ l, key a ∈ ks) : l = ks.flatMap fun k => l.filter (key · = k) := by
  induction ks generalizing l with
  | nil =>
    cases l with
    | nil => rfl
    | cons a l => cases known a List.mem_cons_self
  | cons k ks ih =>
    rw [List.pairwise_cons] at ascending
    have least : ∀ a ∈ l, k ≤ key a := by
      intro a ha
      rcases List.mem_cons.1 (known a ha) with h | h
      · exact h ▸ Std.le_refl _
      · exact Std.le_of_lt (ascending.1 _ h)
    have hrest : ∀ a ∈ l.filter (key · ≠ k), key a ∈ ks := by
      intro a ha
      obtain ⟨ha, hk⟩ := List.mem_filter.1 ha
      exact (List.mem_cons.1 (known a ha)).resolve_left (of_decide_eq_true hk)
    have hsame : ∀ k' ∈ ks, (l.filter (key · ≠ k)).filter (key · = k') = l.filter (key · = k') := by
      intro k' hk'
      rw [List.filter_filter]
      refine List.filter_congr fun a _ => ?_
      have hne : k' ≠ k := fun h => Std.lt_irrefl (h ▸ ascending.1 k' hk')
      by_cases h : key a = k'
      · simp [h, hne]
      · simp [h]
    have htail := ih (sorted.filter _) ascending.2 hrest
    rw [List.flatMap_congr hsame] at htail
    calc l = l.filter (key · = k) ++ l.filter (key · ≠ k) :=
          eq_filter_append_filter key sorted least
      _ = l.filter (key · = k) ++ ks.flatMap fun k' => l.filter (key · = k') := by rw [htail]

end Sorted

/-! ## Sorting by a key -/

section Sorting

variable [LE κ] [DecidableLE κ] [Std.IsLinearOrder κ] (key : α → κ)

theorem keyLe_trans (a b c : α) (hab : decide (key a ≤ key b) = true)
    (hbc : decide (key b ≤ key c) = true) : decide (key a ≤ key c) = true :=
  decide_eq_true (Std.le_trans (of_decide_eq_true hab) (of_decide_eq_true hbc))

theorem keyLe_total (a b : α) : (decide (key a ≤ key b) || decide (key b ≤ key a)) = true := by
  simpa using Std.le_total (a := key a) (b := key b)

theorem pairwise_mergeSort_key (l : List α) :
    (l.mergeSort fun a b => key a ≤ key b).Pairwise fun a b => key a ≤ key b :=
  (List.pairwise_mergeSort (keyLe_trans key) (keyLe_total key) l).imp of_decide_eq_true

variable [DecidableEq κ]

/-- Sorting by a key leaves the entries of one key in their order. -/
theorem filter_mergeSort (k : κ) (l : List α) :
    (l.mergeSort fun a b => key a ≤ key b).filter (key · = k) = l.filter (key · = k) := by
  have hequal : (l.filter (key · = k)).Pairwise fun a b => decide (key a ≤ key b) = true := by
    refine List.pairwise_iff_forall_sublist.2 fun {a b} hab => ?_
    have hkey : ∀ c ∈ [a, b], key c = k := fun c hc =>
      of_decide_eq_true (List.mem_filter.1 (hab.subset hc)).2
    rw [hkey a (by simp), hkey b (by simp)]
    exact decide_eq_true (Std.le_refl k)
  have hsub := (List.sublist_mergeSort (keyLe_trans key) (keyLe_total key) hequal
    List.filter_sublist).filter (key · = k)
  simp only [List.filter_filter, Bool.and_self] at hsub
  have hperm := (List.mergeSort_perm l fun a b => key a ≤ key b).filter (key · = k)
  exact (hsub.eq_of_length hperm.length_eq.symm).symm

/-- A list sorted by a key is made up of the entries of each key in their order, the keys
ascending. -/
theorem mergeSort_eq_flatMap [LT κ] [Std.LawfulOrderLT κ] {ks : List κ} {l : List α}
    (ascending : ks.Pairwise (· < ·)) (known : ∀ a ∈ l, key a ∈ ks) :
    (l.mergeSort fun a b => key a ≤ key b) = ks.flatMap fun k => l.filter (key · = k) := by
  rw [eq_flatMap_filter key (pairwise_mergeSort_key key l) ascending
    fun a ha => known a (List.mem_mergeSort.1 ha)]
  exact List.flatMap_congr fun k _ => filter_mergeSort key k l

/-- Lists with the same entries of each key, in the same order, become one list when they are
sorted by the key. -/
theorem mergeSort_congr [LT κ] [Std.LawfulOrderLT κ] {l l' : List α}
    (h : ∀ k, l.filter (key · = k) = l'.filter (key · = k)) :
    (l.mergeSort fun a b => key a ≤ key b) = l'.mergeSort fun a b => key a ≤ key b := by
  have hperm := List.mergeSort_perm (l.map key).dedup fun a b => a ≤ b
  have hsorted := pairwise_mergeSort_key (fun k : κ => k) (l.map key).dedup
  generalize (l.map key).dedup.mergeSort (fun a b => a ≤ b) = ks at hperm hsorted
  have hascending : ks.Pairwise (· < ·) :=
    List.Pairwise.imp₂ (fun _ _ => Std.lt_of_le_of_ne) hsorted
      (hperm.nodup_iff.2 (List.nodup_dedup _))
  have hknown : ∀ a ∈ l, key a ∈ ks := fun a ha =>
    hperm.mem_iff.2 (List.mem_dedup.2 (List.mem_map_of_mem ha))
  have hknown' : ∀ a ∈ l', key a ∈ ks := fun a ha => by
    refine hknown a (List.mem_of_mem_filter (p := fun b => key b = key a) ?_)
    rw [h]
    exact List.mem_filter.2 ⟨ha, decide_eq_true rfl⟩
  rw [mergeSort_eq_flatMap key hascending hknown, mergeSort_eq_flatMap key hascending hknown']
  exact List.flatMap_congr fun k _ => h k

end Sorting

end LintScan
