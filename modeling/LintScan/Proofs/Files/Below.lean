import LintScan.Proofs.Files.Follow
import LintScan.Proofs.Table.Ordered
import LintScan.Proofs.Shuffle
import Mathlib.Data.List.Induction

/-!
# What lies below a place

In a tree no two entries share a place, and each stands in a directory under a proper name.

* `FileTree.IsTree` — the trees in which this is so.
* `IsTree.entry?_eq_some_iff`, `IsTree.directory_above` — what stands at a place, and above it.
* `IsTree.mem_below_iff`, `IsTree.ascending_below` — the entries below a place, each once and in
  order.
-/

namespace LintScan.FileTree

/-- No two entries share a place, and each stands in a directory under a proper name. -/
structure IsTree (t : FileTree) : Prop where
  distinct : (t.entries.map (·.1)).Nodup
  named : ∀ entry ∈ t.entries, ∀ name ∈ entry.1, IsName name
  held : ∀ entry ∈ t.entries, entry.1 ≠ [] ∧ t.entry? entry.1.dropLast = some .directory

instance (t : FileTree) : Decidable t.IsTree :=
  decidable_of_iff ((t.entries.map (·.1)).Nodup ∧
      (∀ entry ∈ t.entries, ∀ name ∈ entry.1, IsName name) ∧
      ∀ entry ∈ t.entries, entry.1 ≠ [] ∧ t.entry? entry.1.dropLast = some .directory)
    ⟨fun ⟨distinct, named, held⟩ => ⟨distinct, named, held⟩,
      fun tree => ⟨tree.distinct, tree.named, tree.held⟩⟩

variable {t : FileTree} {place : Place} {e : Entry}

namespace IsTree

theorem entry?_eq_some_iff (tree : t.IsTree) (hplace : place ≠ []) :
    t.entry? place = some e ↔ (place, e) ∈ t.entries := by
  unfold entry?
  rw [if_neg hplace]
  exact OrderedTable.lookup_eq_some_iff tree.distinct

theorem isName (tree : t.IsTree) (he : t.entry? place = some e) {name : String}
    (hname : name ∈ place) : IsName name :=
  tree.named _ ((tree.entry?_eq_some_iff (List.ne_nil_of_mem hname)).1 he) name hname

/-- Above every entry there are directories alone. -/
theorem directory_above (tree : t.IsTree) {names : List String} (hnames : names ≠ [])
    (he : t.entry? (place ++ names) = some e) : t.entry? place = some .directory := by
  induction names using List.reverseRecOn generalizing e with
  | nil => exact absurd rfl hnames
  | append_singleton names name ih =>
    have hmem := (tree.entry?_eq_some_iff (by simp)).1 he
    have hheld := (tree.held _ hmem).2
    rw [← List.append_assoc, List.dropLast_concat] at hheld
    by_cases hnone : names = []
    · rwa [hnone, List.append_nil] at hheld
    · exact ih hnone hheld

/-! ## The entries below a place -/

/-- The names that lead from a place to another one below it. -/
theorem below_eq_some_iff {p : Place} {b : Below} :
    (if place.isPrefixOf p && place.length < p.length then
        some (⟨p.drop place.length, e⟩ : Below) else none) = some b ↔
      p = place ++ b.names ∧ b.names ≠ [] ∧ e = b.entry := by
  obtain ⟨names, entry⟩ := b
  constructor
  · intro h
    split at h
    · rename_i hbelow
      rw [Bool.and_eq_true, List.isPrefixOf_iff_prefix, decide_eq_true_iff] at hbelow
      obtain ⟨⟨more, rfl⟩, hlength⟩ := hbelow
      obtain ⟨rfl, rfl⟩ : more = names ∧ e = entry := by simpa using h
      refine ⟨rfl, ?_, rfl⟩
      rintro rfl
      simp at hlength
    · cases h
  · rintro ⟨rfl, hnames, rfl⟩
    have hlength := List.length_pos_iff.2 hnames
    rw [if_pos]
    · simp
    · simp only at hlength
      simp [hlength]

theorem mem_below_iff (tree : t.IsTree) {b : Below} :
    b ∈ t.below place ↔ b.names ≠ [] ∧ t.entry? (place ++ b.names) = some b.entry := by
  unfold below
  rw [List.mem_mergeSort, List.mem_filterMap]
  simp only [Prod.exists, below_eq_some_iff]
  constructor
  · rintro ⟨_, _, hentry, rfl, hnames, rfl⟩
    exact ⟨hnames, (tree.entry?_eq_some_iff (by simp [hnames])).2 hentry⟩
  · rintro ⟨hnames, hentry⟩
    exact ⟨_, _, (tree.entry?_eq_some_iff (by simp [hnames])).1 hentry, rfl, hnames, rfl⟩

/-- The entries below a place are listed in order, each once. -/
theorem ascending_below (tree : t.IsTree) (place : Place) :
    (t.below place).Pairwise fun a b => a.names < b.names := by
  have hkey : (fun a b : Below => !decide (b.names < a.names)) =
      fun a b => decide (a.names ≤ b.names) := by
    funext a b
    rw [Bool.eq_iff_iff, Bool.not_eq_true', decide_eq_false_iff_not, decide_eq_true_iff]
    exact Std.not_lt
  have hsorted : (t.below place).Pairwise fun a b => a.names ≤ b.names := by
    unfold below
    rw [hkey]
    exact pairwise_mergeSort_key Below.names _
  have hdistinct : (t.below place).Pairwise fun a b => a.names ≠ b.names := by
    refine ((List.mergeSort_perm _ _).pairwise_iff Ne.symm).2 ?_
    have hplaces : t.entries.Pairwise fun a b => a.1 ≠ b.1 := List.pairwise_map.1 tree.distinct
    refine hplaces.filterMap _ fun a a' hne b hb b' hb' hnames => hne ?_
    rw [(below_eq_some_iff.1 hb).1, (below_eq_some_iff.1 hb').1, hnames]
  exact hsorted.imp₂ (fun a b => Std.lt_of_le_of_ne) hdistinct

end IsTree

end LintScan.FileTree
