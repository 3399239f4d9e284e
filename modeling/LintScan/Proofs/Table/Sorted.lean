import LintScan.Proofs.Table.Ordered
import LintScan.Table.Sorted
import Mathlib.Data.List.Sort

/-!
# Tables in order of their keys, as a whole

* `ext_get?` — two tables with the same value for each key are the same table.
* `entries_ofList` — pairs that come in the order of their keys stand as they come.
* `get?_ofList` — of several values for a key the last one counts.
* `ofList_of_perm` — the pairs of a table make it up in whichever order they are inserted.
-/

namespace LintScan.SortedTable

variable {κ β : Type} [LT κ] [DecidableEq κ] [DecidableLT κ] [LE κ] [Std.IsLinearOrder κ]
  [Std.LawfulOrderLT κ]

omit [DecidableLT κ] in
/-- Two tables with the same value for each key are the same table. -/
theorem ext_get? {t u : SortedTable κ β} (h : ∀ k, t.get? k = u.get? k) : t = u := by
  let before (e e' : κ × β) : Prop := e.1 < e'.1
  have hirrefl : Std.Irrefl before := ⟨fun _ => Std.lt_irrefl⟩
  have hantisymm : Std.Antisymm before := ⟨fun _ _ h h' => absurd (Std.lt_trans h h') Std.lt_irrefl⟩
  have hascending : ∀ t : SortedTable κ β, t.entries.Pairwise before := fun t =>
    List.pairwise_map.1 t.ascending
  refine ext_entries ((hascending t).eq_of_mem_iff (hascending u) fun ⟨k, v⟩ => ?_)
  rw [← get?_eq_some_iff, ← get?_eq_some_iff, h]

theorem place_of_gt {k : κ} {v : β} {es : List (κ × β)} (h : ∀ e ∈ es, e.1 < k) :
    place k v es = es ++ [(k, v)] := by
  induction es with
  | nil => rfl
  | cons e es ih =>
    obtain ⟨l, w⟩ := e
    have hl : l < k := h (l, w) List.mem_cons_self
    rw [place, if_neg fun hk => Std.lt_irrefl (Std.lt_trans hl hk),
      if_neg fun heq => Std.lt_irrefl (heq ▸ hl),
      ih fun e he => h e (List.mem_cons_of_mem _ he)]
    rfl

theorem entries_foldl_insert {es : List (κ × β)} {t : SortedTable κ β}
    (h : ((t.entries ++ es).map (·.1)).Pairwise (· < ·)) :
    (es.foldl (fun t e => t.insert e.1 e.2) t).entries = t.entries ++ es := by
  induction es generalizing t with
  | nil => exact (List.append_nil _).symm
  | cons e es ih =>
    have hentries : (t.insert e.1 e.2).entries = t.entries ++ [e] := by
      refine place_of_gt fun e' he' => ?_
      rw [List.map_append, List.pairwise_append] at h
      exact h.2.2 _ (List.mem_map_of_mem he') _ List.mem_cons_self
    have happ : t.entries ++ e :: es = (t.insert e.1 e.2).entries ++ es := by
      rw [hentries, List.append_assoc, List.singleton_append]
    rw [List.foldl_cons, happ]
    exact ih (happ ▸ h)

/-- Pairs that come in the order of their keys stand as they come. -/
theorem entries_ofList {es : List (κ × β)} (h : (es.map (·.1)).Pairwise (· < ·)) :
    (ofList es).entries = es :=
  entries_foldl_insert (t := empty) h

theorem get?_foldl_insert (es : List (κ × β)) (t : SortedTable κ β) (k : κ) :
    (es.foldl (fun t e => t.insert e.1 e.2) t).get? k = (es.reverse.lookup k).or (t.get? k) := by
  induction es generalizing t with
  | nil => rfl
  | cons e es ih =>
    rw [List.foldl_cons, ih, get?_insert, List.reverse_cons, List.lookup_append, Option.or_assoc,
      List.lookup_cons, List.lookup_nil]
    by_cases hk : k = e.1
    · simp [hk]
    · have hb : (k == e.1) = false := by simpa using hk
      simp [hk, hb]

/-- Of several values for a key the last one counts. -/
theorem get?_ofList (es : List (κ × β)) (k : κ) : (ofList es).get? k = es.reverse.lookup k := by
  have hempty : (empty : SortedTable κ β).get? k = none := rfl
  rw [ofList, get?_foldl_insert, hempty, Option.or_none]

/-- A value of the table was inserted. -/
theorem mem_of_mem_values_ofList {es : List (κ × β)} {v : β} (h : v ∈ (ofList es).values) :
    ∃ k, (k, v) ∈ es := by
  obtain ⟨⟨k, _⟩, he, rfl⟩ := List.mem_map.1 h
  have hlookup := get?_eq_some_iff.2 he
  rw [get?_ofList] at hlookup
  obtain ⟨_, _, hes, _⟩ := List.lookup_eq_some_iff.1 hlookup
  exact ⟨k, List.mem_reverse.1 (hes ▸ List.mem_append_right _ List.mem_cons_self)⟩

/-- The pairs of a table make it up in whichever order they are inserted. -/
theorem ofList_of_perm {t : SortedTable κ β} {es : List (κ × β)} (h : es.Perm t.entries) :
    ofList es = t := by
  have once : (t.entries.map (·.1)).Nodup :=
    t.ascending.imp fun {k l} (hlt : k < l) (heq : k = l) => Std.lt_irrefl (heq ▸ hlt)
  have hperm : t.entries.Perm es.reverse := h.symm.trans (List.reverse_perm es).symm
  refine ext_get? fun k => ?_
  rw [get?_ofList, ← OrderedTable.lookup_perm hperm once k, get?]

end LintScan.SortedTable
