import LintScan.Proofs.Firsts
import LintScan.Table.Ordered
import Mathlib.Data.List.Induction

/-!
# What insertions do to a table

A table in order of insertion is known by its keys in order and by the value of each.  This file
says what insertions do to both:

* `lookup_eq_some_iff`, `lookup_perm` — where no key stands twice, a list of pairs is looked up by
  what it holds.
* `get?_insert`, `get?_insertAll` — the value of a key is the one that was inserted for it, or else
  the one from before.
* `keys_insertAll` — new keys go behind the known ones, in the order in which they come.
* `keys_ofList`, `get?_ofList` — of several insertions of a key the first one settles its place and
  the last one its value; `ofList_keeps_places` says so of a whole sequence.
* `ext_get?` — two tables with the same keys and values are the same table.
* `map_insertAll`, `map_ofList` — values may be changed before they are inserted or afterwards.
* `ofList_eraseDups` — to insert the same value for a key again changes nothing.
-/

namespace LintScan

namespace OrderedTable

variable {β γ : Type}

/-! ## Looking pairs up -/

section Lookup

variable {κ : Type} [BEq κ] [LawfulBEq κ] {es fs : List (κ × β)} {k : κ} {v : β}

theorem lookup_of_mem (once : (es.map (·.1)).Nodup) (h : (k, v) ∈ es) : es.lookup k = some v := by
  induction es with
  | nil => cases h
  | cons e es ih =>
    rw [List.map_cons, List.nodup_cons] at once
    rw [List.lookup_cons]
    rcases List.mem_cons.1 h with rfl | h
    · simp
    · have hne : k ≠ e.1 := fun he => once.1 (he ▸ List.mem_map_of_mem h)
      have hb : (k == e.1) = false := by simpa using hne
      rw [hb]
      exact ih once.2 h

theorem lookup_eq_some_iff (once : (es.map (·.1)).Nodup) :
    es.lookup k = some v ↔ (k, v) ∈ es := by
  refine ⟨fun h => ?_, lookup_of_mem once⟩
  obtain ⟨before, behind, rfl, _⟩ := List.lookup_eq_some_iff.1 h
  exact List.mem_append_right _ List.mem_cons_self

/-- Where no key stands twice, the order of the pairs does not matter. -/
theorem lookup_perm (h : es.Perm fs) (once : (es.map (·.1)).Nodup) (k : κ) :
    es.lookup k = fs.lookup k := by
  have once' : (fs.map (·.1)).Nodup := (h.map _).nodup_iff.1 once
  exact Option.ext fun v => by
    rw [lookup_eq_some_iff once, lookup_eq_some_iff once', h.mem_iff]

end Lookup

/-! ## One insertion -/

theorem lookup_upsert (k : String) (v : β) (es : List (String × β)) (l : String) :
    (upsert k v es).lookup l = if l = k then some v else es.lookup l := by
  induction es with
  | nil =>
    rw [upsert, List.lookup_cons]
    by_cases h : l = k
    · simp [h]
    · have hb : (l == k) = false := by simpa using h
      simp [hb, h]
  | cons e es ih =>
    obtain ⟨m, w⟩ := e
    rw [upsert]
    by_cases hm : m = k
    · rw [if_pos hm, List.lookup_cons, List.lookup_cons]
      by_cases h : l = m
      · simp [h, hm]
      · have hb : (l == m) = false := by simpa using h
        have hlk : l ≠ k := hm ▸ h
        rw [hb, if_neg hlk]
    · rw [if_neg hm, List.lookup_cons, List.lookup_cons, ih]
      by_cases h : l = m
      · have hlk : l ≠ k := fun e => hm (h ▸ e)
        simp [h, hm]
      · have hb : (l == m) = false := by simpa using h
        rw [hb]

@[simp] theorem get?_insert (t : OrderedTable β) (k : String) (v : β) (l : String) :
    (t.insert k v).get? l = if l = k then some v else t.get? l :=
  lookup_upsert k v t.entries l

theorem keys_insert (t : OrderedTable β) (k : String) (v : β) :
    (t.insert k v).keys = if k ∈ t.keys then t.keys else t.keys ++ [k] :=
  map_fst_upsert k v t.entries

/-- The other keys keep their places. -/
theorem idxOf?_keys_insert {t : OrderedTable β} {k l : String} (h : l ≠ k) (v : β) :
    (t.insert k v).keys.idxOf? l = t.keys.idxOf? l := by
  rw [keys_insert]
  split
  · rfl
  · have hb : (k == l) = false := by simpa using Ne.symm h
    simp [List.idxOf?, List.findIdx?_append, hb]

theorem mem_keys_insert {t : OrderedTable β} {k l : String} (v : β) :
    l ∈ (t.insert k v).keys ↔ l = k ∨ l ∈ t.keys := by
  by_cases hk : k ∈ t.keys
  · rw [keys_insert_of_mem v hk]
    constructor
    · exact .inr
    · rintro (rfl | hl)
      · exact hk
      · exact hl
  · rw [keys_insert_of_not_mem v hk, List.mem_append, List.mem_singleton, or_comm]

/-! ## Several insertions -/

@[simp] theorem insertAll_nil (t : OrderedTable β) : t.insertAll [] = t := rfl

@[simp] theorem insertAll_cons (t : OrderedTable β) (e : String × β) (es : List (String × β)) :
    t.insertAll (e :: es) = (t.insert e.1 e.2).insertAll es := rfl

/-- Of several values for a key the last one counts, and the one from before if there is none. -/
theorem get?_insertAll_last (es : List (String × β)) (t : OrderedTable β) (l : String) :
    (t.insertAll es).get? l = (es.reverse.lookup l).or (t.get? l) := by
  induction es generalizing t with
  | nil => rfl
  | cons e es ih =>
    rw [insertAll_cons, ih, get?_insert, List.reverse_cons, List.lookup_append, Option.or_assoc,
      List.lookup_cons, List.lookup_nil]
    by_cases h : l = e.1
    · simp [h]
    · have hb : (l == e.1) = false := by simpa using h
      simp [h, hb]

theorem get?_ofList (es : List (String × β)) (k : String) :
    (ofList es).get? k = es.reverse.lookup k := by
  have hempty : (empty : OrderedTable β).get? k = none := rfl
  rw [ofList, get?_insertAll_last, hempty, Option.or_none]

/-- Where no key is inserted twice, its value is the inserted one, or else the one from before. -/
theorem get?_insertAll {es : List (String × β)} (once : (es.map (·.1)).Nodup)
    (t : OrderedTable β) (l : String) :
    (t.insertAll es).get? l = (es.lookup l).or (t.get? l) := by
  rw [get?_insertAll_last, lookup_perm (List.reverse_perm es).symm once]

/-- New keys go behind the known ones, in the order in which they come. -/
theorem keys_insertAll {es : List (String × β)} (once : (es.map (·.1)).Nodup)
    (t : OrderedTable β) :
    (t.insertAll es).keys = t.keys ++ (es.map (·.1)).filter (· ∉ t.keys) := by
  induction es generalizing t with
  | nil => simp
  | cons e es ih =>
    rw [List.map_cons, List.nodup_cons] at once
    have hrest : (es.map (·.1)).filter (· ∉ (t.insert e.1 e.2).keys) =
        (es.map (·.1)).filter (· ∉ t.keys) := by
      apply List.filter_congr
      intro l hl
      have hne : l ≠ e.1 := fun h => once.1 (h ▸ hl)
      simp [mem_keys_insert, hne]
    rw [insertAll_cons, ih once.2, hrest, List.map_cons, List.filter_cons]
    by_cases h : e.1 ∈ t.keys
    · rw [keys_insert_of_mem e.2 h]
      simp [h]
    · rw [keys_insert_of_not_mem e.2 h]
      simp [h]

/-! ## Changed values -/

@[simp] theorem keys_map (f : String → β → γ) (t : OrderedTable β) : (t.map f).keys = t.keys := by
  simp [keys, map, List.map_map, Function.comp_def]

@[simp] theorem get?_map (f : String → β → γ) (t : OrderedTable β) (k : String) :
    (t.map f).get? k = (t.get? k).map (f k) := by
  unfold get? map
  simp only
  induction t.entries with
  | nil => rfl
  | cons e es ih =>
    rw [List.map_cons, List.lookup_cons, List.lookup_cons]
    by_cases hk : k = e.1
    · subst hk
      simp
    · have hb : (k == e.1) = false := by simpa using hk
      rw [hb]
      exact ih

/-! ## Keys and values make up a table -/

theorem get?_eq_none_iff {t : OrderedTable β} {k : String} : t.get? k = none ↔ k ∉ t.keys := by
  unfold get? keys
  rw [List.lookup_eq_none_iff]
  constructor
  · rintro h hk
    obtain ⟨e, he, rfl⟩ := List.mem_map.1 hk
    simpa using h e he
  · intro h e he
    have hne : k ≠ e.1 := fun heq => h (heq ▸ List.mem_map_of_mem he)
    simpa using hne

theorem entries_eq_keys_map (t : OrderedTable β) :
    t.entries.map (fun e => (e.1, some e.2)) = t.keys.map fun k => (k, t.get? k) := by
  unfold keys
  rw [List.map_map]
  apply List.map_congr_left
  intro e he
  have hfound : t.get? e.1 = some e.2 := lookup_of_mem t.nodup he
  simp [hfound]

theorem ext_entries {t u : OrderedTable β} (h : t.entries = u.entries) : t = u := by
  cases t
  cases u
  cases h
  rfl

/-- Two tables with the same keys and values are the same table. -/
theorem ext_get? {t u : OrderedTable β} (hkeys : t.keys = u.keys)
    (hget : ∀ k, t.get? k = u.get? k) : t = u := by
  have hmap : t.entries.map (fun e => (e.1, some e.2)) =
      u.entries.map fun e => (e.1, some e.2) := by
    rw [entries_eq_keys_map, entries_eq_keys_map, hkeys]
    exact List.map_congr_left fun k _ => by rw [hget]
  refine ext_entries ((List.map_inj_right ?_).1 hmap)
  rintro ⟨k, v⟩ ⟨l, w⟩ h
  simpa using h

/-! ## Changed values and inserted ones -/

theorem map_upsert (f : String → β → γ) (k : String) (v : β) (es : List (String × β)) :
    (upsert k v es).map (fun e => (e.1, f e.1 e.2)) =
      upsert k (f k v) (es.map fun e => (e.1, f e.1 e.2)) := by
  induction es with
  | nil => rfl
  | cons e es ih =>
    rw [upsert, List.map_cons, upsert]
    by_cases hk : e.1 = k
    · rw [if_pos hk, if_pos hk, List.map_cons, hk]
    · rw [if_neg hk, if_neg hk, List.map_cons, ih]

theorem map_insert (f : String → β → γ) (t : OrderedTable β) (k : String) (v : β) :
    (t.insert k v).map f = (t.map f).insert k (f k v) :=
  ext_entries (map_upsert f k v t.entries)

theorem map_insertAll (f : String → β → γ) (t : OrderedTable β) (es : List (String × β)) :
    (t.insertAll es).map f = (t.map f).insertAll (es.map fun e => (e.1, f e.1 e.2)) := by
  induction es generalizing t with
  | nil => rfl
  | cons e es ih => rw [insertAll_cons, ih, map_insert, List.map_cons, insertAll_cons]

theorem map_ofList (f : String → β → γ) (es : List (String × β)) :
    (ofList es).map f = ofList (es.map fun e => (e.1, f e.1 e.2)) :=
  map_insertAll f empty es

theorem map_map {δ : Type} (f : String → β → γ) (g : String → γ → δ) (t : OrderedTable β) :
    (t.map f).map g = t.map fun k v => g k (f k v) :=
  ext_entries (by simp [map, List.map_map, Function.comp_def])

/-! ## The same value again -/

theorem insert_of_get? {t : OrderedTable β} {k : String} {v : β} (h : t.get? k = some v) :
    t.insert k v = t := by
  refine ext_get? (keys_insert_of_mem v (mem_keys_of_get? h)) fun l => ?_
  rw [get?_insert]
  split
  · rename_i hl
    rw [hl, h]
  · rfl

theorem ofList_snoc (es : List (String × β)) (e : String × β) :
    ofList (es ++ [e]) = (ofList es).insert e.1 e.2 := by
  rw [ofList, ofList, insertAll, List.foldl_append]
  rfl

/-- The keys stand in the order in which each was inserted first. -/
theorem keys_ofList (es : List (String × β)) : (ofList es).keys = (es.map (·.1)).eraseDups := by
  induction es using List.reverseRecOn with
  | nil => rfl
  | append_singleton es e ih =>
    rw [ofList_snoc, keys_insert, List.map_append, List.map_singleton, eraseDups_snoc, ih]

theorem get?_ofList_const {names : List String} {n : String} (v : β) (h : n ∈ names) :
    (ofList (names.map fun n => (n, v))).get? n = some v := by
  induction names using List.reverseRecOn with
  | nil => cases h
  | append_singleton names m ih =>
    rw [List.map_append, List.map_singleton, ofList_snoc, get?_insert]
    split
    · rfl
    · rename_i hne
      refine ih ?_
      rw [List.mem_append, List.mem_singleton] at h
      exact h.resolve_right hne

/-- To insert the same value for a key again changes nothing. -/
theorem ofList_eraseDups (names : List String) (v : β) :
    ofList (names.eraseDups.map fun n => (n, v)) = ofList (names.map fun n => (n, v)) := by
  induction names using List.reverseRecOn with
  | nil => rfl
  | append_singleton names m ih =>
    rw [eraseDups_snoc, List.map_append, List.map_singleton, ofList_snoc]
    split
    · rename_i hm
      rw [ih, insert_of_get? (get?_ofList_const v (List.mem_eraseDups.1 hm))]
    · rw [List.map_append, List.map_singleton, ofList_snoc, ih]

/-! ## A whole sequence of insertions -/

/-- The pairs of a table, inserted in their order, make up the table. -/
theorem ofList_entries (t : OrderedTable β) : ofList t.entries = t := by
  refine ext_get? ?_ fun k => ?_
  · rw [keys_ofList]
    exact eraseDups_of_nodup t.nodup
  · rw [ofList, get?_insertAll t.nodup]
    exact Option.or_none

/-- **What a sequence of insertions leaves.** No key stands twice, and the keys stand in the order
in which each was inserted first.  The value of a key is the one that was inserted last, and a key
that was never inserted has none.  One more insertion leaves the place and the value of every other
key.  Every table comes from such a sequence: that of its own pairs. -/
theorem ofList_keeps_places (es : List (String × β)) :
    (ofList es).keys.Nodup ∧
    (ofList es).keys = (es.map (·.1)).eraseDups ∧
    (∀ k, (ofList es).get? k = es.reverse.lookup k) ∧
    (∀ k v l, l ≠ k →
      ((ofList es).insert k v).keys.idxOf? l = (ofList es).keys.idxOf? l ∧
      ((ofList es).insert k v).get? l = (ofList es).get? l) ∧
    ∀ t : OrderedTable β, ofList t.entries = t := by
  refine ⟨?_, keys_ofList es, get?_ofList es, fun k v l h => ⟨idxOf?_keys_insert h v, ?_⟩,
    ofList_entries⟩
  · rw [keys_ofList]
    exact nodup_eraseDups _
  · rw [get?_insert, if_neg h]

/-- The second value of `a` goes to its first place. -/
example : (ofList [("a", 1), ("b", 2), ("a", 3)]).entries = [("a", 3), ("b", 2)] := rfl

end OrderedTable

end LintScan
