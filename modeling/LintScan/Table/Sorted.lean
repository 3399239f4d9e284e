/-!
# Tables in order of their keys

* `SortedTable` — pairs of a key and a value, the keys strictly ascending.
* `SortedTable.insert` — sets the value of a key; `get?_insert` says what it does to each key.
* `SortedTable.get?_eq_some_iff` — to look a key up is to find its pair.
* `SortedTable.map` — changes the values and keeps the keys; `get?_map` says what it does to the
  value of a key.
-/

namespace LintScan

/-- A table whose keys are strictly ascending. -/
structure SortedTable (κ β : Type) [LT κ] where
  entries : List (κ × β)
  ascending : (entries.map (·.1)).Pairwise (· < ·)

namespace SortedTable

variable {κ β γ : Type} [LT κ]

/-- The table that holds nothing. -/
def empty : SortedTable κ β := ⟨[], by simp⟩

instance : Inhabited (SortedTable κ β) := ⟨empty⟩

/-- The keys in order. -/
def keys (t : SortedTable κ β) : List κ := t.entries.map (·.1)

/-- The values in the order of their keys. -/
def values (t : SortedTable κ β) : List β := t.entries.map (·.2)

/-- The number of keys. -/
def size (t : SortedTable κ β) : Nat := t.entries.length

/-- The table with every value changed. -/
def map (f : κ → β → γ) (t : SortedTable κ β) : SortedTable κ γ :=
  ⟨t.entries.map fun e => (e.1, f e.1 e.2), by
    have h := t.ascending
    simpa [List.map_map, Function.comp_def] using h⟩

theorem keys_map (f : κ → β → γ) (t : SortedTable κ β) : (t.map f).keys = t.keys := by
  simp [keys, map, List.map_map, Function.comp_def]

theorem ext_entries {t u : SortedTable κ β} (h : t.entries = u.entries) : t = u := by
  cases t
  cases u
  cases h
  rfl

variable [DecidableEq κ]

/-- The value of a key. -/
def get? (t : SortedTable κ β) (k : κ) : Option β := t.entries.lookup k

theorem get?_map (f : κ → β → γ) (t : SortedTable κ β) (k : κ) :
    (t.map f).get? k = (t.get? k).map (f k) := by
  unfold get? map
  simp only
  induction t.entries with
  | nil => rfl
  | cons e es ih =>
    rw [List.map_cons, List.lookup_cons, List.lookup_cons]
    by_cases hk : k = e.1
    · subst hk
      simp
    · have hb : (k == e.1) = false := by simpa using hk
      rw [hb]
      exact ih

theorem mem_keys_of_get? {t : SortedTable κ β} {k : κ} {v : β} (h : t.get? k = some v) :
    k ∈ t.keys := by
  unfold get? at h
  unfold keys
  generalize t.entries = es at h ⊢
  induction es with
  | nil => simp at h
  | cons e es ih =>
    obtain ⟨l, w⟩ := e
    rw [List.lookup_cons] at h
    by_cases hk : k = l
    · simp [hk]
    · have hb : (k == l) = false := by simpa using hk
      rw [hb] at h
      simp only [List.map_cons, List.mem_cons]
      exact .inr (ih h)

theorem mem_keys_iff {t : SortedTable κ β} {k : κ} : k ∈ t.keys ↔ ∃ v, t.get? k = some v := by
  constructor
  · intro h
    cases hv : t.get? k with
    | some v => exact ⟨v, rfl⟩
    | none =>
      obtain ⟨e, he, rfl⟩ := List.mem_map.1 h
      have := List.lookup_eq_none_iff.1 hv e he
      simp at this
  · rintro ⟨v, hv⟩
    exact mem_keys_of_get? hv

variable [DecidableLT κ]

/-- The ascending pairs with the value of `k` set. -/
def place (k : κ) (v : β) : List (κ × β) → List (κ × β)
  | [] => [(k, v)]
  | (l, w) :: rest =>
    if k < l then (k, v) :: (l, w) :: rest
    else if k = l then (k, v) :: rest
    else (l, w) :: place k v rest

theorem mem_place_keys {k : κ} {v : β} {es : List (κ × β)} {x : κ}
    (h : x ∈ (place k v es).map (·.1)) : x = k ∨ x ∈ es.map (·.1) := by
  induction es with
  | nil => simpa [place] using h
  | cons e es ih =>
    obtain ⟨l, w⟩ := e
    unfold place at h
    split at h
    · simpa using h
    · split at h
      · rename_i hkl
        simp only [List.map_cons, List.mem_cons] at h ⊢
        rcases h with h | h
        · exact .inl h
        · exact .inr (.inr h)
      · simp only [List.map_cons, List.mem_cons] at h ⊢
        rcases h with h | h
        · exact .inr (.inl h)
        · rcases ih h with h | h
          · exact .inl h
          · exact .inr (.inr h)

theorem lookup_place_self (k : κ) (v : β) (es : List (κ × β)) :
    (place k v es).lookup k = some v := by
  induction es with
  | nil => exact List.lookup_cons_self
  | cons e es ih =>
    obtain ⟨l, w⟩ := e
    unfold place
    split
    · exact List.lookup_cons_self
    · split
      · exact List.lookup_cons_self
      · rename_i hne
        have hb : (k == l) = false := by simpa using hne
        rw [List.lookup_cons, hb]
        exact ih

theorem lookup_place_of_ne {k l : κ} (h : l ≠ k) (v : β) (es : List (κ × β)) :
    (place k v es).lookup l = es.lookup l := by
  have hb : (l == k) = false := by simpa using h
  induction es with
  | nil =>
    rw [place, List.lookup_cons, hb]
  | cons e es ih =>
    obtain ⟨m, w⟩ := e
    unfold place
    split
    · rw [List.lookup_cons, hb]
    · split
      · rename_i hkm
        subst hkm
        rw [List.lookup_cons, List.lookup_cons, hb]
      · rw [List.lookup_cons, List.lookup_cons, ih]

variable [LE κ] [Std.IsLinearOrder κ] [Std.LawfulOrderLT κ]

theorem ascending_place (k : κ) (v : β) (es : List (κ × β))
    (h : (es.map (·.1)).Pairwise (· < ·)) : ((place k v es).map (·.1)).Pairwise (· < ·) := by
  induction es with
  | nil => simp [place]
  | cons e es ih =>
    obtain ⟨l, w⟩ := e
    simp only [List.map_cons, List.pairwise_cons] at h
    unfold place
    split
    · rename_i hkl
      simp only [List.map_cons, List.pairwise_cons, List.mem_cons]
      refine ⟨?_, h.1, h.2⟩
      rintro x (rfl | hx)
      · exact hkl
      · exact Std.lt_trans hkl (h.1 x hx)
    · split
      · rename_i hkl
        subst hkl
        simpa using h
      · rename_i hlt hne
        have hlk : l < k := by
          rcases Std.lt_trichotomy k l with h' | h' | h'
          · exact absurd h' hlt
          · exact absurd h' hne
          · exact h'
        simp only [List.map_cons, List.pairwise_cons]
        refine ⟨?_, ih h.2⟩
        intro x hx
        rcases mem_place_keys hx with rfl | hx
        · exact hlk
        · exact h.1 x hx

/-- The table with the value of a key set. -/
def insert (t : SortedTable κ β) (k : κ) (v : β) : SortedTable κ β :=
  ⟨place k v t.entries, ascending_place k v t.entries t.ascending⟩

theorem get?_insert (t : SortedTable κ β) (k : κ) (v : β) (l : κ) :
    (t.insert k v).get? l = if l = k then some v else t.get? l := by
  by_cases hl : l = k
  · rw [hl, if_pos rfl]
    exact lookup_place_self k v t.entries
  · rw [if_neg hl]
    exact lookup_place_of_ne hl v t.entries

omit [DecidableLT κ] [Std.IsLinearOrder κ] in
/-- No key stands twice, so the pairs say what the value of a key is. -/
theorem get?_eq_some_iff {t : SortedTable κ β} {k : κ} {v : β} :
    t.get? k = some v ↔ (k, v) ∈ t.entries := by
  obtain ⟨es, hes⟩ := t
  unfold get?
  simp only
  induction es with
  | nil => simp
  | cons e es ih =>
    obtain ⟨l, w⟩ := e
    rw [List.map_cons, List.pairwise_cons] at hes
    rw [List.lookup_cons, List.mem_cons]
    by_cases hk : k = l
    · subst hk
      have hnone : (k, v) ∉ es := fun h =>
        Std.lt_irrefl (hes.1 k (List.mem_map.2 ⟨(k, v), h, rfl⟩))
      simp [hnone, eq_comm]
    · have hb : (k == l) = false := by simpa using hk
      rw [hb]
      simp only [ih hes.2, Prod.mk.injEq, hk, false_and, false_or]

/-- The table of the pairs, inserted one after the other. -/
def ofList (es : List (κ × β)) : SortedTable κ β :=
  es.foldl (fun t e => t.insert e.1 e.2) empty

end SortedTable

end LintScan
