/-!
# Tables in order of insertion

* `OrderedTable` — pairs of a key and a value; no key stands twice.
* `OrderedTable.insert` — a new key goes to the end; a known key keeps its place and gets the new
  value.
* `keys_insert_of_mem`, `keys_insert_of_not_mem` — what an insertion does to the keys.
-/

namespace LintScan

variable {β γ : Type}

/-- A table from strings that remembers the order of insertion. -/
structure OrderedTable (β : Type) where
  entries : List (String × β)
  nodup : (entries.map (·.1)).Nodup

namespace OrderedTable

/-- The pairs with the value of `k` set: in place if the key is known, and at the end if not. -/
def upsert (k : String) (v : β) : List (String × β) → List (String × β)
  | [] => [(k, v)]
  | (l, w) :: rest => if l = k then (l, v) :: rest else (l, w) :: upsert k v rest

theorem map_fst_upsert (k : String) (v : β) (es : List (String × β)) :
    (upsert k v es).map (·.1) =
      if k ∈ es.map (·.1) then es.map (·.1) else es.map (·.1) ++ [k] := by
  induction es with
  | nil => simp [upsert]
  | cons e es ih =>
    obtain ⟨l, w⟩ := e
    by_cases h : l = k
    · simp [upsert, h]
    · have h' : k ≠ l := fun e => h e.symm
      simp only [upsert, h, if_false, List.map_cons, ih, List.mem_cons, h', false_or]
      split <;> simp

theorem nodup_upsert (k : String) (v : β) (es : List (String × β))
    (h : (es.map (·.1)).Nodup) : ((upsert k v es).map (·.1)).Nodup := by
  rw [map_fst_upsert]
  split
  · exact h
  · rename_i hk
    rw [List.nodup_append]
    refine ⟨h, by simp, ?_⟩
    intro a ha b hb
    simp only [List.mem_singleton] at hb
    intro hab
    exact hk (hb ▸ hab ▸ ha)

/-- The table that holds nothing. -/
def empty : OrderedTable β := ⟨[], by simp⟩

instance : Inhabited (OrderedTable β) := ⟨empty⟩

/-- The keys in order. -/
def keys (t : OrderedTable β) : List String := t.entries.map (·.1)

/-- The value of a key. -/
def get? (t : OrderedTable β) (k : String) : Option β := t.entries.lookup k

/-- Whether the table holds the key. -/
def contains (t : OrderedTable β) (k : String) : Bool := (t.get? k).isSome

/-- The table with the value of a key set. -/
def insert (t : OrderedTable β) (k : String) (v : β) : OrderedTable β :=
  ⟨upsert k v t.entries, nodup_upsert k v t.entries t.nodup⟩

/-- The table with the pairs inserted one after the other. -/
def insertAll (t : OrderedTable β) (es : List (String × β)) : OrderedTable β :=
  es.foldl (fun t e => t.insert e.1 e.2) t

/-- The table of the pairs, inserted one after the other. -/
def ofList (es : List (String × β)) : OrderedTable β := empty.insertAll es

/-- The table with every value changed. -/
def map (f : String → β → γ) (t : OrderedTable β) : OrderedTable γ :=
  ⟨t.entries.map fun e => (e.1, f e.1 e.2), by
    have h := t.nodup
    simpa [List.map_map, Function.comp_def] using h⟩

theorem mem_keys_of_lookup {es : List (String × β)} {k : String} {v : β}
    (h : es.lookup k = some v) : k ∈ es.map (·.1) := by
  induction es with
  | nil => simp at h
  | cons e es ih =>
    obtain ⟨l, w⟩ := e
    rw [List.lookup_cons] at h
    by_cases hk : k = l
    · simp [hk]
    · have hb : (k == l) = false := by simpa using hk
      rw [hb] at h
      simp only [List.map_cons, List.mem_cons]
      exact .inr (ih h)

theorem mem_keys_of_get? {t : OrderedTable β} {k : String} {v : β} (h : t.get? k = some v) :
    k ∈ t.keys :=
  mem_keys_of_lookup h

theorem keys_insert_of_mem {t : OrderedTable β} {k : String} (v : β) (h : k ∈ t.keys) :
    (t.insert k v).keys = t.keys := by
  unfold keys at h
  simp only [keys, insert, map_fst_upsert, if_pos h]

theorem keys_insert_of_not_mem {t : OrderedTable β} {k : String} (v : β) (h : k ∉ t.keys) :
    (t.insert k v).keys = t.keys ++ [k] := by
  unfold keys at h
  simp only [keys, insert, map_fst_upsert, if_neg h]

end OrderedTable

end LintScan
