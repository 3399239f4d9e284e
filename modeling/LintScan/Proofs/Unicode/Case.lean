import LintScan.Proofs.Text.Pieces
import LintScan.Unicode.Case
import Mathlib.Data.List.Basic

/-!
# Searching a lower-case text

The lower-case form of a text is not that of its characters one by one: a sigma at the end of a word
becomes a final sigma. A search for a text without sigmas does not see the difference.

* `lowered` — the lower-case form of the characters one by one, with one sigma for both.
* `occursIn_lowercase_iff` — a text without sigmas occurs in the lower-case form of a text exactly
  if it occurs in this one, which is that of the parts of a text side by side.
-/

namespace LintScan.Unicode

open Text

/-- The character with the final sigma as the other one. -/
def withoutFinal (c : Char) : Char := if c = 'ς' then 'σ' else c

/-- The lower-case forms of the characters one by one. -/
def lowered (cs : List Char) : List Char := (cs.flatMap lowerChar).map withoutFinal

theorem lowered_append (cs cs' : List Char) : lowered (cs ++ cs') = lowered cs ++ lowered cs' := by
  rw [lowered, List.flatMap_append, List.map_append]
  rfl

/-- A character that has no other lower-case form. -/
theorem lowered_cons {c : Char} (h : lowered [c] = [c]) (cs : List Char) :
    lowered (c :: cs) = c :: lowered cs := by
  rw [← List.singleton_append, lowered_append, h, List.singleton_append]

theorem map_lowercaseFrom (before cs : List Char) :
    (lowercaseFrom before cs).map withoutFinal = lowered cs := by
  induction cs generalizing before with
  | nil => rfl
  | cons c cs ih =>
    have hfirst : (if c == 'Σ' then [if nextIsCased before && !nextIsCased cs then 'ς' else 'σ']
        else lowerChar c).map withoutFinal = lowered [c] := by
      split
      · rename_i hsigma
        obtain rfl := eq_of_beq hsigma
        have hlowered : lowered ['Σ'] = ['σ'] := by decide +kernel
        rw [hlowered]
        split <;> rfl
      · rw [lowered, List.flatMap_singleton]
    rw [lowercaseFrom, List.map_append, ih, hfirst, ← lowered_append, List.singleton_append]

/-- A text without sigmas occurs with one sigma for both exactly where it occurs with two. -/
theorem infix_map_withoutFinal_iff {part cs : List Char} (hsigma : 'σ' ∉ part)
    (hfinal : 'ς' ∉ part) : part <:+: cs.map withoutFinal ↔ part <:+: cs := by
  have hmap : ∀ l : List Char, l.map withoutFinal = part ↔ l = part := by
    intro l
    have hself : ∀ {l : List Char}, 'ς' ∉ l → l.map withoutFinal = l := fun {l} hl => by
      have hsame : ∀ c ∈ l, withoutFinal c = c := fun c hc =>
        if_neg (ne_of_mem_of_not_mem hc hl)
      rw [List.map_congr_left hsame, List.map_id']
    constructor
    · rintro rfl
      exact (hself fun hl => hsigma (List.mem_map.2 ⟨_, hl, rfl⟩)).symm
    · rintro rfl
      exact hself hfinal
  rw [List.infix_map_iff]
  constructor
  · rintro ⟨l, hl, heq⟩
    rwa [← (hmap l).1 heq.symm]
  · exact fun h => ⟨part, h, ((hmap part).2 rfl).symm⟩

theorem occursIn_lowercase_iff {part : String} (hsigma : 'σ' ∉ part.toList)
    (hfinal : 'ς' ∉ part.toList) (s : String) :
    occursIn part (lowercase s) = true ↔ part.toList <:+: lowered s.toList := by
  rw [occursIn, occursInChars_iff, lowercase, String.toList_ofList,
    ← infix_map_withoutFinal_iff hsigma hfinal, map_lowercaseFrom]

end LintScan.Unicode
