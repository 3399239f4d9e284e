import LintScan.Text.Pieces

/-!
# Paths

* `Path` — a path as it is written.
* `Path.parts` — its meaning: the root, a leading `.`, steps up, and names. Repeated slashes and
  other dots stand for nothing.
* `Path.join`, `Path.parent?`, `Path.fileName?` — the path inside another one, and the two ends of a
  path.
* `Path.ancestors` — a path and those above it; each is shorter than the one before.
* `Path.relativeTo?` — the way from one path to another.
-/

namespace LintScan

/-- A path as it is written. -/
structure Path where
  text : String
  deriving Repr, DecidableEq, Inhabited

/-- A part of a path. -/
inductive Part where
  | root
  | here
  | up
  | name (s : String)
  deriving Repr, DecidableEq

/-- A part as it is written. -/
def Part.text : Part → String
  | root => "/"
  | here => "."
  | up => ".."
  | name s => s

namespace Path

/-- The part that a piece between slashes stands for, if any. -/
def partOf? (piece : List Char) : Option Part :=
  if piece = [] ∨ piece = ['.'] then none
  else if piece = ['.', '.'] then some .up
  else some (.name (String.ofList piece))

/-- The parts of a path. -/
def parts (p : Path) : List Part :=
  let pieces := Text.splitAtEach '/' p.text.toList
  let named := pieces.filterMap partOf?
  match p.text.toList, pieces with
  | '/' :: _, _ => .root :: named
  | _, ['.'] :: _ => .here :: named
  | _, _ => named

/-- Whether the path starts at the root. -/
def isAbsolute (p : Path) : Bool :=
  match p.text.toList with
  | '/' :: _ => true
  | _ => false

/-- The path `q` seen from `p`; an absolute path replaces `p`. -/
def join (p q : Path) : Path :=
  if q.isAbsolute || p.text.isEmpty then q
  else if p.text.toList.getLast? == some '/' then ⟨p.text ++ q.text⟩
  else ⟨p.text ++ "/" ++ q.text⟩

/-- The path of the parts. -/
def ofParts (ps : List Part) : Path :=
  ps.foldl (fun p part => p.join ⟨part.text⟩) ⟨""⟩

/-- The reversed text without slashes and dots that stand for nothing at its end. -/
def trimTail : List Char → List Char
  | '/' :: rest => if rest.isEmpty then ['/'] else trimTail rest
  | '.' :: '/' :: rest => if rest.isEmpty then ['/'] else trimTail rest
  | cs => cs

/-- The path one part shorter; the root and the empty path have none. -/
def parent? (p : Path) : Option Path :=
  match trimTail p.text.toList.reverse with
  | [] => none
  | ['/'] => none
  | cs => some ⟨String.ofList (trimTail (cs.dropWhile (· != '/'))).reverse⟩

theorem length_trimTail_le (cs : List Char) : (trimTail cs).length ≤ cs.length := by
  fun_induction trimTail cs with
  | case1 rest h => simp
  | case2 rest h ih => simp only [List.length_cons]; omega
  | case3 rest h => simp
  | case4 rest h ih => simp only [List.length_cons]; omega
  | case5 cs => simp

theorem trimTail_head (cs rest : List Char) (h : trimTail cs = '/' :: rest) : rest = [] := by
  fun_induction trimTail cs with
  | case1 r hr => simp_all
  | case2 r hr ih => exact ih h
  | case3 r hr => simp_all
  | case4 r hr ih => exact ih h
  | case5 cs h₁ h₂ => exact absurd h (h₁ rest)

theorem length_parent?_lt {p q : Path} (h : p.parent? = some q) :
    q.text.length < p.text.length := by
  unfold parent? at h
  have hle := length_trimTail_le p.text.toList.reverse
  split at h
  · cases h
  · cases h
  · rename_i cs hempty hroot
    cases h
    rw [← String.length_toList, ← String.length_toList, String.toList_ofList, List.length_reverse]
    rw [List.length_reverse] at hle
    have hback := length_trimTail_le
      ((trimTail p.text.toList.reverse).dropWhile (· != '/'))
    have hdrop : ((trimTail p.text.toList.reverse).dropWhile (· != '/')).length
        < (trimTail p.text.toList.reverse).length := by
      cases hc : trimTail p.text.toList.reverse with
      | nil => exact absurd hc hempty
      | cons c rest =>
        by_cases hs : c = '/'
        · subst hs
          have := trimTail_head _ _ hc
          subst this
          exact absurd hc hroot
        · have hs' : (c != '/') = true := by simpa using hs
          rw [List.dropWhile_cons, if_pos hs', List.length_cons]
          have := (List.dropWhile_sublist (l := rest) (fun c => c != '/')).length_le
          omega
    omega

/-- The path and the paths that remain when parts are taken off its end. -/
def ancestors (p : Path) : List Path :=
  match _above : p.parent? with
  | none => [p]
  | some q => p :: q.ancestors
termination_by p.text.length
decreasing_by exact length_parent?_lt _above

/-- The last part, if it is a name. -/
def fileName? (p : Path) : Option String :=
  match p.parts.getLast? with
  | some (.name s) => some s
  | _ => none

/-- The way on from two lists of parts, where nothing differs before them. -/
def wayFrom (moved : Bool) : List Part → List Part → Option (List Part)
  | [], [] => some []
  | a :: as, [] => some (a :: as)
  | [], _ :: bs => (wayFrom true [] bs).map (.up :: ·)
  | a :: as, b :: bs =>
    if !moved && a == b then wayFrom false as bs
    else if b == .here then (wayFrom true as bs).map (a :: ·)
    else if b == .up then none
    else some (.up :: (bs.map fun _ => Part.up) ++ a :: as)

/-- The path that leads from `base` to `p`, if both are absolute or both relative; an absolute path
leads to itself. -/
def relativeTo? (p base : Path) : Option Path :=
  if p.isAbsolute == base.isAbsolute then (wayFrom false p.parts base.parts).map ofParts
  else if p.isAbsolute then some p
  else none

/-! Lists of names are ordered from the first name on, so a directory stands right before
what it holds. -/

instance leNames : LE (List String) := List.instLE

instance decidableLTNames : DecidableLT (List String) := List.decidableLT

instance isLinearOrderNames : Std.IsLinearOrder (List String) := inferInstance

instance lawfulOrderLTNames : Std.LawfulOrderLT (List String) := inferInstance

/-- The names of a path from the root, as an order key. -/
def names (p : Path) : List String := p.parts.map Part.text

end Path

end LintScan
