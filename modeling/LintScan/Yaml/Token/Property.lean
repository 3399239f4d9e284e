import LintScan.Yaml.Cursor
import LintScan.Yaml.Token

/-!
# Anchors, tags and directives

* `readName` — the name of an anchor or alias.
* `readTag` — a tag: a handle and a suffix.
* `readDirective` — the `%YAML` and `%TAG` lines before a document.
-/

namespace LintScan.Yaml

/-- Reads the name of an anchor or alias; the cursor stands at `&` or `*`. -/
def readName (c : Cursor) : Except Problem (String × Cursor) :=
  let (name, c) := c.skip.takeWhile isNameChar
  let ends := match c.peek with
    | none => true
    | some ch =>
      isGap (some ch) || ['?', ':', ',', ']', '\x7d', '%', '@', Char.ofNat 96].contains ch
  if name.isEmpty || !ends then .error .badAnchor else .ok (String.ofList name, c)

/-- Characters that may stand in a tag. -/
def isTagChar (verbatim : Bool) (c : Char) : Bool :=
  isNameChar c || ";/?:@&=+$.%!~*'()".toList.contains c || (verbatim && ",[]".toList.contains c)

/-- The value of a hexadecimal digit. -/
def tagHexDigit? (c : Char) : Option Nat :=
  if '0' ≤ c ∧ c ≤ '9' then some (c.toNat - '0'.toNat)
  else if 'a' ≤ c ∧ c ≤ 'f' then some (c.toNat - 'a'.toNat + 10)
  else if 'A' ≤ c ∧ c ≤ 'F' then some (c.toNat - 'A'.toNat + 10)
  else none

/-- Replaces the escapes `%xx` of ASCII characters in a tag. -/
def unescapeTag : List Char → Except Problem (List Char)
  | [] => .ok []
  | '%' :: a :: b :: rest =>
    match tagHexDigit? a, tagHexDigit? b with
    | some x, some y =>
      if x * 16 + y < 0x80 then (unescapeTag rest).map (Char.ofNat (x * 16 + y) :: ·)
      else .error .badTag
    | _, _ => .error .badTag
  | '%' :: _ => .error .badTag
  | c :: rest => (unescapeTag rest).map (c :: ·)

/-- Reads the characters of a tag. -/
def readTagText (verbatim : Bool) (c : Cursor) : Except Problem (List Char × Cursor) := do
  let (raw, c) := c.takeWhile (isTagChar verbatim)
  let text ← unescapeTag raw
  .ok (text, c)

/-- Reads the handle of a tag: `!`, `!!` or `!name!`; without a second `!` it is only a
beginning. -/
def readHandle (c : Cursor) : List Char × Cursor :=
  let (name, c) := c.skip.takeWhile isNameChar
  if c.sees '!' then ('!' :: name ++ ['!'], c.skip) else ('!' :: name, c)

/-- Reads a tag; the cursor stands at `!`. -/
def readTag (flow : Bool) (c : Cursor) : Except Problem (Token × Cursor) := do
  let (handle, suffix, c) ←
    if c.peekAt 1 == some '<' then do
      let (text, c) ← readTagText true (c.skipN 2)
      if text.isEmpty || !c.sees '>' then .error .badTag else .ok ([], text, c.skip)
    else do
      let (handle, c) := readHandle c
      if handle.length > 1 && handle.getLast? == some '!' then do
        let (text, c) ← readTagText false c
        if text.isEmpty then .error .badTag else .ok (handle, text, c)
      else do
        let (text, c) ← readTagText false c
        let suffix := handle.tail ++ text
        if suffix.isEmpty then .ok ([], ['!'], c) else .ok (['!'], suffix, c)
  if isGap c.peek || (flow && c.sees ',') then
    .ok (.tag (String.ofList handle) (String.ofList suffix), c)
  else .error .badTag

/-- Reads a number of at most nine digits. -/
def readSmallNumber (c : Cursor) : Except Problem (Nat × Cursor) :=
  let (digits, c) := c.takeWhile Char.isDigit
  if digits.isEmpty || digits.length > 9 then .error .badDirective
  else .ok (digits.foldl (fun n d => n * 10 + (d.toNat - '0'.toNat)) 0, c)

/-- Reads a directive; the cursor stands at `%`. -/
def readDirective (c : Cursor) : Except Problem (Token × Cursor) := do
  let (name, c) := c.skip.takeWhile isNameChar
  if name.isEmpty || !isGap c.peek then .error .badDirective
  else
    let c := c.skipWhile isSpaceTab
    let (token, c) ←
      if name == "YAML".toList then do
        let (major, c) ← readSmallNumber c
        if !c.sees '.' then .error .badDirective
        else do
          let (minor, c) ← readSmallNumber c.skip
          .ok (Token.version major minor, c)
      else if name == "TAG".toList then do
        if !c.sees '!' then .error .badDirective
        else do
          let (handle, c) := readHandle c
          if handle != ['!'] && (handle.length < 2 || handle.getLast? != some '!') then
            .error .badDirective
          else if !c.peek.any isSpaceTab then .error .badDirective
          else do
            let (lead, c) ← readTagText true (c.skipWhile isSpaceTab)
            if lead.isEmpty || !isGap c.peek then .error .badDirective
            else .ok (Token.tagDirective (String.ofList handle) (String.ofList lead), c)
      else .error .badDirective
    let c := c.skipWhile isSpaceTab
    let c := if c.sees '#' then c.skipLine else c
    if isLineEnd c.peek then .ok (token, c.skipBreak) else .error .badDirective

end LintScan.Yaml
