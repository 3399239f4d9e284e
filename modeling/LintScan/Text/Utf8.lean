/-!
# UTF-8

* `encode` — the bytes of a text.
* `decode?` — the text that the bytes spell, if they are well formed.
* `decodeLossy` — the text with each maximal ill-formed part shown as one replacement character.
* `Step` / `step` — what stands at the head of a byte sequence; both decoders run over it.
-/

namespace LintScan.Text.Utf8

/-- The bytes of a text. -/
def encode (s : String) : List UInt8 := s.toUTF8.toList

/-- The head of a byte sequence: a character or an ill-formed part, with the bytes behind it. -/
inductive Step where
  | char (c : Char) (rest : List UInt8)
  | bad (rest : List UInt8)

/-- The bytes behind the head. -/
def Step.rest : Step → List UInt8
  | .char _ rest => rest
  | .bad rest => rest

/-- Whether `b` lies between the bounds. -/
def between (lo hi : Nat) (b : UInt8) : Bool := lo ≤ b.toNat && b.toNat ≤ hi

/-- The six low bits of a continuation byte. -/
def low6 (b : UInt8) : Nat := b.toNat % 64

/-- Reads a two-byte character whose lead byte is `lead`. -/
def stepTwo (lead : Nat) : List UInt8 → Step
  | b :: rest =>
    if between 0x80 0xbf b then .char (Char.ofNat (lead % 32 * 64 + low6 b)) rest
    else .bad (b :: rest)
  | [] => .bad []

/-- Reads a three-byte character; the second byte lies between `lo` and `hi`. -/
def stepThree (lead lo hi : Nat) : List UInt8 → Step
  | b :: rest =>
    if between lo hi b then
      match rest with
      | d :: rest' =>
        if between 0x80 0xbf d then
          .char (Char.ofNat ((lead % 16 * 64 + low6 b) * 64 + low6 d)) rest'
        else .bad rest
      | [] => .bad []
    else .bad (b :: rest)
  | [] => .bad []

/-- Reads a four-byte character; the second byte lies between `lo` and `hi`. -/
def stepFour (lead lo hi : Nat) : List UInt8 → Step
  | b :: rest =>
    if between lo hi b then
      match rest with
      | d :: rest' =>
        if between 0x80 0xbf d then
          match rest' with
          | e :: rest'' =>
            if between 0x80 0xbf e then
              .char (Char.ofNat (((lead % 8 * 64 + low6 b) * 64 + low6 d) * 64 + low6 e)) rest''
            else .bad rest'
          | [] => .bad []
        else .bad rest
      | [] => .bad []
    else .bad (b :: rest)
  | [] => .bad []

/-- The head of the sequence `a :: rest`. -/
def step (a : UInt8) (rest : List UInt8) : Step :=
  let n := a.toNat
  if n < 0x80 then .char (Char.ofNat n) rest
  else if n < 0xc2 then .bad rest
  else if n < 0xe0 then stepTwo n rest
  else if n == 0xe0 then stepThree n 0xa0 0xbf rest
  else if n == 0xed then stepThree n 0x80 0x9f rest
  else if n < 0xf0 then stepThree n 0x80 0xbf rest
  else if n == 0xf0 then stepFour n 0x90 0xbf rest
  else if n < 0xf4 then stepFour n 0x80 0xbf rest
  else if n == 0xf4 then stepFour n 0x80 0x8f rest
  else .bad rest

theorem stepTwo_rest_le (lead : Nat) (bs : List UInt8) :
    (stepTwo lead bs).rest.length ≤ bs.length := by
  unfold stepTwo
  split
  · split <;> simp [Step.rest]
  · simp [Step.rest]

theorem stepThree_rest_le (lead lo hi : Nat) (bs : List UInt8) :
    (stepThree lead lo hi bs).rest.length ≤ bs.length := by
  unfold stepThree
  repeat' split
  all_goals simp only [Step.rest, List.length_cons, List.length_nil]
  all_goals omega

theorem stepFour_rest_le (lead lo hi : Nat) (bs : List UInt8) :
    (stepFour lead lo hi bs).rest.length ≤ bs.length := by
  unfold stepFour
  repeat' split
  all_goals simp only [Step.rest, List.length_cons, List.length_nil]
  all_goals omega

theorem step_rest_le (a : UInt8) (bs : List UInt8) :
    (step a bs).rest.length ≤ bs.length := by
  unfold step
  simp only []
  repeat' split
  all_goals first
    | exact stepTwo_rest_le _ _
    | exact stepThree_rest_le _ _ _ _
    | exact stepFour_rest_le _ _ _ _
    | simp [Step.rest]

/-- The characters that the bytes spell, if they are well formed. -/
def decodeChars? : List UInt8 → Option (List Char)
  | [] => some []
  | a :: bs =>
    match _h : step a bs with
    | .char c rest => (decodeChars? rest).map (c :: ·)
    | .bad _ => none
termination_by bs => bs.length
decreasing_by
  have := step_rest_le a bs
  simp only [_h, Step.rest] at this
  simp only [List.length_cons]
  omega

/-- The characters, with U+FFFD for each maximal ill-formed part. -/
def decodeLossyChars : List UInt8 → List Char
  | [] => []
  | a :: bs =>
    match _h : step a bs with
    | .char c rest => c :: decodeLossyChars rest
    | .bad rest => '\ufffd' :: decodeLossyChars rest
termination_by bs => bs.length
decreasing_by
  all_goals
    have := step_rest_le a bs
    simp only [_h, Step.rest] at this
    simp only [List.length_cons]
    omega

/-- The text that the bytes spell, if they are well formed. -/
def decode? (bs : List UInt8) : Option String := (decodeChars? bs).map String.ofList

/-- The text with each maximal ill-formed part shown as one replacement character. -/
def decodeLossy (bs : List UInt8) : String := String.ofList (decodeLossyChars bs)

end LintScan.Text.Utf8
