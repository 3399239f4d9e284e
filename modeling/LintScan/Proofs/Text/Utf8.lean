import LintScan.Text.Utf8

/-!
# Reading back UTF-8

The lossy reading gives back each text from its bytes: the bytes of a character make up one step of
the reader, with the same character behind it.

* `encode_eq` — the bytes of a text are those of its characters.
* `step_utf8EncodeChar` — the step over the bytes of one character.
* `decodeLossy_encode` — the text, one character at a time.
-/

namespace LintScan.Text.Utf8

/-! ## The bytes of a text -/

theorem toList_loop (bs : ByteArray) (i : Nat) (done : List UInt8) :
    ByteArray.toList.loop bs i done = done.reverse ++ bs.data.toList.drop i := by
  fun_induction ByteArray.toList.loop bs i done with
  | case1 i done h ih =>
    have hi : i < bs.data.toList.length := by simpa using h
    rw [ih, List.drop_eq_getElem_cons (l := bs.data.toList) hi]
    simp [ByteArray.get!, h]
  | case2 i done h =>
    rw [List.drop_eq_nil_of_le (by simpa using Nat.le_of_not_lt h), List.append_nil]

theorem encode_eq (s : String) : encode s = s.toList.flatMap String.utf8EncodeChar := by
  have htoList : ∀ bs : ByteArray, bs.toList = bs.data.toList := fun bs => by
    rw [ByteArray.toList, toList_loop]
    rfl
  have hbytes : s.toUTF8 = s.toList.utf8Encode := by
    rw [String.toUTF8_eq_toByteArray, ← String.toByteArray_ofList, String.ofList_toList]
  rw [encode, htoList, hbytes, List.utf8Encode, List.toList_data_toByteArray]

/-! ## One character -/

theorem between_of_le {lo hi : Nat} {b : UInt8} (hlo : lo ≤ b.toNat) (hhi : b.toNat ≤ hi) :
    between lo hi b = true := by
  simp [between, hlo, hhi]

/-- A continuation byte carries six bits. -/
theorem toNat_continuation {b : UInt8} {n : Nat} (h : b = UInt8.ofNat (n % 64 + 128)) :
    b.toNat = n % 64 + 128 ∧ low6 b = n % 64 := by
  have hbyte : b.toNat = n % 64 + 128 := h ▸ UInt8.toNat_ofNat_of_lt' (show _ < 256 by omega)
  exact ⟨hbyte, by rw [low6, hbyte]; omega⟩

section

variable {lead lo hi n n' n'' : Nat} {b d e : UInt8}

theorem stepTwo_continued (hb : b = UInt8.ofNat (n % 64 + 128)) (rest : List UInt8) :
    stepTwo lead (b :: rest) = .char (Char.ofNat (lead % 32 * 64 + n % 64)) rest := by
  obtain ⟨hbyte, hbits⟩ := toNat_continuation hb
  rw [stepTwo, if_pos (between_of_le (by omega) (by omega)), hbits]

theorem stepThree_continued (hb : b = UInt8.ofNat (n % 64 + 128))
    (hd : d = UInt8.ofNat (n' % 64 + 128)) (hlo : lo ≤ n % 64 + 128) (hhi : n % 64 + 128 ≤ hi)
    (rest : List UInt8) :
    stepThree lead lo hi (b :: d :: rest) =
      .char (Char.ofNat ((lead % 16 * 64 + n % 64) * 64 + n' % 64)) rest := by
  obtain ⟨hbyte, hbits⟩ := toNat_continuation hb
  obtain ⟨hbyte', hbits'⟩ := toNat_continuation hd
  simp only [stepThree]
  rw [if_pos (between_of_le (by omega) (by omega)), if_pos (between_of_le (by omega) (by omega)),
    hbits, hbits']

theorem stepFour_continued (hb : b = UInt8.ofNat (n % 64 + 128))
    (hd : d = UInt8.ofNat (n' % 64 + 128)) (he : e = UInt8.ofNat (n'' % 64 + 128))
    (hlo : lo ≤ n % 64 + 128) (hhi : n % 64 + 128 ≤ hi) (rest : List UInt8) :
    stepFour lead lo hi (b :: d :: e :: rest) =
      .char (Char.ofNat (((lead % 8 * 64 + n % 64) * 64 + n' % 64) * 64 + n'' % 64)) rest := by
  obtain ⟨hbyte, hbits⟩ := toNat_continuation hb
  obtain ⟨hbyte', hbits'⟩ := toNat_continuation hd
  obtain ⟨hbyte'', hbits''⟩ := toNat_continuation he
  simp only [stepFour]
  rw [if_pos (between_of_le (by omega) (by omega)), if_pos (between_of_le (by omega) (by omega)),
    if_pos (between_of_le (by omega) (by omega)), hbits, hbits', hbits'']

end

/-- The reader steps over the bytes of a character at once. -/
theorem step_utf8EncodeChar (c : Char) (rest : List UInt8) : ∃ a bs,
    String.utf8EncodeChar c ++ rest = a :: bs ∧ step a bs = .char c rest := by
  have hvalid : c.val.toNat < 55296 ∨ 57343 < c.val.toNat ∧ c.val.toNat < 1114112 := c.valid
  have hchar : ∀ n, n = c.val.toNat → Char.ofNat n = c := by
    rintro n rfl
    exact Char.ofNat_toNat c
  have hbyte : ∀ n, n < 256 → (UInt8.ofNat n).toNat = n := fun n hn =>
    UInt8.toNat_ofNat_of_lt' hn
  unfold String.utf8EncodeChar
  generalize c.val.toNat = v at *
  simp only
  split
  · refine ⟨_, _, rfl, ?_⟩
    simp only [step, hbyte v (by omega)]
    rw [if_pos (by omega), hchar v rfl]
    rfl
  · split
    · refine ⟨_, _, rfl, ?_⟩
      simp only [step, hbyte (v / 64 % 32 + 192) (by omega)]
      rw [if_neg (by omega), if_neg (by omega), if_pos (by omega)]
      refine (stepTwo_continued rfl _).trans ?_
      rw [hchar _ (by omega)]
      rfl
    · split
      · refine ⟨_, _, rfl, ?_⟩
        simp only [step, hbyte (v / 4096 % 16 + 224) (by omega), beq_iff_eq]
        rw [if_neg (by omega), if_neg (by omega), if_neg (by omega)]
        -- a second byte out of bounds would spell a shorter form or half of a pair
        have hthree : ∀ lo hi, lo ≤ v / 64 % 64 + 128 → v / 64 % 64 + 128 ≤ hi →
            stepThree (v / 4096 % 16 + 224) lo hi (UInt8.ofNat (v / 64 % 64 + 128) ::
              UInt8.ofNat (v % 64 + 128) :: rest) = .char c rest := fun lo hi hlo hhi => by
          rw [stepThree_continued rfl rfl hlo hhi, hchar _ (by omega)]
        split
        · exact hthree _ _ (by omega) (by omega)
        · split
          · exact hthree _ _ (by omega) (by omega)
          · rw [if_pos (by omega)]
            exact hthree _ _ (by omega) (by omega)
      · refine ⟨_, _, rfl, ?_⟩
        simp only [step, hbyte (v / 262144 % 8 + 240) (by omega), beq_iff_eq]
        rw [if_neg (by omega), if_neg (by omega), if_neg (by omega), if_neg (by omega),
          if_neg (by omega), if_neg (by omega)]
        have hfour : ∀ lo hi, lo ≤ v / 4096 % 64 + 128 → v / 4096 % 64 + 128 ≤ hi →
            stepFour (v / 262144 % 8 + 240) lo hi (UInt8.ofNat (v / 4096 % 64 + 128) ::
              UInt8.ofNat (v / 64 % 64 + 128) :: UInt8.ofNat (v % 64 + 128) :: rest) =
                .char c rest := fun lo hi hlo hhi => by
          rw [stepFour_continued rfl rfl rfl hlo hhi, hchar _ (by omega)]
        split
        · exact hfour _ _ (by omega) (by omega)
        · split
          · exact hfour _ _ (by omega) (by omega)
          · rw [if_pos (by omega)]
            exact hfour _ _ (by omega) (by omega)

/-! ## Whole texts -/

theorem decodeLossyChars_flatMap (cs : List Char) :
    decodeLossyChars (cs.flatMap String.utf8EncodeChar) = cs := by
  induction cs with
  | nil => rw [List.flatMap_nil, decodeLossyChars]
  | cons c cs ih =>
    obtain ⟨a, bs, hbytes, hstep⟩ := step_utf8EncodeChar c (cs.flatMap String.utf8EncodeChar)
    rw [List.flatMap_cons, hbytes, decodeLossyChars]
    split
    · rename_i hstep'
      obtain ⟨rfl, rfl⟩ := Step.char.inj (hstep.symm.trans hstep')
      rw [ih]
    · rename_i hstep'
      cases hstep.symm.trans hstep'

/-- The lossy reading loses nothing of a text. -/
theorem decodeLossy_encode (s : String) : decodeLossy (encode s) = s := by
  rw [decodeLossy, encode_eq, decodeLossyChars_flatMap, String.ofList_toList]

end LintScan.Text.Utf8
