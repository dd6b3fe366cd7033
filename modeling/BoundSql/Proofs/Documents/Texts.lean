import BoundSql.Json.Reader

/-!
# Reading texts back

Inside a text a character is written as it is, by a letter behind a backslash, or by its number in
hexadecimal digits, and in each form the reader takes it back off the front. Every text between
quotes is therefore read as itself, whatever characters it holds and whatever stands behind it
(`Json.readString_printed`).
-/

set_option autoImplicit false
set_option relaxedAutoImplicit false

namespace BoundSql.Json

/-! ### The forms of a character -/

theorem hexValue?_hexDigit (digit : Fin 16) : hexValue? (hexDigit digit.val) = some digit.val := by
  revert digit
  decide

/-- A number below 32 has two hexadecimal digits. -/
theorem codeUnit?_hexDigit {n : Nat} (hn : n < 32) :
    codeUnit? '0' '0' (hexDigit (n / 16)) (hexDigit (n % 16)) = some n := by
  have hupper := hexValue?_hexDigit ⟨n / 16, by omega⟩
  have hlower := hexValue?_hexDigit ⟨n % 16, by omega⟩
  have hzero : hexValue? '0' = some 0 := by decide
  have hvalue : ((0 * 16 + 0) * 16 + n / 16) * 16 + n % 16 = n := by omega
  simp only [codeUnit?, hzero, hupper, hlower, Option.bind_eq_bind, Option.bind_some, hvalue]

/-- A character is written by a letter behind a backslash that stands for it, by its number, or as
it is. -/
theorem encodeChar_cases (c : Char) :
    (∃ letter, letter ≠ 'u' ∧ escapeChar? letter = some c ∧ encodeChar c = ['\\', letter]) ∨
      (c.toNat < 32 ∧ encodeChar c =
        ['\\', 'u', '0', '0', hexDigit (c.toNat / 16), hexDigit (c.toNat % 16)]) ∨
      (c ≠ '"' ∧ c ≠ '\\' ∧ ¬c.toNat < 32 ∧ encodeChar c = [c]) := by
  obtain rfl | hquote := Decidable.em (c = '"')
  · exact .inl ⟨'"', by decide⟩
  obtain rfl | hbackslash := Decidable.em (c = '\\')
  · exact .inl ⟨'\\', by decide⟩
  obtain rfl | hbackspace := Decidable.em (c = '\x08')
  · exact .inl ⟨'b', by decide⟩
  obtain rfl | htab := Decidable.em (c = '\t')
  · exact .inl ⟨'t', by decide⟩
  obtain rfl | hnewline := Decidable.em (c = '\n')
  · exact .inl ⟨'n', by decide⟩
  obtain rfl | hfeed := Decidable.em (c = '\x0c')
  · exact .inl ⟨'f', by decide⟩
  obtain rfl | hreturn := Decidable.em (c = '\r')
  · exact .inl ⟨'r', by decide⟩
  have hencode : encodeChar c = if c.toNat < 32 then
      ['\\', 'u', '0', '0', hexDigit (c.toNat / 16), hexDigit (c.toNat % 16)] else [c] := by
    rw [encodeChar, if_neg hquote, if_neg hbackslash, if_neg hbackspace, if_neg htab,
      if_neg hnewline, if_neg hfeed, if_neg hreturn]
  by_cases hcontrol : c.toNat < 32
  · exact .inr (.inl ⟨hcontrol, hencode.trans (if_pos hcontrol)⟩)
  · exact .inr (.inr ⟨hquote, hbackslash, hcontrol, hencode.trans (if_neg hcontrol)⟩)

/-! ### Reading them -/

theorem readString_quote (rest : List Char) : readString ('"' :: rest) = some ([], rest) := by
  rw [readString.eq_def]
  exact if_pos rfl

theorem readString_letter {letter meant : Char} (hletter : letter ≠ 'u')
    (hmeant : escapeChar? letter = some meant) (rest : List Char) :
    readString ('\\' :: letter :: rest) = withChar meant (readString rest) := by
  rw [readString.eq_def]
  simp only [if_neg (show '\\' ≠ '"' by decide), if_pos, if_neg hletter, hmeant]

theorem readString_number {n : Nat} (hn : n < 32) (rest : List Char) :
    readString ('\\' :: 'u' :: '0' :: '0' :: hexDigit (n / 16) :: hexDigit (n % 16) :: rest) =
      withChar (Char.ofNat n) (readString rest) := by
  have hhigh : isHighHalf n = false := by simp [isHighHalf]; omega
  have hlow : isLowHalf n = false := by simp [isLowHalf]; omega
  rw [readString.eq_def]
  simp only [if_neg (show '\\' ≠ '"' by decide), if_pos, codeUnit?_hexDigit hn, hhigh, hlow,
    Bool.false_eq_true, if_false]

theorem readString_plain {c : Char} (hquote : c ≠ '"') (hbackslash : c ≠ '\\')
    (hcontrol : ¬c.toNat < 32) (rest : List Char) :
    readString (c :: rest) = withChar c (readString rest) := by
  rw [readString.eq_def]
  simp only [if_neg hquote, if_neg hbackslash, if_neg hcontrol]

theorem readString_encodeChar (c : Char) (rest : List Char) :
    readString (encodeChar c ++ rest) = withChar c (readString rest) := by
  obtain ⟨letter, hletter, hmeant, hencode⟩ | ⟨hcontrol, hencode⟩ |
    ⟨hquote, hbackslash, hcontrol, hencode⟩ := encodeChar_cases c
  · rw [hencode]
    exact readString_letter hletter hmeant rest
  · have hnumber := readString_number hcontrol rest
    rw [Char.ofNat_toNat] at hnumber
    rw [hencode]
    exact hnumber
  · rw [hencode]
    exact readString_plain hquote hbackslash hcontrol rest

/-- A text is read back up to its closing quote. -/
theorem readString_printed (text rest : List Char) :
    readString (text.flatMap encodeChar ++ '"' :: rest) = some (text, rest) := by
  induction text with
  | nil => exact readString_quote rest
  | cons c text ih =>
    rw [List.flatMap_cons, List.append_assoc, readString_encodeChar, ih]
    rfl

end BoundSql.Json
