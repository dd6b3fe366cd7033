import BoundSql.Json.Numeral

/-!
# Reading numbers back

A number is written by its sign, the digits of its whole part, its fraction and its exponent, and
each of these is read back where nothing behind it could continue it. What is written is therefore
read as the number itself, whatever stands behind it, unless this goes on as a number
(`Numeral.read_print_append`).
-/

set_option autoImplicit false
set_option relaxedAutoImplicit false

namespace BoundSql.Numeral

/-! ### Digits -/

/-- A number is written in digits. -/
theorem isDigit_of_mem_digits {n : Nat} {c : Char} (hc : c ∈ digits n) : c.isDigit = true :=
  Nat.isDigit_of_mem_toDigits (by decide) (by decide) hc

/-- A number is read back from its digits. -/
theorem ofDigitChars_digits (n : Nat) : Nat.ofDigitChars 10 (digits n) 0 = n :=
  Nat.ofDigitChars_toDigits (by decide) (by decide)

theorem digits_ne_nil (n : Nat) : digits n ≠ [] := Nat.toDigits_ne_nil

/-- Only zero is written with a zero in front, and then it has no other digit. -/
theorem digits_eq_of_head {n : Nat} {more : List Char} (hdigits : digits n = '0' :: more) :
    more = [] := by
  induction n using Nat.strongRecOn generalizing more with
  | ind n ih =>
    by_cases hsmall : n < 10
    · rw [digits, Nat.toDigits_of_lt_base hsmall] at hdigits
      exact (List.cons.inj hdigits).2.symm
    · -- The digits in front of the last one begin like the whole, and spell no zero.
      rw [digits, Nat.toDigits_of_base_le (by decide) (Nat.le_of_not_lt hsmall)] at hdigits
      obtain ⟨front, hfront⟩ : ∃ front, digits (n / 10) = '0' :: front := by
        cases hquotient : digits (n / 10) with
        | nil => exact absurd hquotient (digits_ne_nil _)
        | cons c front =>
          rw [digits] at hquotient
          rw [hquotient] at hdigits
          exact ⟨front, by rw [(List.cons.inj hdigits).1]⟩
      have hzero : n / 10 = 0 := by
        have hvalue := ofDigitChars_digits (n / 10)
        rw [hfront, ih (n / 10) (by omega) hfront] at hvalue
        exact hvalue.symm
      omega

/-- A digit is read back from its character. -/
theorem digitValue_digitChar (digit : Fin 10) : digitValue (Nat.digitChar digit.val) = digit := by
  revert digit
  decide

theorem isDigit_digitChar (digit : Fin 10) : (Nat.digitChar digit.val).isDigit = true := by
  revert digit
  decide

/-! ### What cannot continue a number -/

/-- The text does not begin with a digit. -/
def EndsDigits (rest : List Char) : Prop := ∀ c ∈ rest.head?, c.isDigit = false

/-- The text does not begin with anything that could continue a number. -/
def EndsNumber (rest : List Char) : Prop :=
  ∀ c ∈ rest.head?, c.isDigit = false ∧ c ≠ '.' ∧ c ≠ 'e' ∧ c ≠ 'E'

/-- What cannot continue a number cannot continue its digits. -/
theorem EndsNumber.endsDigits {rest : List Char} (hrest : EndsNumber rest) : EndsDigits rest :=
  fun c hc ↦ (hrest c hc).1

theorem endsDigits_cons {c : Char} (hc : c.isDigit = false) (rest : List Char) :
    EndsDigits (c :: rest) := by
  intro first hfirst
  cases hfirst
  exact hc

theorem endsNumber_nil : EndsNumber [] := nofun

theorem endsNumber_cons {c : Char}
    (hc : c.isDigit = false ∧ c ≠ '.' ∧ c ≠ 'e' ∧ c ≠ 'E') (rest : List Char) :
    EndsNumber (c :: rest) := by
  intro first hfirst
  cases hfirst
  exact hc

section Digits

variable {run rest : List Char} (hrun : ∀ c ∈ run, c.isDigit = true) (hrest : EndsDigits rest)

include hrun hrest

/-- Digits are taken up to what is none. -/
theorem takeWhile_isDigit_append : (run ++ rest).takeWhile Char.isDigit = run := by
  have hstop : rest.takeWhile Char.isDigit = [] := by
    cases rest with
    | nil => rfl
    | cons c more => rw [List.takeWhile_cons_of_neg (by simp [hrest c rfl])]
  rw [List.takeWhile_append_of_pos hrun, hstop, List.append_nil]

/-- What is left behind digits begins with none. -/
theorem dropWhile_isDigit_append : (run ++ rest).dropWhile Char.isDigit = rest := by
  rw [List.dropWhile_append_of_pos hrun]
  cases rest with
  | nil => rfl
  | cons c more => rw [List.dropWhile_cons_of_neg (by simp [hrest c rfl])]

end Digits

/-! ### The parts of a number -/

/-- The sign of a number. -/
def signCharacters (negative : Bool) : List Char := if negative then ['-'] else []

/-- The point of a number and the digits behind it. -/
def fractionCharacters (fraction : List (Fin 10)) : List Char :=
  if fraction.isEmpty then [] else '.' :: fraction.map fun digit ↦ Nat.digitChar digit.val

/-- The exponent of a number. -/
def exponentCharacters : Option Exponent → List Char
  | none => []
  | some exponent =>
    'e' :: (if exponent.negative then '-' else '+') :: digits exponent.magnitude

/-- A numeral is printed as its sign, its whole part, its fraction and its exponent, in this
order. -/
theorem print_eq (numeral : Numeral) :
    numeral.print =
      signCharacters numeral.negative ++ (digits numeral.whole ++
        (fractionCharacters numeral.fraction ++ exponentCharacters numeral.exponent)) := by
  rw [print, List.append_assoc, List.append_assoc]
  cases numeral.exponent <;> rfl

/-- A sign is read back, and its absence as well. -/
theorem readSign_append (negative : Bool) {c : Char} (hc : c ≠ '-') (rest : List Char) :
    readSign (signCharacters negative ++ c :: rest) = (negative, c :: rest) := by
  cases negative with
  | true => rfl
  | false => exact if_neg hc

/-- The whole part of a numeral is read back. -/
theorem readWhole_append (n : Nat) {rest : List Char} (hrest : EndsDigits rest) :
    readWhole (digits n ++ rest) = some (n, rest) := by
  have hdigits : ∀ c ∈ digits n, c.isDigit = true := fun _ ↦ isDigit_of_mem_digits
  have hvalue := ofDigitChars_digits n
  rw [readWhole, takeWhile_isDigit_append hdigits hrest, dropWhile_isDigit_append hdigits hrest]
  cases hn : digits n with
  | nil => exact absurd hn (digits_ne_nil n)
  | cons c more =>
    have hleading : ¬(c = '0' ∧ more ≠ []) := by
      rintro ⟨rfl, hmore⟩
      exact hmore (digits_eq_of_head hn)
    rw [hn] at hvalue
    simp only [if_neg hleading, hvalue]

/-- The fraction of a numeral is read back, and its absence as well. -/
theorem readFraction_append (fraction : List (Fin 10)) {rest : List Char}
    (hrest : ∀ c ∈ rest.head?, c.isDigit = false ∧ c ≠ '.') :
    readFraction (fractionCharacters fraction ++ rest) = some (fraction, rest) := by
  cases fraction with
  | nil =>
    cases rest with
    | nil => rfl
    | cons c more => exact if_neg (hrest c rfl).2
  | cons first others =>
    let run := (first :: others).map fun digit ↦ Nat.digitChar digit.val
    have hrun : ∀ c ∈ run, c.isDigit = true :=
      List.forall_mem_map.mpr fun digit _ ↦ isDigit_digitChar digit
    have hends : EndsDigits rest := fun c hc ↦ (hrest c hc).1
    have hvalues : run.map digitValue = first :: others := by
      have hid : (digitValue ∘ fun digit : Fin 10 ↦ Nat.digitChar digit.val) = id :=
        funext digitValue_digitChar
      rw [List.map_map, hid, List.map_id]
    show readFraction ('.' :: (run ++ rest)) = _
    rw [readFraction, if_pos rfl, takeWhile_isDigit_append hrun hends,
      dropWhile_isDigit_append hrun hends, ← hvalues]
    rfl

/-- The digits of an exponent are read back. -/
theorem readMagnitude_append (negative : Bool) (n : Nat) {rest : List Char}
    (hrest : EndsDigits rest) :
    readMagnitude negative (digits n ++ rest) = some (some ⟨negative, n⟩, rest) := by
  have hdigits : ∀ c ∈ digits n, c.isDigit = true := fun _ ↦ isDigit_of_mem_digits
  have hvalue := ofDigitChars_digits n
  rw [readMagnitude, takeWhile_isDigit_append hdigits hrest, dropWhile_isDigit_append hdigits hrest]
  cases hn : digits n with
  | nil => exact absurd hn (digits_ne_nil n)
  | cons c more =>
    rw [hn] at hvalue
    simp only [hvalue]

/-- The exponent of a numeral is read back, and its absence as well. -/
theorem readExponent_append (exponent : Option Exponent) {rest : List Char}
    (hrest : EndsNumber rest) :
    readExponent (exponentCharacters exponent ++ rest) = some (exponent, rest) := by
  cases exponent with
  | none =>
    cases rest with
    | nil => rfl
    | cons c more =>
      obtain ⟨-, -, hlower, hupper⟩ := hrest c rfl
      exact if_neg (not_or.mpr ⟨hlower, hupper⟩)
  | some exponent =>
    obtain ⟨negative, magnitude⟩ := exponent
    have hmagnitude := readMagnitude_append negative magnitude hrest.endsDigits
    cases negative <;> exact hmagnitude

/-- A number is read back, whatever stands behind it, unless this could continue it. -/
theorem read_print_append (numeral : Numeral) {rest : List Char} (hrest : EndsNumber rest) :
    read (numeral.print ++ rest) = some (numeral, rest) := by
  obtain ⟨negative, whole, fraction, exponent⟩ := numeral
  have hexponent : ∀ c ∈ (exponentCharacters exponent ++ rest).head?,
      c.isDigit = false ∧ c ≠ '.' := by
    cases exponent with
    | none => exact fun c hc ↦ ⟨(hrest c hc).1, (hrest c hc).2.1⟩
    | some exponent =>
      intro c hc
      cases hc
      decide
  have hfraction : EndsDigits
      (fractionCharacters fraction ++ (exponentCharacters exponent ++ rest)) := by
    cases fraction with
    | nil => exact fun c hc ↦ (hexponent c hc).1
    | cons first others => exact endsDigits_cons (by decide) _
  have hwhole := readWhole_append whole hfraction
  obtain ⟨c, more, hdigits⟩ := List.exists_cons_of_ne_nil (digits_ne_nil whole)
  have hsign : c ≠ '-' := by
    rintro rfl
    exact absurd (isDigit_of_mem_digits (hdigits ▸ List.mem_cons_self)) (by decide)
  have hread := readSign_append negative hsign
    (more ++ (fractionCharacters fraction ++ (exponentCharacters exponent ++ rest)))
  rw [← List.cons_append, ← hdigits] at hread
  rw [print_eq, read]
  simp only [List.append_assoc, hread, hwhole, readFraction_append fraction hexponent,
    readExponent_append exponent hrest, Option.bind_eq_bind, Option.bind_some]

/-- An integer is told from its numeral. -/
theorem toInt?_ofInt (n : Int) : (ofInt n).toInt? = some n := by
  cases n with
  | ofNat n => rfl
  | negSucc n =>
    have hspelled : ofInt (Int.negSucc n) = ⟨true, n + 1, [], none⟩ := by
      rw [ofInt, decide_eq_true (Int.negSucc_lt_zero n), Int.natAbs_negSucc]
    rw [hspelled, toInt?, if_neg (Nat.succ_ne_zero n)]
    rfl

end BoundSql.Numeral
