import BoundSql.Proofs.Documents.Numerals
import BoundSql.Proofs.Documents.Texts

/-!
# Reading documents back

What is written for a document is read as that document: `Json.read?_print`. No part of a document
begins with a blank, a number ends at the comma, bracket or brace behind it, and each part is
shorter than what it is a part of, so that the bound on the steps of the reader, which is taken
from the length of the text, is never reached.
-/

set_option autoImplicit false
set_option relaxedAutoImplicit false

namespace BoundSql

theorem Numeral.print_eq_cons (numeral : Numeral) :
    ∃ c more, numeral.print = c :: more ∧ (c = '-' ∨ c.isDigit = true) := by
  obtain ⟨c, more, hdigits⟩ := List.exists_cons_of_ne_nil (digits_ne_nil numeral.whole)
  have hc : c.isDigit = true := isDigit_of_mem_digits (hdigits ▸ List.mem_cons_self)
  rw [print_eq, hdigits]
  cases numeral.negative with
  | false => exact ⟨c, _, rfl, .inr hc⟩
  | true => exact ⟨'-', _, rfl, .inl rfl⟩

namespace Json

/-! ### The first character -/

theorem isBlank_of_isDigit {c : Char} (hc : c.isDigit = true) : isBlank c = false := by
  refine Bool.eq_false_iff.mpr fun hblank ↦ ?_
  simp only [isBlank, Bool.or_eq_true, decide_eq_true_eq] at hblank
  obtain ((rfl | rfl) | rfl) | rfl := hblank <;> exact absurd hc (by decide)

/-- A document does not begin with a blank, nor with a closing bracket. -/
theorem characters_eq_cons (document : Json) :
    ∃ c more, document.characters = c :: more ∧ isBlank c = false ∧ c ≠ ']' := by
  cases document with
  | null => exact ⟨'n', _, characters.eq_1, by decide⟩
  | bool flag =>
    cases flag with
    | true => exact ⟨'t', _, characters.eq_2, by decide⟩
    | false => exact ⟨'f', _, characters.eq_3, by decide⟩
  | number spelled =>
    obtain ⟨c, more, hprint, hc⟩ := spelled.print_eq_cons
    refine ⟨c, more, (characters.eq_4 spelled).trans hprint, ?_⟩
    obtain rfl | hdigit := hc
    · decide
    · refine ⟨isBlank_of_isDigit hdigit, ?_⟩
      rintro rfl
      exact absurd hdigit (by decide)
  | string text => exact ⟨'"', _, characters.eq_5 text, by decide⟩
  | array items => exact ⟨'[', _, characters.eq_6 items, by decide⟩
  | object members => exact ⟨'\x7b', _, characters.eq_7 members, by decide⟩

theorem skipBlanks_cons {c : Char} (hc : isBlank c = false) (rest : List Char) :
    skipBlanks (c :: rest) = c :: rest :=
  List.dropWhile_cons_of_neg (by rw [hc]; decide)

theorem readString_printString (text : String) (rest : List Char) :
    ∃ behind, printString text ++ rest = '"' :: behind ∧
      readString behind = some (text.toList, rest) :=
  ⟨text.toList.flatMap encodeChar ++ '"' :: rest,
    congrArg (List.cons '"') (List.append_assoc _ ['"'] rest), readString_printed text.toList rest⟩

/-! ### One step of the reader -/

section Steps

variable {steps : Nat} {s rest behind : List Char} {first : Json}

theorem readItems_last (hfirst : readValue steps s = some (first, ']' :: rest)) :
    readItems (steps + 1) s = some ([first], rest) := by
  rw [readItems, hfirst]
  rfl

theorem readItems_next {others : List Json}
    (hfirst : readValue steps s = some (first, ',' :: rest))
    (hothers : readItems steps rest = some (others, behind)) :
    readItems (steps + 1) s = some (first :: others, behind) := by
  rw [readItems, hfirst]
  show (readItems steps rest).map _ = _
  rw [hothers]
  rfl

variable (name : String)

theorem readMembers_last (hfirst : readValue steps s = some (first, '\x7d' :: rest)) :
    readMembers (steps + 1) (printString name ++ ':' :: s) = some ([(name, first)], rest) := by
  obtain ⟨inside, hquote, hname⟩ := readString_printString name (':' :: s)
  rw [hquote, readMembers, skipBlanks_cons (by decide)]
  simp only [if_pos, hname, skipBlanks_cons (show isBlank ':' = false by decide), hfirst,
    skipBlanks_cons (show isBlank '\x7d' = false by decide), String.ofList_toList,
    if_neg (show '\x7d' ≠ ',' by decide)]

theorem readMembers_next {others : List (String × Json)}
    (hfirst : readValue steps s = some (first, ',' :: rest))
    (hothers : readMembers steps rest = some (others, behind)) :
    readMembers (steps + 1) (printString name ++ ':' :: s) =
      some ((name, first) :: others, behind) := by
  obtain ⟨inside, hquote, hname⟩ := readString_printString name (':' :: s)
  rw [hquote, readMembers, skipBlanks_cons (by decide)]
  simp only [if_pos, hname, skipBlanks_cons (show isBlank ':' = false by decide), hfirst,
    skipBlanks_cons (show isBlank ',' = false by decide), String.ofList_toList, hothers,
    Option.map_some]

end Steps

/-! ### Whole documents -/

theorem length_characters_pos (document : Json) : 0 < document.characters.length := by
  obtain ⟨c, more, hdocument, -⟩ := document.characters_eq_cons
  rw [hdocument]
  exact Nat.succ_pos _

/-- The items of a list begin like the first one. -/
theorem itemsCharacters_eq_cons (first : Json) (others : List Json) (rest : List Char) :
    ∃ c more, itemsCharacters (first :: others) ++ rest = c :: more ∧
      isBlank c = false ∧ c ≠ ']' := by
  obtain ⟨c, more, hfirst, hc⟩ := first.characters_eq_cons
  cases others with
  | nil => exact ⟨c, more ++ rest, by rw [itemsCharacters, hfirst, List.cons_append], hc⟩
  | cons second others =>
    exact ⟨c, _, by rw [itemsCharacters, hfirst, List.cons_append, List.cons_append], hc⟩

/-- The members of an object begin with a name. -/
theorem membersCharacters_eq_cons (first : String × Json) (others : List (String × Json))
    (rest : List Char) : ∃ more, membersCharacters (first :: others) ++ rest = '"' :: more := by
  cases others with
  | nil => exact ⟨_, rfl⟩
  | cons second others => exact ⟨_, rfl⟩

theorem readValue_array {steps : Nat} {first : Json} {others : List Json} {rest : List Char}
    (hitems : readItems steps (itemsCharacters (first :: others) ++ ']' :: rest) =
      some (first :: others, rest)) :
    readValue (steps + 1) ((array (first :: others)).characters ++ rest) =
      some (array (first :: others), rest) := by
  obtain ⟨c, more, hcons, hblank, hbracket⟩ := itemsCharacters_eq_cons first others (']' :: rest)
  rw [characters, List.cons_append, List.cons_append, List.append_assoc, List.singleton_append,
    readValue, skipBlanks_cons (by decide)]
  rw [hcons] at hitems ⊢
  simp only [if_neg (show '[' ≠ '"' by decide), if_pos, skipBlanks_cons hblank, if_neg hbracket,
    hitems, Option.map_some]

theorem readValue_object {steps : Nat} {first : String × Json} {others : List (String × Json)}
    {rest : List Char}
    (hmembers : readMembers steps (membersCharacters (first :: others) ++ '\x7d' :: rest) =
      some (first :: others, rest)) :
    readValue (steps + 1) ((object (first :: others)).characters ++ rest) =
      some (object (first :: others), rest) := by
  obtain ⟨more, hcons⟩ := membersCharacters_eq_cons first others ('\x7d' :: rest)
  rw [characters, List.cons_append, List.cons_append, List.append_assoc, List.singleton_append,
    readValue, skipBlanks_cons (by decide)]
  rw [hcons] at hmembers ⊢
  simp only [if_neg (show '\x7b' ≠ '"' by decide), if_neg (show '\x7b' ≠ '[' by decide), if_pos,
    skipBlanks_cons (show isBlank '"' = false by decide),
    if_neg (show '"' ≠ '\x7d' by decide), hmembers, Option.map_some]

theorem readValue_number (spelled : Numeral) (steps : Nat) {rest : List Char}
    (hrest : Numeral.EndsNumber rest) :
    readValue (steps + 1) (spelled.print ++ rest) = some (number spelled, rest) := by
  have hread := Numeral.read_print_append spelled hrest
  obtain ⟨c, more, hprint, hc⟩ := spelled.print_eq_cons
  rw [hprint, List.cons_append] at hread ⊢
  obtain ⟨hblank, hquote, hbracket, hbrace, hnull, htrue, hfalse⟩ : isBlank c = false ∧
      c ≠ '"' ∧ c ≠ '[' ∧ c ≠ '\x7b' ∧ c ≠ 'n' ∧ c ≠ 't' ∧ c ≠ 'f' := by
    obtain rfl | hdigit := hc
    · decide
    · refine ⟨isBlank_of_isDigit hdigit, ?_, ?_, ?_, ?_, ?_, ?_⟩ <;> rintro rfl <;>
        exact absurd hdigit (by decide)
  rw [readValue, skipBlanks_cons hblank]
  simp only [if_neg hquote, if_neg hbracket, if_neg hbrace, if_neg hnull, if_neg htrue,
    if_neg hfalse, hread, Option.map_some]

mutual

/-- A document is read back, whatever stands behind it, unless this could continue a number. -/
theorem readValue_characters (document : Json) {steps : Nat}
    (hsteps : document.characters.length ≤ steps) {rest : List Char}
    (hrest : Numeral.EndsNumber rest) :
    readValue steps (document.characters ++ rest) = some (document, rest) := by
  obtain ⟨steps, rfl⟩ := Nat.exists_eq_add_one_of_ne_zero
    (Nat.ne_of_gt (Nat.lt_of_lt_of_le document.length_characters_pos hsteps))
  cases document with
  | null => rfl
  | bool flag => cases flag <;> rfl
  | number spelled => exact readValue_number spelled steps hrest
  | string text =>
    obtain ⟨inside, hquote, htext⟩ := readString_printString text rest
    rw [characters, hquote, readValue, skipBlanks_cons (by decide)]
    simp only [if_pos, htext, Option.map_some, String.ofList_toList]
  | array items =>
    cases items with
    | nil => rfl
    | cons first others =>
      rw [characters, List.length_append, List.length_cons, List.length_singleton] at hsteps
      exact readValue_array
        (readItems_characters (first :: others) (List.cons_ne_nil _ _) (by omega) rest)
  | object members =>
    cases members with
    | nil => rfl
    | cons first others =>
      rw [characters, List.length_append, List.length_cons, List.length_singleton] at hsteps
      exact readValue_object
        (readMembers_characters (first :: others) (List.cons_ne_nil _ _) (by omega) rest)

/-- The items of a list are read back up to the closing bracket. -/
theorem readItems_characters (items : List Json) (hitems : items ≠ []) {steps : Nat}
    (hsteps : (itemsCharacters items).length < steps) (rest : List Char) :
    readItems steps (itemsCharacters items ++ ']' :: rest) = some (items, rest) := by
  obtain ⟨steps, rfl⟩ := Nat.exists_eq_add_one_of_ne_zero (Nat.ne_of_gt (Nat.zero_lt_of_lt hsteps))
  match items with
  | [] => exact absurd rfl hitems
  | [first] =>
    exact readItems_last (readValue_characters first (Nat.le_of_lt_succ hsteps)
      (Numeral.endsNumber_cons (by decide) rest))
  | first :: second :: others =>
    rw [itemsCharacters, List.length_append, List.length_cons] at hsteps
    have hpos := first.length_characters_pos
    rw [itemsCharacters, List.append_assoc]
    exact readItems_next
      (readValue_characters first (by omega) (Numeral.endsNumber_cons (by decide) _))
      (readItems_characters (second :: others) (List.cons_ne_nil _ _) (by omega) rest)

/-- The members of an object are read back up to the closing brace. -/
theorem readMembers_characters (members : List (String × Json)) (hmembers : members ≠ [])
    {steps : Nat} (hsteps : (membersCharacters members).length < steps) (rest : List Char) :
    readMembers steps (membersCharacters members ++ '\x7d' :: rest) = some (members, rest) := by
  obtain ⟨steps, rfl⟩ := Nat.exists_eq_add_one_of_ne_zero (Nat.ne_of_gt (Nat.zero_lt_of_lt hsteps))
  match members with
  | [] => exact absurd rfl hmembers
  | [(name, first)] =>
    rw [membersCharacters, List.length_append, List.length_cons] at hsteps
    rw [membersCharacters, List.append_assoc, List.cons_append]
    exact readMembers_last name
      (readValue_characters first (by omega) (Numeral.endsNumber_cons (by decide) rest))
  | (name, first) :: second :: others =>
    rw [membersCharacters, List.length_append, List.length_append, List.length_cons,
      List.length_cons] at hsteps
    rw [membersCharacters, List.append_assoc, List.append_assoc, List.cons_append]
    exact readMembers_next name
      (readValue_characters first (by omega) (Numeral.endsNumber_cons (by decide) _))
      (readMembers_characters (second :: others) (List.cons_ne_nil _ _) (by omega) rest)

end

/-- An integer of 64 bits is told from its document. -/
theorem int64?_number_ofInt (n : Int64) : (number (.ofInt n.toInt)).int64? = some n := by
  have hrange : Int64.minValue.toInt ≤ n.toInt ∧ n.toInt ≤ Int64.maxValue.toInt :=
    ⟨Int64.minValue_le_toInt n, Int64.toInt_le n⟩
  rw [int64?, int?, Numeral.toInt?_ofInt, Option.bind_some, if_pos hrange, Int64.ofInt_toInt]

/-- The text of a document is read as that document. -/
theorem read?_print (document : Json) : read? document.print = some document := by
  have hsteps : document.characters.length ≤ 2 * document.characters.length + 1 := by omega
  have hread := readValue_characters document hsteps Numeral.endsNumber_nil
  rw [List.append_nil] at hread
  rw [read?, print, String.toList_ofList, hread]
  exact if_pos rfl

end Json

end BoundSql
