import BoundSql.Proofs.Recovery.Symbols

/-!
# Texts in front of symbols

What a reader can find in front of a run of symbols: an expected text (`Symbol.expect`), a bare word
(`Symbol.splitWord`) and the type of a cast (`Symbol.splitType`). An expected text is found where it
stands, and not where a text stands that diverges from it; a word ends where no wordlike character
follows, and a type ends at the parenthesis that closes the cast.
-/

set_option autoImplicit false
set_option relaxedAutoImplicit false

namespace BoundSql

namespace Symbol

/-! ### Expected texts -/

/-- The symbols behind the expected characters, if the input begins with them. -/
def behind : List Char → List Symbol → Option (List Symbol)
  | [], input => some input
  | c :: expected, character first :: input => if first = c then behind expected input else none
  | _ :: _, _ => none

/-- The symbols behind an expected text, if the input begins with it. -/
def expect (characters : String) (input : List Symbol) : Option (List Symbol) :=
  behind characters.toList input

theorem eq_of_behind_eq_some {expected : List Char} {input rest : List Symbol}
    (hbehind : behind expected input = some rest) : input = expected.map character ++ rest := by
  induction expected generalizing input with
  | nil => exact Option.some.inj hbehind
  | cons c later ih =>
    cases input with
    | nil => cases hbehind
    | cons symbol input =>
      cases symbol with
      | character first =>
        simp only [behind] at hbehind
        split at hbehind
        · rename_i hfirst
          rw [hfirst, ih hbehind]
          rfl
        · cases hbehind
      | value bound => cases hbehind
      | quoted name => cases hbehind

theorem eq_of_expect_eq_some {characters : String} {input rest : List Symbol}
    (hexpect : expect characters input = some rest) : input = chars characters ++ rest :=
  eq_of_behind_eq_some hexpect

theorem behind_map_append (expected : List Char) (rest : List Symbol) :
    behind expected (expected.map character ++ rest) = some rest := by
  induction expected with
  | nil => rfl
  | cons c later ih => simpa [behind] using ih

/-- An expected text is found where it stands. -/
@[simp]
theorem expect_chars_append (characters : String) (rest : List Symbol) :
    expect characters (chars characters ++ rest) = some rest :=
  behind_map_append characters.toList rest

/-- Two texts of which neither is the beginning of the other. -/
def Diverge (first second : String) : Prop :=
  ¬ first.toList <+: second.toList ∧ ¬ second.toList <+: first.toList

instance (first second : String) : Decidable (Diverge first second) :=
  inferInstanceAs (Decidable (_ ∧ _))

/-- A text is not found where another one stands. -/
theorem expect_chars_append_eq_none (expected characters : String) (rest : List Symbol)
    (hdiverge : Diverge expected characters) :
    expect expected (chars characters ++ rest) = none := by
  cases hexpect : expect expected (chars characters ++ rest) with
  | none => rfl
  | some later =>
    have hsame := eq_of_expect_eq_some hexpect
    have hfirst : chars expected <+: chars characters ++ rest := ⟨later, hsame.symm⟩
    have hsecond : chars characters <+: chars characters ++ rest := List.prefix_append _ _
    have hinjective : Function.Injective character := fun _ _ h ↦ character.inj h
    rcases List.prefix_or_prefix_of_prefix hfirst hsecond with hbegins | hbegins
    · exact absurd ((List.prefix_map_iff_of_injective hinjective).mp hbegins) hdiverge.1
    · exact absurd ((List.prefix_map_iff_of_injective hinjective).mp hbegins) hdiverge.2

/-! ### Words and types -/

/-- Tells whether a character can stand in a bare word: the parts of a function name are joined by
dots. -/
def isWordlike (c : Char) : Bool := Text.isWordPart c || c = '.'

/-- The bare word in front and the symbols behind it. -/
def splitWord : List Symbol → List Char × List Symbol
  | character c :: rest =>
    if isWordlike c then (c :: (splitWord rest).1, (splitWord rest).2)
    else ([], character c :: rest)
  | rest => ([], rest)

/-- Tells whether a parenthesis of the type is open behind one more character. -/
def opensType (inside : Bool) (c : Char) : Bool := c = '(' || (inside && c ≠ ')')

/-- The type in front of the parenthesis that closes a cast, and the symbols behind that
parenthesis. `inside` tells whether a parenthesis of the type itself is open. -/
def splitType : Bool → List Symbol → Option (List Char × List Symbol)
  | inside, character c :: rest =>
    if c = ')' ∧ inside = false then some ([], rest)
    else
      match splitType (opensType inside c) rest with
      | some (later, rest) => some (c :: later, rest)
      | none => none
  | _, _ => none

theorem splitWord_append {word : List Char} (hword : word.all isWordlike = true)
    {rest : List Symbol} (hrest : splitWord rest = ([], rest)) :
    splitWord (word.map character ++ rest) = (word, rest) := by
  induction word with
  | nil => exact hrest
  | cons c later ih =>
    rw [List.all_cons, Bool.and_eq_true] at hword
    simp [splitWord, hword.1, ih hword.2]

end Symbol

namespace Text

/-- Tells whether a parenthesis of the type is open at a position. -/
def TypePosition.inside : TypePosition → Bool
  | .opened | .precision | .comma | .blank | .scale => true
  | .start | .word | .closed | .bracket => false

theorem ne_parenthesis_of_isWordPart {c : Char} (hc : isWordPart c = true) : c ≠ '(' ∧ c ≠ ')' := by
  constructor <;> rintro rfl <;> revert hc <;> decide

theorem ne_parenthesis_of_isDigit {c : Char} (hc : c.isDigit = true) : c ≠ '(' ∧ c ≠ ')' := by
  constructor <;> rintro rfl <;> revert hc <;> decide

/-- A character of a type opens and closes its parenthesis, and no other one. -/
theorem TypePosition.exists_accepts_of_cons {position : TypePosition} {c : Char} {rest : List Char}
    (haccepts : position.accepts (c :: rest) = true) :
    ∃ next : TypePosition, next.accepts rest = true ∧
      ¬ (c = ')' ∧ position.inside = false) ∧
        next.inside = Symbol.opensType position.inside c := by
  have hpart := @ne_parenthesis_of_isWordPart c
  have hdigit := @ne_parenthesis_of_isDigit c
  have hstart := @isWordPart_of_isWordStart c
  -- Of all characters that may come next, only the parentheses change what is open.
  have hother {next : TypePosition} (hnext : next.accepts rest = true)
      (hsame : next.inside = position.inside) (hc : c ≠ '(' ∧ c ≠ ')') :
      ∃ next : TypePosition, next.accepts rest = true ∧ ¬ (c = ')' ∧ position.inside = false) ∧
        next.inside = Symbol.opensType position.inside c :=
    ⟨next, hnext, fun h ↦ hc.2 h.1, by simp [Symbol.opensType, hc, hsame]⟩
  cases position with
  | start =>
    simp only [accepts, Bool.and_eq_true] at haccepts
    exact hother haccepts.2 rfl (hpart (hstart haccepts.1))
  | word =>
    simp only [accepts] at haccepts
    split_ifs at haccepts with hblank hopen hbracket
    · exact hother haccepts rfl (by simp [hblank])
    · exact ⟨.opened, haccepts, by simp [hopen], by simp [Symbol.opensType, hopen, inside]⟩
    · exact hother haccepts rfl (by simp [hbracket])
    · rw [Bool.and_eq_true] at haccepts
      exact hother haccepts.2 rfl (hpart haccepts.1)
  | opened =>
    simp only [accepts, Bool.and_eq_true] at haccepts
    exact hother haccepts.2 rfl (hdigit haccepts.1)
  | precision =>
    simp only [accepts] at haccepts
    split_ifs at haccepts with hcomma hclose
    · exact hother haccepts rfl (by simp [hcomma])
    · exact ⟨.closed, haccepts, by simp [inside], by simp [Symbol.opensType, hclose, inside]⟩
    · rw [Bool.and_eq_true] at haccepts
      exact hother haccepts.2 rfl (hdigit haccepts.1)
  | comma =>
    simp only [accepts] at haccepts
    split_ifs at haccepts with hblank
    · exact hother haccepts rfl (by simp [hblank])
    · rw [Bool.and_eq_true] at haccepts
      exact hother haccepts.2 rfl (hdigit haccepts.1)
  | blank =>
    simp only [accepts, Bool.and_eq_true] at haccepts
    exact hother haccepts.2 rfl (hdigit haccepts.1)
  | scale =>
    simp only [accepts] at haccepts
    split_ifs at haccepts with hclose
    · exact ⟨.closed, haccepts, by simp [inside], by simp [Symbol.opensType, hclose, inside]⟩
    · rw [Bool.and_eq_true] at haccepts
      exact hother haccepts.2 rfl (hdigit haccepts.1)
  | closed =>
    simp only [accepts, Bool.and_eq_true, decide_eq_true_eq] at haccepts
    exact hother haccepts.2 rfl (by simp [haccepts.1])
  | bracket =>
    simp only [accepts, Bool.and_eq_true, decide_eq_true_eq] at haccepts
    exact hother haccepts.2 rfl (by simp [haccepts.1])

end Text

namespace Symbol

/-- The type of a cast ends where the cast is closed. -/
theorem splitType_append {position : Text.TypePosition} {type : List Char}
    (haccepts : position.accepts type = true) (rest : List Symbol) :
    splitType position.inside (type.map character ++ character ')' :: rest) =
      some (type, rest) := by
  induction type generalizing position with
  | nil => cases position <;> first | rfl | cases haccepts
  | cons c later ih =>
    obtain ⟨next, hnext, hopen, hinside⟩ := Text.TypePosition.exists_accepts_of_cons haccepts
    have hlater := ih hnext
    rw [hinside] at hlater
    simp [splitType, hopen, hlater]

end Symbol

/-! ### Words that are allowed -/

open BoundSql.Symbol

/-- Function names are made of wordlike characters. -/
theorem Text.FunctionPosition.all_isWordlike_of_accepts {position : FunctionPosition}
    {characters : List Char} (haccepts : position.accepts characters = true) :
    characters.all isWordlike = true := by
  induction characters generalizing position with
  | nil => rfl
  | cons c rest ih =>
    have hstart := @isWordPart_of_isWordStart c
    cases position with
    | start =>
      simp only [accepts, Bool.and_eq_true] at haccepts
      simp [isWordlike, hstart haccepts.1, ih haccepts.2]
    | first =>
      simp only [accepts] at haccepts
      split_ifs at haccepts with hdot
      · simp [isWordlike, hdot, ih haccepts]
      · rw [Bool.and_eq_true] at haccepts
        simp [isWordlike, haccepts.1, ih haccepts.2]
    | dot =>
      simp only [accepts, Bool.and_eq_true] at haccepts
      simp [isWordlike, hstart haccepts.1, ih haccepts.2]
    | second =>
      simp only [accepts, Bool.and_eq_true] at haccepts
      simp [isWordlike, haccepts.1, ih haccepts.2]

theorem BareWord.wordlike_of_allows_function {word : String}
    (hword : BareWord.function.allows word = true) :
    word.toList ≠ [] ∧ word.toList.all isWordlike = true := by
  refine ⟨fun hnil ↦ ?_, Text.FunctionPosition.all_isWordlike_of_accepts hword⟩
  rw [BareWord.allows, hnil] at hword
  cases hword

end BoundSql
