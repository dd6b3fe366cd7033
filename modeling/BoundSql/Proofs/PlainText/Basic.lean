import BoundSql.Tree.Layout

/-!
# Plain text

All that is written outside of quotes and placeholders is plain: ASCII letters, digits, blanks and
a few marks of punctuation, never a quote, a question mark or a dollar sign, and never a digit in
front. The one exception is the spelling of the operator `%`. Bare words and the bounds of a SELECT
are the only plain texts that are not fixed in advance.
-/

set_option autoImplicit false
set_option relaxedAutoImplicit false

namespace BoundSql

/-! ### Characters -/

namespace Text

/-- The marks among the plain characters. -/
def plainMarks : List Char :=
  ['_', ' ', '(', ')', '[', ']', ',', '.', '=', '!', '<', '>', '+', '-', '*', '/', '|']

/-- The characters that are written outside of quotes. -/
def isPlain (c : Char) : Bool := c.isAlphanum || plainMarks.contains c

/-- Tells whether all characters are plain and the first one, if there is one, is not a digit. -/
def isPlainText (characters : List Char) : Bool :=
  characters.all isPlain && !characters.head?.any Char.isDigit

/-- The characters of words are plain. -/
theorem isPlain_of_isWordPart {c : Char} (hc : isWordPart c = true) : isPlain c = true := by
  simp only [isWordPart, Bool.or_eq_true, decide_eq_true_eq] at hc
  rcases hc with halphanum | rfl
  · simp [isPlain, halphanum]
  · decide

theorem isWordPart_of_isWordStart {c : Char} (hc : isWordStart c = true) :
    isWordPart c = true := by
  simp only [isWordStart, Bool.or_eq_true, decide_eq_true_eq] at hc
  rcases hc with halpha | rfl
  · simp [isWordPart, Char.isAlphanum, halpha]
  · decide

theorem isPlain_of_isWordStart {c : Char} (hc : isWordStart c = true) : isPlain c = true :=
  isPlain_of_isWordPart (isWordPart_of_isWordStart hc)

theorem isPlain_of_isDigit {c : Char} (hc : c.isDigit = true) : isPlain c = true := by
  simp [isPlain, Char.isAlphanum, hc]

theorem isDigit_eq_false_of_isWordStart {c : Char} (hc : isWordStart c = true) :
    c.isDigit = false := by
  simp only [isWordStart, Bool.or_eq_true, decide_eq_true_eq] at hc
  rcases hc with halpha | rfl
  · unfold Char.isAlpha Char.isUpper Char.isLower at halpha
    unfold Char.isDigit
    grind
  · decide

/-- Wherever a reader of function names is, what it accepts is plain. -/
theorem FunctionPosition.all_isPlain_of_accepts (position : FunctionPosition)
    (characters : List Char) (haccepts : position.accepts characters = true) :
    characters.all isPlain = true := by
  fun_induction accepts position characters <;>
    simp_all +decide [isPlain_of_isWordStart, isPlain_of_isWordPart]

/-- Wherever a reader of type names is, what it accepts is plain. -/
theorem TypePosition.all_isPlain_of_accepts (position : TypePosition)
    (characters : List Char) (haccepts : position.accepts characters = true) :
    characters.all isPlain = true := by
  fun_induction accepts position characters <;>
    simp_all +decide [isPlain_of_isWordStart, isPlain_of_isWordPart, isPlain_of_isDigit]

/-- Function names are plain. -/
theorem isPlainText_of_isFunctionName {characters : List Char}
    (hname : isFunctionName characters = true) : isPlainText characters = true := by
  have hplain := FunctionPosition.all_isPlain_of_accepts .start characters hname
  cases characters with
  | nil => rfl
  | cons first rest =>
    simp only [isFunctionName, FunctionPosition.accepts, Bool.and_eq_true] at hname
    simp [isPlainText, isDigit_eq_false_of_isWordStart hname.1, hplain]

/-- Plain texts in a row are plain. -/
theorem isPlainText_append {first second : List Char} (hfirst : isPlainText first = true)
    (hsecond : isPlainText second = true) : isPlainText (first ++ second) = true := by
  cases first with
  | nil => exact hsecond
  | cons c rest => simp_all [isPlainText]

/-- Behind a plain text may stand any plain characters, digits among them. -/
theorem isPlainText_append_of_ne_nil {first later : List Char}
    (hfirst : isPlainText first = true) (hne : first ≠ []) (hlater : later.all isPlain = true) :
    isPlainText (first ++ later) = true := by
  cases first with
  | nil => exact absurd rfl hne
  | cons c rest => simp_all [isPlainText]

theorem isDigit_of_mem_toString {number : Nat} {c : Char} (hc : c ∈ (toString number).toList) :
    c.isDigit = true := by
  rw [Nat.toString_eq_repr, Nat.toList_repr] at hc
  exact Nat.isDigit_of_mem_toDigits (by decide) (by decide) hc

/-- A number is written in plain characters. -/
theorem all_isPlain_toString (number : Nat) : (toString number).toList.all isPlain = true := by
  rw [List.all_eq_true]
  intro c hc
  exact isPlain_of_isDigit (isDigit_of_mem_toString hc)

/-- An integer is written in plain characters, its sign included. -/
theorem all_isPlain_toString_int64 (number : Int64) :
    (toString number).toList.all isPlain = true := by
  change (toString number.toInt).toList.all isPlain = true
  rw [Int.toString_eq_repr, Int.repr_eq_if]
  split
  · exact all_isPlain_toString number.toInt.toNat
  · rw [String.toList_append, List.all_append, Bool.and_eq_true]
    exact ⟨by decide, all_isPlain_toString (-number.toInt).toNat⟩

end Text

namespace Dialect

/-- Tells whether a text may be written outside of quotes: it is plain, or it is the spelling of the
operator `%` between two blanks. -/
def Writes (d : Dialect) (characters : String) : Prop :=
  Text.isPlainText characters.toList = true ∨ characters = " " ++ d.operator .mod ++ " "

variable {d : Dialect}

/-- A type name closes a cast. -/
theorem writes_typeSuffix {typeName : String} (htype : BareWord.type.error? typeName = none) :
    d.Writes (" AS " ++ typeName ++ ")") := by
  have hallows : BareWord.type.allows typeName = true := by
    simpa [BareWord.error?] using htype
  have hplain : typeName.toList.all Text.isPlain = true :=
    Text.TypePosition.all_isPlain_of_accepts .start typeName.toList hallows
  refine .inl ?_
  rw [String.append_assoc, String.toList_append]
  refine Text.isPlainText_append_of_ne_nil (by decide) (by decide) ?_
  rw [String.toList_append, List.all_append, hplain]
  decide

/-- Every operator may be written, the one with a percent sign included. -/
theorem writes_operator (op : BinaryOp) : d.Writes (" " ++ d.operator op ++ " ") := by
  by_cases hmod : op = .mod
  · rw [hmod]
    exact .inr rfl
  · refine .inl ?_
    rw [operator, if_neg fun h ↦ hmod h.1]
    cases op <;> first | contradiction | decide

/-- A keyword with a number behind it is plain. -/
theorem isPlainText_counted {keyword number : String}
    (hkeyword : Text.isPlainText keyword.toList = true) (hne : keyword.toList ≠ [])
    (hnumber : number.toList.all Text.isPlain = true) :
    Text.isPlainText (keyword ++ number).toList = true := by
  rw [String.toList_append]
  exact Text.isPlainText_append_of_ne_nil hkeyword hne hnumber

/-- The bounds of a SELECT are plain text. -/
theorem isPlainText_bounds (limit offset : Option Nat) :
    Text.isPlainText (d.bounds limit offset).toList = true := by
  have hcount := Text.all_isPlain_toString
  have hmost := Text.all_isPlain_toString_int64
  unfold bounds
  cases d.paging with
  | limit =>
    simp only
    rw [String.toList_append]
    refine Text.isPlainText_append ?_ ?_
    · split
      · exact isPlainText_counted (by decide) (by decide) (hcount _)
      · exact isPlainText_counted (by decide) (by decide) (hmost _)
      · decide
    · split
      · exact isPlainText_counted (by decide) (by decide) (hcount _)
      · decide
  | fetch =>
    have hunit (keyword unit : String) (number : Nat)
        (hkeyword : Text.isPlainText keyword.toList = true) (hne : keyword.toList ≠ [])
        (hunit : unit.toList.all Text.isPlain = true) :
        Text.isPlainText (keyword ++ toString number ++ unit).toList = true := by
      rw [String.append_assoc]
      refine isPlainText_counted hkeyword hne ?_
      rw [String.toList_append, List.all_append, hcount number, hunit, Bool.true_and]
    simp only
    rw [String.toList_append]
    refine Text.isPlainText_append ?_ ?_
    · split
      · exact hunit _ _ _ (by decide) (by decide) (by decide)
      · decide
    · split
      · exact hunit _ _ _ (by decide) (by decide) (by decide)
      · decide

end Dialect

end BoundSql
