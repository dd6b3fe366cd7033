import BoundSql.Proofs.PlainText.Basic
import Mathlib.Data.List.Chain

/-!
# Texts that keep to themselves

A text that is put between other texts must not change what these mean. `Text.Leads` says that a
text goes from one depth of parentheses to another without closing one that it did not open, that it
has no character and no pair of neighbours that would end a statement, open a string or open a
comment, and that it does not leave a character behind that could do so together with the next one.
Such texts can be put together freely (`Text.Leads.append`), and what they make up is `Text.Safe`.
-/

set_option autoImplicit false
set_option relaxedAutoImplicit false

namespace BoundSql

namespace Text

/-! ### Parentheses -/

/-- How many parentheses are open behind a text when so many are open in front of it, unless the
text closes one that is not open. -/
def nest : Nat → List Char → Option Nat
  | depth, [] => some depth
  | depth, c :: rest =>
    if c = '(' then nest (depth + 1) rest
    else if c = ')' then if depth = 0 then none else nest (depth - 1) rest
    else nest depth rest

theorem nest_append (depth : Nat) (first second : List Char) :
    nest depth (first ++ second) = (nest depth first).bind fun middle ↦ nest middle second := by
  induction first generalizing depth with
  | nil => rfl
  | cons c rest ih =>
    rw [List.cons_append, nest, nest]
    split
    · exact ih (depth + 1)
    · split
      · split
        · rfl
        · exact ih (depth - 1)
      · exact ih depth

/-- A text does the same inside of further parentheses. -/
theorem nest_add {depth after : Nat} {characters : List Char}
    (hnest : nest depth characters = some after) (more : Nat) :
    nest (depth + more) characters = some (after + more) := by
  induction characters generalizing depth with
  | nil =>
    cases hnest
    rfl
  | cons c rest ih =>
    rw [nest] at hnest ⊢
    split at hnest
    · rename_i hopen
      rw [if_pos hopen, Nat.add_right_comm]
      exact ih hnest
    · rename_i hopen
      rw [if_neg hopen]
      split at hnest
      · rename_i hclose
        rw [if_pos hclose]
        split at hnest
        · cases hnest
        · rename_i hdepth
          have hpositive : depth + more ≠ 0 := by omega
          rw [if_neg hpositive, Nat.sub_add_comm (Nat.one_le_iff_ne_zero.mpr hdepth)]
          exact ih hnest
      · rename_i hclose
        rw [if_neg hclose]
        exact ih hnest

/-- The depth counts the opening parentheses against the closing ones. -/
theorem count_of_nest {depth after : Nat} {characters : List Char}
    (hnest : nest depth characters = some after) :
    after + characters.count ')' = depth + characters.count '(' := by
  induction characters generalizing depth with
  | nil =>
    cases hnest
    rfl
  | cons c rest ih =>
    rw [nest] at hnest
    by_cases hopen : c = '('
    · subst hopen
      have hrest := ih hnest
      rw [List.count_cons_self, List.count_cons_of_ne (by decide)]
      omega
    · rw [if_neg hopen] at hnest
      by_cases hclose : c = ')'
      · subst hclose
        rw [if_pos rfl] at hnest
        split at hnest
        · cases hnest
        · have hrest := ih hnest
          rw [List.count_cons_self, List.count_cons_of_ne (by decide)]
          omega
      · rw [if_neg hclose] at hnest
        have hrest := ih hnest
        rw [List.count_cons_of_ne hopen, List.count_cons_of_ne hclose]
        exact hrest

/-! ### Texts that lead from one depth to another -/

/-- Two characters that may stand next to each other: they do not open a comment. -/
def Apart (first second : Char) : Prop :=
  ¬ (first = '-' ∧ second = '-') ∧ ¬ (first = '/' ∧ second = '*')

instance (first second : Char) : Decidable (Apart first second) :=
  inferInstanceAs (Decidable (_ ∧ _))

/-- The text leads from one depth of parentheses to another, holds nothing that would end a
statement or open a string or a comment, and does not end as a comment could begin. -/
structure Leads (before after : Nat) (characters : List Char) : Prop where
  nest_eq : nest before characters = some after
  harmless : ∀ c ∈ characters, c ≠ ';' ∧ c ≠ '\'' ∧ c ≠ '\x00'
  apart : characters.IsChain Apart
  complete : ∀ c ∈ characters.getLast?, c ≠ '-' ∧ c ≠ '/'

instance (before after : Nat) (characters : List Char) :
    Decidable (Leads before after characters) :=
  decidable_of_iff
    (nest before characters = some after ∧
      characters.all (fun c ↦ c ≠ ';' ∧ c ≠ '\'' ∧ c ≠ '\x00') = true ∧
      characters.IsChain Apart ∧
      characters.getLast?.all (fun c ↦ c ≠ '-' ∧ c ≠ '/') = true)
    ⟨fun h ↦ ⟨h.1, by simpa using h.2.1, h.2.2.1, by simpa [Option.all_eq_true] using h.2.2.2⟩,
      fun h ↦ ⟨h.nest_eq, by simpa using h.harmless, h.apart,
        by simpa [Option.all_eq_true] using h.complete⟩⟩

theorem leads_nil (depth : Nat) : Leads depth depth [] := by
  constructor <;> simp [nest]

namespace Leads

variable {before middle after : Nat} {first second characters : List Char}

theorem append (hfirst : Leads before middle first) (hsecond : Leads middle after second) :
    Leads before after (first ++ second) := by
  constructor
  · rw [nest_append, hfirst.nest_eq]
    exact hsecond.nest_eq
  · intro c hc
    rcases List.mem_append.mp hc with hc | hc
    · exact hfirst.harmless c hc
    · exact hsecond.harmless c hc
  · -- The first text does not end as a comment could begin, so nothing happens in between.
    refine List.isChain_append.mpr ⟨hfirst.apart, hsecond.apart, ?_⟩
    intro last hlast next _
    obtain ⟨hminus, hslash⟩ := hfirst.complete last hlast
    exact ⟨fun h ↦ hminus h.1, fun h ↦ hslash h.1⟩
  · intro c hc
    rw [List.getLast?_append] at hc
    cases hlast : second.getLast? with
    | none =>
      rw [hlast] at hc
      exact hfirst.complete c hc
    | some last =>
      rw [hlast] at hc
      exact hsecond.complete c (hlast.trans hc)

/-- Further parentheses around the text change nothing. -/
theorem lift (hleads : Leads before after characters) (more : Nat) :
    Leads (before + more) (after + more) characters :=
  ⟨nest_add hleads.nest_eq more, hleads.harmless, hleads.apart, hleads.complete⟩

end Leads

/-! ### Safe texts -/

/-- The text has balanced parentheses, none of which is closed before it is opened, and nothing in
it ends a statement or opens a string or a comment. -/
structure Safe (characters : List Char) : Prop where
  closed_le_opened : ∀ beginning, beginning <+: characters →
    beginning.count ')' ≤ beginning.count '('
  closed_eq_opened : characters.count ')' = characters.count '('
  no_semicolon : ';' ∉ characters
  no_apostrophe : '\'' ∉ characters
  no_nul : '\x00' ∉ characters
  no_line_comment : ¬ ['-', '-'] <:+: characters
  no_block_comment : ¬ ['/', '*'] <:+: characters

/-- A text that leads from outside of all parentheses back there is safe. -/
theorem Leads.safe {characters : List Char} (hleads : Leads 0 0 characters) :
    Safe characters := by
  have hpair {first second : Char} (hfound : [first, second] <:+: characters) :
      Apart first second := by
    have hchain := hleads.apart.infix hfound
    exact List.isChain_pair.mp hchain
  constructor
  · rintro beginning ⟨rest, rfl⟩
    have hnest := hleads.nest_eq
    rw [nest_append] at hnest
    obtain ⟨depth, hdepth, -⟩ := Option.bind_eq_some_iff.mp hnest
    have hcount := count_of_nest hdepth
    omega
  · have hcount := count_of_nest hleads.nest_eq
    omega
  · exact fun hmem ↦ (hleads.harmless _ hmem).1 rfl
  · exact fun hmem ↦ (hleads.harmless _ hmem).2.1 rfl
  · exact fun hmem ↦ (hleads.harmless _ hmem).2.2 rfl
  · exact fun hfound ↦ (hpair hfound).1 ⟨rfl, rfl⟩
  · exact fun hfound ↦ (hpair hfound).2 ⟨rfl, rfl⟩

/-! ### Words and numbers -/

/-- The characters that nest, or that end or open something, alone or together with others. -/
def restlessMarks : List Char := ['(', ')', '-', '/', ';', '\'', '\x00']

/-- The characters that neither nest nor end or open anything. -/
def isInert (c : Char) : Bool := !restlessMarks.contains c

theorem isInert_of_isWordPart {c : Char} (hc : isWordPart c = true) : isInert c = true := by
  unfold isInert
  rw [Bool.not_eq_true', List.contains_eq_mem, decide_eq_false_iff_not]
  intro hmem
  have hnone : (restlessMarks.any isWordPart) = false := by decide
  exact List.any_eq_false.mp hnone c hmem hc

theorem isInert_of_isDigit {c : Char} (hc : c.isDigit = true) : isInert c = true :=
  isInert_of_isWordPart (by simp [isWordPart, Char.isAlphanum, hc])

theorem leads_singleton {c : Char} (hc : isInert c = true) (depth : Nat) :
    Leads depth depth [c] := by
  have hmarks : c ∉ restlessMarks := by simpa [isInert] using hc
  simp only [restlessMarks, List.mem_cons, not_or] at hmarks
  obtain ⟨hopen, hclose, hminus, hslash, hsemicolon, hapostrophe, hnul, -⟩ := hmarks
  constructor <;> simp_all [nest]

theorem leads_of_all_isInert {characters : List Char} (hinert : characters.all isInert = true)
    (depth : Nat) : Leads depth depth characters := by
  induction characters with
  | nil => exact leads_nil depth
  | cons c rest ih =>
    rw [List.all_cons, Bool.and_eq_true] at hinert
    exact (leads_singleton hinert.1 depth).append (ih hinert.2)

/-- Function names are inert. -/
theorem FunctionPosition.all_isInert_of_accepts (position : FunctionPosition)
    (characters : List Char) (haccepts : position.accepts characters = true) :
    characters.all isInert = true := by
  fun_induction accepts position characters <;>
    simp_all +decide [isInert_of_isWordPart, isWordPart_of_isWordStart]

/-- How many parentheses are open at a position of a type name. -/
def TypePosition.depth : TypePosition → Nat
  | .opened | .precision | .comma | .blank | .scale => 1
  | .start | .word | .closed | .bracket => 0

/-- From every position on, a type name closes the modifier that it is inside of. -/
theorem TypePosition.leads_of_accepts (position : TypePosition) (characters : List Char)
    (haccepts : position.accepts characters = true) : Leads position.depth 0 characters := by
  have hinert {c : Char} {rest : List Char} {depth : Nat} (hc : isInert c = true)
      (hrest : Leads depth 0 rest) : Leads depth 0 (c :: rest) :=
    (leads_singleton hc depth).append hrest
  have hword {c : Char} (hc : isWordPart c = true) : isInert c = true := isInert_of_isWordPart hc
  have hstart {c : Char} (hc : isWordStart c = true) : isInert c = true :=
    isInert_of_isWordPart (isWordPart_of_isWordStart hc)
  have hdigit {c : Char} (hc : c.isDigit = true) : isInert c = true := isInert_of_isDigit hc
  have hmark : isInert ' ' = true ∧ isInert ',' = true ∧ isInert '[' = true ∧
      isInert ']' = true := by decide
  have hopen {rest : List Char} (hrest : Leads 1 0 rest) : Leads 0 0 ('(' :: rest) := by
    have hparenthesis : Leads 0 1 ['('] := by decide
    exact hparenthesis.append hrest
  have hclose {rest : List Char} (hrest : Leads 0 0 rest) : Leads 1 0 (')' :: rest) := by
    have hparenthesis : Leads 1 0 [')'] := by decide
    exact hparenthesis.append hrest
  fun_induction accepts position characters <;> grind [depth, leads_nil]

theorem all_isInert_toString (number : Nat) : (toString number).toList.all isInert = true := by
  rw [List.all_eq_true]
  intro c hc
  exact isInert_of_isDigit (isDigit_of_mem_toString hc)

theorem leads_toString (number depth : Nat) :
    Leads depth depth (toString number).toList :=
  leads_of_all_isInert (all_isInert_toString number) depth

/-- A minus sign in front of a number opens no comment, because a digit follows it. -/
theorem leads_toString_int64 (number : Int64) (depth : Nat) :
    Leads depth depth (toString number).toList := by
  show Leads depth depth (toString number.toInt).toList
  rw [Int.toString_eq_repr, Int.repr_eq_if]
  split
  · exact leads_toString number.toInt.toNat depth
  · rw [String.toList_append]
    have hdigits := leads_toString (-number.toInt).toNat depth
    have hne : (toString (-number.toInt).toNat).toList ≠ [] := by
      rw [Nat.toString_eq_repr, Nat.toList_repr]
      exact Nat.toDigits_ne_nil
    have hdigit : ∀ c ∈ (toString (-number.toInt).toNat).toList, c.isDigit = true :=
      fun c hc ↦ isDigit_of_mem_toString hc
    change Leads depth depth ('-' :: (toString (-number.toInt).toNat).toList)
    cases hcharacters : (toString (-number.toInt).toNat).toList with
    | nil => exact absurd hcharacters hne
    | cons first rest =>
      rw [hcharacters] at hdigits hdigit
      have hfirst : first ≠ '-' := by
        rintro rfl
        exact absurd (hdigit '-' List.mem_cons_self) (by decide)
      constructor
      · exact hdigits.nest_eq
      · exact List.forall_mem_cons.mpr ⟨by decide, hdigits.harmless⟩
      · exact List.isChain_cons_cons.mpr
          ⟨⟨fun h ↦ hfirst h.2, fun h ↦ absurd h.1 (by decide)⟩, hdigits.apart⟩
      · exact hdigits.complete

end Text

/-! ### The texts of a dialect -/

namespace Dialect

variable {d : Dialect}

theorem leads_operator (op : BinaryOp) :
    Text.Leads 0 0 (" " ++ d.operator op ++ " ").toList := by
  unfold operator
  split
  · decide
  · cases op <;> decide

theorem leads_marker (style : ParamStyle) (position depth : Nat) :
    Text.Leads depth depth (style.marker position).toList := by
  refine Text.leads_of_all_isInert ?_ depth
  cases style with
  | format =>
    rw [ParamStyle.marker]
    decide
  | qmark =>
    rw [ParamStyle.marker]
    decide
  | numeric =>
    rw [ParamStyle.marker, String.toList_append, List.all_append, Text.all_isInert_toString]
    decide

theorem leads_bounds (limit offset : Option Nat) :
    Text.Leads 0 0 (d.bounds limit offset).toList := by
  have hcounted {keyword : String} (hkeyword : Text.Leads 0 0 keyword.toList) (number : Nat) :
      Text.Leads 0 0 (keyword ++ toString number).toList := by
    rw [String.toList_append]
    exact hkeyword.append (Text.leads_toString number 0)
  have hnothing : Text.Leads 0 0 "".toList := by decide
  unfold bounds
  cases d.paging with
  | limit =>
    simp only
    rw [String.toList_append]
    refine Text.Leads.append (?_ : Text.Leads 0 0 _) ?_
    · split
      · exact hcounted (by decide) _
      · rw [String.toList_append]
        exact Text.Leads.append (by decide) (Text.leads_toString_int64 _ 0)
      · exact hnothing
    · split
      · exact hcounted (by decide) _
      · exact hnothing
  | fetch =>
    simp only
    rw [String.toList_append]
    refine Text.Leads.append (?_ : Text.Leads 0 0 _) ?_
    · split
      · rw [String.toList_append]
        exact (hcounted (by decide) _).append (by decide)
      · exact hnothing
    · split
      · rw [String.toList_append]
        exact (hcounted (by decide) _).append (by decide)
      · exact hnothing

end Dialect

end BoundSql
