import BoundSql.BareWord

/-!
# The grammar of bare words

`FunctionName` and `TypeName` say which texts are function names and type names, production by
production. The readers go through a text once from left to right, so at every position they accept
exactly the texts that complete a name there (`FunctionPosition.accepts_iff`,
`TypePosition.accepts_iff`). `BareWord.check_eq_ok_iff` is this at the start of a text: a text may
be written bare exactly if it belongs to the grammar, and then it is written unchanged.
-/

set_option autoImplicit false
set_option relaxedAutoImplicit false

namespace BoundSql

namespace Text

/-! ### Productions -/

/-- An ASCII letter. -/
def IsLetter (c : Char) : Prop := 'a' ≤ c ∧ c ≤ 'z' ∨ 'A' ≤ c ∧ c ≤ 'Z'

/-- An ASCII digit. -/
def IsDigit (c : Char) : Prop := '0' ≤ c ∧ c ≤ '9'

/-- A letter or an underscore. -/
def StartsWord (c : Char) : Prop := IsLetter c ∨ c = '_'

/-- A letter, a digit or an underscore. -/
def ContinuesWord (c : Char) : Prop := IsLetter c ∨ IsDigit c ∨ c = '_'

/-- A word: a character that starts one, and characters that continue it. -/
def Word (word : List Char) : Prop :=
  ∃ first rest, word = first :: rest ∧ StartsWord first ∧ ∀ c ∈ rest, ContinuesWord c

/-- One digit or more. -/
def Number (number : List Char) : Prop := number ≠ [] ∧ ∀ c ∈ number, IsDigit c

/-- A function name: one word, or two words with a dot between them. -/
inductive FunctionName : List Char → Prop
  | plain {word : List Char} (hword : Word word) : FunctionName word
  | qualified {qualifier word : List Char} (hqualifier : Word qualifier) (hword : Word word) :
    FunctionName (qualifier ++ '.' :: word)

/-- One word or more, with one space between neighbours. -/
inductive Words : List Char → Prop
  | last {word : List Char} (hword : Word word) : Words word
  | next {word rest : List Char} (hword : Word word) (hrest : Words rest) :
    Words (word ++ ' ' :: rest)

/-- One number in parentheses, or two with a comma between them that one space may follow. -/
inductive Modifier : List Char → Prop
  | precision {precision : List Char} (hprecision : Number precision) :
    Modifier ('(' :: (precision ++ [')']))
  | scale {precision scale : List Char} (hprecision : Number precision) (hscale : Number scale) :
    Modifier ('(' :: (precision ++ ',' :: (scale ++ [')'])))
  | spacedScale {precision scale : List Char} (hprecision : Number precision)
    (hscale : Number scale) : Modifier ('(' :: (precision ++ ',' :: ' ' :: (scale ++ [')'])))

/-- Any number of pairs of brackets. -/
inductive Brackets : List Char → Prop
  | none : Brackets []
  | pair {rest : List Char} (hrest : Brackets rest) : Brackets ('[' :: ']' :: rest)

/-- What follows the words of a type name: at most one modifier, and any number of brackets. -/
inductive TypeSuffix : List Char → Prop
  | plain {brackets : List Char} (hbrackets : Brackets brackets) : TypeSuffix brackets
  | modified {modifier brackets : List Char} (hmodifier : Modifier modifier)
    (hbrackets : Brackets brackets) : TypeSuffix (modifier ++ brackets)

/-- A type name: words, and what may follow them. -/
def TypeName (name : List Char) : Prop :=
  ∃ words suffix, name = words ++ suffix ∧ Words words ∧ TypeSuffix suffix

/-! ### Characters -/

theorem isAlpha_iff (c : Char) : c.isAlpha = true ↔ IsLetter c := by
  unfold Char.isAlpha Char.isUpper Char.isLower IsLetter
  simp only [Bool.or_eq_true, Bool.and_eq_true, decide_eq_true_eq]
  exact or_comm

theorem isDigit_iff (c : Char) : c.isDigit = true ↔ IsDigit c := by
  simp only [Char.isDigit, IsDigit, Bool.and_eq_true, decide_eq_true_eq]
  rfl

/-- A reader begins a word exactly where the grammar does. -/
theorem isWordStart_iff (c : Char) : isWordStart c = true ↔ StartsWord c := by
  simp only [isWordStart, StartsWord, Bool.or_eq_true, decide_eq_true_eq, isAlpha_iff]

/-- A reader continues a word exactly where the grammar does. -/
theorem isWordPart_iff (c : Char) : isWordPart c = true ↔ ContinuesWord c := by
  simp only [isWordPart, Char.isAlphanum, ContinuesWord, Bool.or_eq_true, decide_eq_true_eq,
    isAlpha_iff, isDigit_iff, or_assoc]

instance (c : Char) : Decidable (IsDigit c) := decidable_of_iff _ (isDigit_iff c)

instance (c : Char) : Decidable (ContinuesWord c) := decidable_of_iff _ (isWordPart_iff c)

/-! ### The first character of a production -/

/-- Characters of one class, as many as there may be, and behind them what else is expected. -/
def Behind (belongs : Char → Prop) (expected : List Char → Prop) (s : List Char) : Prop :=
  ∃ run rest, s = run ++ rest ∧ (∀ c ∈ run, belongs c) ∧ expected rest

/-- A number, and behind it what else is expected. -/
def NumberBehind (expected : List Char → Prop) (s : List Char) : Prop :=
  ∃ number rest, s = number ++ rest ∧ Number number ∧ expected rest

section FirstCharacter

variable {belongs : Char → Prop} {expected : List Char → Prop} {c : Char} {s : List Char}

/-- Behind no characters there is what is expected. -/
theorem behind_nil_iff : Behind belongs expected [] ↔ expected [] := by
  constructor
  · rintro ⟨run, rest, hs, -, hrest⟩
    obtain ⟨-, rfl⟩ := List.nil_eq_append_iff.mp hs
    exact hrest
  · exact fun hrest ↦ ⟨[], [], rfl, nofun, hrest⟩

/-- Either what is expected begins here, or one more character of the class comes first. -/
theorem behind_cons_iff : Behind belongs expected (c :: s) ↔
    expected (c :: s) ∨ belongs c ∧ Behind belongs expected s := by
  constructor
  · rintro ⟨run, rest, hs, hrun, hrest⟩
    cases run with
    | nil =>
      rw [List.nil_append] at hs
      exact .inl (hs ▸ hrest)
    | cons first run =>
      obtain ⟨rfl, rfl⟩ := List.cons.inj hs
      obtain ⟨hfirst, hrun⟩ := List.forall_mem_cons.mp hrun
      exact .inr ⟨hfirst, run, rest, rfl, hrun, hrest⟩
  · rintro (hrest | ⟨hc, run, rest, rfl, hrun, hrest⟩)
    · exact ⟨[], c :: s, rfl, nofun, hrest⟩
    · exact ⟨c :: run, rest, rfl, List.forall_mem_cons.mpr ⟨hc, hrun⟩, hrest⟩

/-- A number has a digit. -/
theorem not_numberBehind_nil : ¬ NumberBehind expected [] := by
  rintro ⟨number, rest, hs, hnumber, -⟩
  exact hnumber.1 (List.nil_eq_append_iff.mp hs).1

/-- Behind the first digit of a number other digits may follow. -/
theorem numberBehind_cons_iff :
    NumberBehind expected (c :: s) ↔ IsDigit c ∧ Behind IsDigit expected s := by
  constructor
  · rintro ⟨number, rest, hs, ⟨hsome, hdigits⟩, hrest⟩
    obtain ⟨first, run, rfl⟩ := List.exists_cons_of_ne_nil hsome
    obtain ⟨rfl, rfl⟩ := List.cons.inj hs
    obtain ⟨hfirst, hrun⟩ := List.forall_mem_cons.mp hdigits
    exact ⟨hfirst, run, rest, rfl, hrun, hrest⟩
  · rintro ⟨hc, run, rest, rfl, hrun, hrest⟩
    exact ⟨c :: run, rest, rfl, ⟨List.cons_ne_nil c run, List.forall_mem_cons.mpr ⟨hc, hrun⟩⟩,
      hrest⟩

/-- A word has a character. -/
theorem not_word_nil : ¬ Word [] := by
  rintro ⟨first, rest, hs, -, -⟩
  cases hs

/-- Behind the first character of a word all continue it. -/
theorem word_cons_iff : Word (c :: s) ↔ StartsWord c ∧ ∀ next ∈ s, ContinuesWord next := by
  constructor
  · rintro ⟨first, rest, hs, hfirst, hrest⟩
    obtain ⟨rfl, rfl⟩ := List.cons.inj hs
    exact ⟨hfirst, hrest⟩
  · exact fun ⟨hfirst, hrest⟩ ↦ ⟨c, s, rfl, hfirst, hrest⟩

end FirstCharacter

/-! ### Function names -/

/-- What may follow the first word of a function name. -/
def Qualified (s : List Char) : Prop := s = [] ∨ ∃ word, s = '.' :: word ∧ Word word

/-- What completes a function name at a position. -/
def FunctionPosition.Completes : FunctionPosition → List Char → Prop
  | .start, s => FunctionName s
  | .first, s => Behind ContinuesWord Qualified s
  | .dot, s => Word s
  | .second, s => ∀ c ∈ s, ContinuesWord c

/-- A function name has a character. -/
theorem not_functionName_nil : ¬ FunctionName [] := by
  intro hname
  generalize hs : ([] : List Char) = s at hname
  cases hname with
  | plain hword => exact not_word_nil (hs ▸ hword)
  | qualified hqualifier hword => exact absurd hs (by simp)

/-- A function name begins like a word, and a dot may stand behind this word. -/
theorem functionName_cons_iff {c : Char} {s : List Char} :
    FunctionName (c :: s) ↔ StartsWord c ∧ Behind ContinuesWord Qualified s := by
  constructor
  · intro hname
    generalize hs : c :: s = name at hname
    cases hname with
    | plain hword =>
      obtain ⟨hc, hrest⟩ := word_cons_iff.mp (hs ▸ hword)
      exact ⟨hc, s, [], s.append_nil.symm, hrest, .inl rfl⟩
    | qualified hqualifier hword =>
      obtain ⟨first, run, rfl, hfirst, hrun⟩ := hqualifier
      obtain ⟨rfl, rfl⟩ := List.cons.inj hs
      exact ⟨hfirst, run, _, rfl, hrun, .inr ⟨_, rfl, hword⟩⟩
  · rintro ⟨hc, run, rest, rfl, hrun, rfl | ⟨word, rfl, hword⟩⟩
    · rw [List.append_nil]
      exact .plain (word_cons_iff.mpr ⟨hc, hrun⟩)
    · have hqualifier : Word (c :: run) := word_cons_iff.mpr ⟨hc, hrun⟩
      exact .qualified hqualifier hword

/-- At every position, the texts that complete a function name are accepted and no others. -/
theorem FunctionPosition.accepts_iff (position : FunctionPosition) (s : List Char) :
    position.accepts s = true ↔ position.Completes s := by
  induction s generalizing position with
  | nil =>
    cases position with
    | start => exact iff_of_false Bool.false_ne_true not_functionName_nil
    | first => exact iff_of_true rfl (behind_nil_iff.mpr (.inl rfl))
    | dot => exact iff_of_false Bool.false_ne_true not_word_nil
    | second => exact iff_of_true rfl nofun
  | cons c rest ih =>
    cases position with
    | start =>
      simp only [accepts, Bool.and_eq_true, ih, isWordStart_iff, Completes, functionName_cons_iff]
    | first =>
      rw [accepts, Completes, behind_cons_iff, Qualified]
      by_cases hdot : c = '.'
      · have hout : ¬ ContinuesWord '.' := by decide
        simp [hdot, hout, ih, Completes]
      · simp [hdot, ih, isWordPart_iff, Completes]
    | dot => simp only [accepts, Bool.and_eq_true, ih, isWordStart_iff, Completes, word_cons_iff]
    | second =>
      simp only [accepts, Bool.and_eq_true, ih, isWordPart_iff, Completes, List.forall_mem_cons]

/-! ### Type names -/

/-- The end of a modifier, and brackets. -/
def Closing (s : List Char) : Prop := ∃ brackets, s = ')' :: brackets ∧ Brackets brackets

/-- The second number of a modifier, behind at most one space. -/
def Scale (s : List Char) : Prop :=
  NumberBehind Closing s ∨ ∃ rest, s = ' ' :: rest ∧ NumberBehind Closing rest

/-- What may follow the first number of a modifier. -/
def Scaled (s : List Char) : Prop := Closing s ∨ ∃ rest, s = ',' :: rest ∧ Scale rest

/-- What may follow a word of a type name. -/
def Continued (s : List Char) : Prop := TypeSuffix s ∨ ∃ rest, s = ' ' :: rest ∧ TypeName rest

/-- What completes a type name at a position. -/
def TypePosition.Completes : TypePosition → List Char → Prop
  | .start, s => TypeName s
  | .word, s => Behind ContinuesWord Continued s
  | .opened, s => NumberBehind Scaled s
  | .precision, s => Behind IsDigit Scaled s
  | .comma, s => Scale s
  | .blank, s => NumberBehind Closing s
  | .scale, s => Behind IsDigit Closing s
  | .closed, s => Brackets s
  | .bracket, s => ∃ rest, s = ']' :: rest ∧ Brackets rest

/-- Brackets stand in pairs. -/
theorem brackets_cons_iff {c : Char} {s : List Char} :
    Brackets (c :: s) ↔ c = '[' ∧ ∃ rest, s = ']' :: rest ∧ Brackets rest := by
  constructor
  · intro hbrackets
    cases hbrackets with
    | pair hrest => exact ⟨rfl, _, rfl, hrest⟩
  · rintro ⟨rfl, rest, rfl, hrest⟩
    exact .pair hrest

/-- Only brackets stand behind the parenthesis that closes a modifier. -/
theorem closing_cons_iff {c : Char} {s : List Char} :
    Closing (c :: s) ↔ c = ')' ∧ Brackets s := by
  simp [Closing, and_assoc]

/-- A modifier with brackets behind it opens, and goes on with its first number. -/
theorem exists_modifier_iff {s : List Char} :
    (∃ modifier brackets, s = modifier ++ brackets ∧ Modifier modifier ∧ Brackets brackets) ↔
      ∃ rest, s = '(' :: rest ∧ NumberBehind Scaled rest := by
  constructor
  · rintro ⟨modifier, brackets, rfl, hmodifier, hbrackets⟩
    cases hmodifier with
    | precision hprecision =>
      refine ⟨_, rfl, _, _, List.append_assoc .., hprecision, .inl ⟨brackets, rfl, hbrackets⟩⟩
    | @scale precision scale hprecision hscale =>
      refine ⟨_, rfl, precision, ',' :: (scale ++ ')' :: brackets), by simp, hprecision,
        .inr ⟨_, rfl, .inl ⟨scale, _, rfl, hscale, brackets, rfl, hbrackets⟩⟩⟩
    | @spacedScale precision scale hprecision hscale =>
      refine ⟨_, rfl, precision, ',' :: ' ' :: (scale ++ ')' :: brackets), by simp, hprecision,
        .inr ⟨_, rfl, .inr ⟨_, rfl, scale, _, rfl, hscale, brackets, rfl, hbrackets⟩⟩⟩
  · rintro ⟨_, rfl, precision, _, rfl, hprecision, ⟨brackets, rfl, hbrackets⟩ | ⟨_, rfl, hscale⟩⟩
    · exact ⟨_, brackets, by simp, .precision hprecision, hbrackets⟩
    · obtain ⟨scale, _, rfl, hnumber, brackets, rfl, hbrackets⟩ |
        ⟨_, rfl, scale, _, rfl, hnumber, brackets, rfl, hbrackets⟩ := hscale
      · exact ⟨_, brackets, by simp, .scale hprecision hnumber, hbrackets⟩
      · exact ⟨_, brackets, by simp, .spacedScale hprecision hnumber, hbrackets⟩

/-- Behind the words of a type name stand brackets, or first a modifier with a number in it. -/
theorem typeSuffix_iff {s : List Char} :
    TypeSuffix s ↔ Brackets s ∨ ∃ rest, s = '(' :: rest ∧ NumberBehind Scaled rest := by
  rw [← exists_modifier_iff]
  constructor
  · intro hsuffix
    cases hsuffix with
    | plain hbrackets => exact .inl hbrackets
    | modified hmodifier hbrackets => exact .inr ⟨_, _, rfl, hmodifier, hbrackets⟩
  · rintro (hbrackets | ⟨modifier, brackets, rfl, hmodifier, hbrackets⟩)
    · exact .plain hbrackets
    · exact .modified hmodifier hbrackets

/-- A type name has a character. -/
theorem not_typeName_nil : ¬ TypeName [] := by
  rintro ⟨words, suffix, hs, hwords, -⟩
  obtain ⟨rfl, -⟩ := List.nil_eq_append_iff.mp hs
  generalize hnil : ([] : List Char) = words at hwords
  cases hwords with
  | last hword => exact not_word_nil (hnil ▸ hword)
  | next hword hrest => exact absurd hnil (by simp)

/-- A type name begins like a word, which others or a suffix may follow. -/
theorem typeName_cons_iff {c : Char} {s : List Char} :
    TypeName (c :: s) ↔ StartsWord c ∧ Behind ContinuesWord Continued s := by
  constructor
  · rintro ⟨words, suffix, hs, hwords, hsuffix⟩
    cases hwords with
    | last hword =>
      obtain ⟨first, run, rfl, hfirst, hrun⟩ := hword
      obtain ⟨rfl, rfl⟩ := List.cons.inj hs
      exact ⟨hfirst, run, suffix, rfl, hrun, .inl hsuffix⟩
    | @next word rest hword hrest =>
      obtain ⟨first, run, rfl, hfirst, hrun⟩ := hword
      obtain ⟨rfl, rfl⟩ := List.cons.inj hs
      exact ⟨hfirst, run, ' ' :: (rest ++ suffix), by simp, hrun,
        .inr ⟨_, rfl, rest, suffix, rfl, hrest, hsuffix⟩⟩
  · rintro ⟨hc, run, suffix, rfl, hrun, hsuffix | ⟨_, rfl, words, suffix, rfl, hwords, hsuffix⟩⟩
    · exact ⟨c :: run, suffix, rfl, .last (word_cons_iff.mpr ⟨hc, hrun⟩), hsuffix⟩
    · exact ⟨c :: run ++ ' ' :: words, suffix, by simp,
        .next (word_cons_iff.mpr ⟨hc, hrun⟩) hwords, hsuffix⟩

/-- At every position, the texts that complete a type name are accepted and no others. -/
theorem TypePosition.accepts_iff (position : TypePosition) (s : List Char) :
    position.accepts s = true ↔ position.Completes s := by
  induction s generalizing position with
  | nil =>
    cases position with
    | start => exact iff_of_false Bool.false_ne_true not_typeName_nil
    | word => exact iff_of_true rfl (behind_nil_iff.mpr (.inl (.plain .none)))
    | closed => exact iff_of_true rfl .none
    | _ =>
      simp [accepts, Completes, not_numberBehind_nil, behind_nil_iff, Scaled, Scale, Closing]
  | cons c rest ih =>
    cases position with
    | start =>
      simp only [accepts, Bool.and_eq_true, ih, isWordStart_iff, Completes, typeName_cons_iff]
    | word =>
      -- A word goes on, or a space, a parenthesis or a bracket ends it.
      rw [accepts, Completes, behind_cons_iff, Continued, typeSuffix_iff, brackets_cons_iff]
      by_cases hspace : c = ' '
      · have hout : ¬ ContinuesWord ' ' := by decide
        simp [hspace, hout, ih, Completes]
      by_cases hopen : c = '('
      · have hout : ¬ ContinuesWord '(' := by decide
        simp [hopen, hout, ih, Completes]
      by_cases hbracket : c = '['
      · have hout : ¬ ContinuesWord '[' := by decide
        simp [hbracket, hout, ih, Completes]
      simp [hspace, hopen, hbracket, ih, isWordPart_iff, Completes]
    | opened =>
      simp only [accepts, Bool.and_eq_true, ih, isDigit_iff, Completes, numberBehind_cons_iff]
    | precision =>
      rw [accepts, Completes, behind_cons_iff, Scaled, closing_cons_iff]
      by_cases hcomma : c = ','
      · have hout : ¬ IsDigit ',' := by decide
        simp [hcomma, hout, ih, Completes]
      by_cases hclose : c = ')'
      · have hout : ¬ IsDigit ')' := by decide
        simp [hclose, hout, ih, Completes]
      simp [hcomma, hclose, ih, isDigit_iff, Completes]
    | comma =>
      rw [accepts, Completes, Scale, numberBehind_cons_iff]
      by_cases hspace : c = ' '
      · have hout : ¬ IsDigit ' ' := by decide
        simp [hspace, hout, ih, Completes]
      simp [hspace, ih, isDigit_iff, Completes]
    | blank =>
      simp only [accepts, Bool.and_eq_true, ih, isDigit_iff, Completes, numberBehind_cons_iff]
    | scale =>
      rw [accepts, Completes, behind_cons_iff, closing_cons_iff]
      by_cases hclose : c = ')'
      · have hout : ¬ IsDigit ')' := by decide
        simp [hclose, hout, ih, Completes]
      simp [hclose, ih, isDigit_iff, Completes]
    | closed =>
      simp only [accepts, Bool.and_eq_true, decide_eq_true_eq, ih, Completes, brackets_cons_iff]
    | bracket => simp [accepts, ih, Completes, and_assoc]

end Text

namespace BareWord

/-- The texts that may be written bare. -/
def Grammar : BareWord → String → Prop
  | .function, word => Text.FunctionName word.toList
  | .type, word => Text.TypeName word.toList

/-- A word is allowed exactly if it belongs to the grammar of its kind. -/
theorem allows_iff (kind : BareWord) (word : String) :
    kind.allows word = true ↔ kind.Grammar word := by
  cases kind with
  | function => exact Text.FunctionPosition.accepts_iff .start word.toList
  | type => exact Text.TypePosition.accepts_iff .start word.toList

/-- A text may be written bare exactly if it belongs to the grammar of its kind, and then it is
written unchanged. -/
theorem check_eq_ok_iff (kind : BareWord) (word written : String) :
    kind.check word = .ok written ↔ kind.Grammar word ∧ written = word := by
  rw [← allows_iff, check, error?]
  cases kind.allows word <;> simp [eq_comm]

/-- A type name with a modifier and brackets, and some near misses. -/
example : (["numeric(10, 2)[][]", "numeric(10,  2)", "int  array", "int\n", "int[", "a.b"].map
    fun word ↦ BareWord.type.allows word) = [true, false, false, false, false, false] := by
  decide

end BareWord

end BoundSql
