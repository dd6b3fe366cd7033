import BoundSql.Proofs.BareWordGrammar
import Mathlib.Computability.RegularExpressions

/-!
# Patterns of bare words

The readers of function names and type names stand for two shorter descriptions. A function name is
what is left whole by a split at the dots: the first two parts are words, and there is no third one
(`isFunctionName_eq_isSplitName`). A type name is what the regular expression `typePattern` matches
from the start of the text to its end (`isTypeName_iff_mem_typePattern`).

The proofs go through the grammar. Each production is what a part of the pattern matches, and the
parts of a split can be put together again with the dots between them.
-/

set_option autoImplicit false
set_option relaxedAutoImplicit false

namespace BoundSql.Text

variable {s : List Char}

/-! ### Function names -/

/-- Tells whether a part of a text is a word. -/
def isWord : List Char → Bool
  | [] => false
  | first :: rest => isWordStart first && rest.all isWordPart

/-- Tests the next parts, at most `count` of them and none behind the first that fails. The parts
that have not been taken are left. -/
def testNext (count : Nat) (parts : List (List Char)) : Bool × List (List Char) :=
  match count, parts with
  | 0, parts => (true, parts)
  | _ + 1, [] => (true, [])
  | count + 1, part :: parts => if isWord part then testNext count parts else (false, parts)

/-- Tells whether the parts of a text between its dots are two words at most, with nothing left. -/
def isSplitName (characters : List Char) : Bool :=
  let (passed, left) := testNext 2 (characters.splitOn '.')
  passed && left.isEmpty

/-- A part passes if it is a word. -/
theorem isWord_iff : isWord s = true ↔ Word s := by
  cases s with
  | nil => exact iff_of_false Bool.false_ne_true not_word_nil
  | cons first rest =>
    rw [isWord, Bool.and_eq_true, List.all_eq_true, word_cons_iff, isWordStart_iff]
    simp only [isWordPart_iff]

/-- There is no dot in a word. -/
theorem dot_notMem_of_word (hword : Word s) : '.' ∉ s := by
  obtain ⟨first, rest, rfl, hfirst, hrest⟩ := hword
  rw [List.mem_cons, not_or]
  have hstart : ¬ StartsWord '.' := fun hdot ↦ by
    have hread := (isWordStart_iff '.').mpr hdot
    cases hread
  have hpart : ¬ ContinuesWord '.' := by decide
  refine ⟨?_, fun hdot ↦ hpart (hrest _ hdot)⟩
  rintro rfl
  exact hstart hfirst

/-- The test passes exactly for one part that is a word and for two such parts. -/
theorem testNext_iff (parts : List (List Char)) (hparts : parts ≠ []) :
    ((testNext 2 parts).1 && (testNext 2 parts).2.isEmpty) = true ↔
      (∃ word, parts = [word] ∧ Word word) ∨
        ∃ qualifier word, parts = [qualifier, word] ∧ Word qualifier ∧ Word word := by
  match parts with
  | [] => exact absurd rfl hparts
  | [word] => cases hword : isWord word <;> simp [testNext, hword, ← isWord_iff]
  | [qualifier, word] =>
    cases hqualifier : isWord qualifier <;> cases hword : isWord word <;>
      simp [testNext, hqualifier, hword, ← isWord_iff]
  | first :: second :: third :: rest =>
    -- A third part is not tested. It is left, whether the first two pass or not.
    cases hfirst : isWord first <;> cases hsecond : isWord second <;>
      simp [testNext, hfirst, hsecond]

/-- A text is a function name exactly if it is split at its dots into one word or two. -/
theorem functionName_iff_splitOn :
    FunctionName s ↔ (∃ word, s.splitOn '.' = [word] ∧ Word word) ∨
      ∃ qualifier word, s.splitOn '.' = [qualifier, word] ∧ Word qualifier ∧ Word word := by
  constructor
  · intro hname
    cases hname with
    | plain hword =>
      have hwhole : ['.'].intercalate [s] = s := by simp
      refine .inl ⟨s, ?_, hword⟩
      conv_lhs => rw [← hwhole]
      exact List.splitOn_intercalate '.' (by simpa using dot_notMem_of_word hword) (by simp)
    | @qualified qualifier word hqualifier hword =>
      have hwhole : ['.'].intercalate [qualifier, word] = qualifier ++ '.' :: word := by simp
      refine .inr ⟨qualifier, word, ?_, hqualifier, hword⟩
      rw [← hwhole]
      refine List.splitOn_intercalate '.' ?_ (by simp)
      simpa using ⟨dot_notMem_of_word hqualifier, dot_notMem_of_word hword⟩
  · have hjoined : ['.'].intercalate (s.splitOn '.') = s := List.intercalate_splitOn '.'
    rintro (⟨word, hparts, hword⟩ | ⟨qualifier, word, hparts, hqualifier, hword⟩)
    · rw [hparts] at hjoined
      obtain rfl : word = s := by simpa using hjoined
      exact .plain hword
    · rw [hparts] at hjoined
      obtain rfl : qualifier ++ '.' :: word = s := by simpa using hjoined
      exact .qualified hqualifier hword

/-- The reader of function names accepts what a split at the dots accepts. -/
theorem isFunctionName_eq_isSplitName (characters : List Char) :
    isFunctionName characters = isSplitName characters := by
  have hparts : characters.splitOn '.' ≠ [] := List.splitOn_ne_nil _ _
  have hsplit : isSplitName characters = true ↔ FunctionName characters := by
    rw [functionName_iff_splitOn, ← testNext_iff _ hparts]
    rfl
  rw [Bool.eq_iff_iff, hsplit]
  exact FunctionPosition.accepts_iff .start characters

/-! ### What a pattern matches -/

open RegularExpression (char)

/-- The pattern that matches the empty text, too. -/
def optional (pattern : RegularExpression Char) : RegularExpression Char := pattern + 1

/-- The pattern of a character matches this character alone. -/
theorem mem_char {c : Char} : s ∈ (char c).matches' ↔ s = [c] := by
  rw [RegularExpression.matches'_char]
  exact Set.mem_singleton_iff

/-- Two patterns, one after the other, match a front part and the part behind it. -/
theorem mem_mul {first second : RegularExpression Char} :
    s ∈ (first * second).matches' ↔
      ∃ front back, s = front ++ back ∧ front ∈ first.matches' ∧ back ∈ second.matches' := by
  rw [RegularExpression.matches'_mul, Language.mem_mul]
  constructor
  · rintro ⟨front, hfront, back, hback, rfl⟩
    exact ⟨front, back, rfl, hfront, hback⟩
  · rintro ⟨front, back, rfl, hfront, hback⟩
    exact ⟨front, hfront, back, hback, rfl⟩

/-- What two patterns match is matched one after the other. -/
theorem append_mem_mul {first second : RegularExpression Char} {front back : List Char}
    (hfront : front ∈ first.matches') (hback : back ∈ second.matches') :
    front ++ back ∈ (first * second).matches' :=
  mem_mul.mpr ⟨front, back, rfl, hfront, hback⟩

/-- A character in front of a pattern is the first one of what is matched. -/
theorem mem_char_mul {c : Char} {pattern : RegularExpression Char} :
    s ∈ (char c * pattern).matches' ↔ ∃ rest, s = c :: rest ∧ rest ∈ pattern.matches' := by
  rw [mem_mul]
  constructor
  · rintro ⟨front, rest, rfl, hfront, hrest⟩
    obtain rfl := mem_char.mp hfront
    exact ⟨rest, rfl, hrest⟩
  · rintro ⟨rest, rfl, hrest⟩
    exact ⟨[c], rest, rfl, mem_char.mpr rfl, hrest⟩

/-- What may be left out is matched, and so is the empty text. -/
theorem mem_optional {pattern : RegularExpression Char} :
    s ∈ (optional pattern).matches' ↔ s ∈ pattern.matches' ∨ s = [] := by
  rw [optional, RegularExpression.matches'_add, Language.mem_add,
    RegularExpression.matches'_epsilon, Language.mem_one]

/-- Where all may be left out, the empty text is matched. -/
theorem nil_mem_optional (pattern : RegularExpression Char) : [] ∈ (optional pattern).matches' :=
  mem_optional.mpr (.inr rfl)

/-- The star of a pattern matches the empty text. -/
theorem nil_mem_star (pattern : RegularExpression Char) : [] ∈ pattern.star.matches' := by
  rw [RegularExpression.matches'_star]
  exact Language.nil_mem_kstar _

/-- What the star of a pattern matches, it matches with one more repetition in front. -/
theorem append_mem_star {pattern : RegularExpression Char} {front back : List Char}
    (hfront : front ∈ pattern.matches') (hback : back ∈ pattern.star.matches') :
    front ++ back ∈ pattern.star.matches' := by
  rw [RegularExpression.matches'_star, Language.mem_kstar] at hback ⊢
  obtain ⟨parts, rfl, hparts⟩ := hback
  exact ⟨front :: parts, rfl, List.forall_mem_cons.mpr ⟨hfront, hparts⟩⟩

/-- What holds of the empty text, and with one more repetition in front whenever it holds of the
others, holds of all that the star of a pattern matches. -/
theorem star_induction {pattern : RegularExpression Char} {motive : List Char → Prop}
    (hnil : motive [])
    (happend : ∀ front back, front ∈ pattern.matches' → motive back → motive (front ++ back))
    (hs : s ∈ pattern.star.matches') : motive s := by
  rw [RegularExpression.matches'_star, Language.mem_kstar] at hs
  obtain ⟨parts, rfl, hparts⟩ := hs
  induction parts with
  | nil => exact hnil
  | cons front parts ih =>
    obtain ⟨hfront, hparts⟩ := List.forall_mem_cons.mp hparts
    exact happend front parts.flatten hfront (ih hparts)

/-! ### Classes of characters -/

/-- The characters between two characters, both of them included. -/
def between (low high : Char) : List Char :=
  ((List.range (high.toNat + 1)).map Char.ofNat).filter fun c ↦ low ≤ c ∧ c ≤ high

/-- The pattern of one of several characters. -/
def oneOf (characters : List Char) : RegularExpression Char := (characters.map char).sum

/-- The characters of a range are those that lie between its ends. -/
theorem mem_between {low high c : Char} : c ∈ between low high ↔ low ≤ c ∧ c ≤ high := by
  rw [between, List.mem_filter, decide_eq_true_eq, and_iff_right_of_imp]
  rintro ⟨-, hhigh⟩
  have hnumber : c.toNat < high.toNat + 1 := Nat.lt_succ_of_le hhigh
  exact List.mem_map.mpr ⟨c.toNat, List.mem_range.mpr hnumber, Char.ofNat_toNat c⟩

/-- The pattern of several characters matches each of them alone. -/
theorem mem_oneOf {characters : List Char} :
    s ∈ (oneOf characters).matches' ↔ ∃ c ∈ characters, s = [c] := by
  unfold oneOf
  induction characters with
  | nil => simp
  | cons first rest ih =>
    rw [List.map_cons, List.sum_cons, RegularExpression.matches'_add, Language.mem_add, mem_char,
      ih, List.exists_mem_cons_iff]

/-- Any number of characters of a class is matched by the star of its pattern. -/
theorem mem_star_oneOf {characters : List Char} :
    s ∈ (oneOf characters).star.matches' ↔ ∀ c ∈ s, c ∈ characters := by
  rw [RegularExpression.matches'_star, Language.mem_kstar]
  constructor
  · rintro ⟨parts, rfl, hparts⟩ c hc
    obtain ⟨part, hpart, hc⟩ := List.mem_flatten.mp hc
    obtain ⟨other, hother, rfl⟩ := mem_oneOf.mp (hparts part hpart)
    rwa [List.mem_singleton.mp hc]
  · intro hcharacters
    refine ⟨s.map fun c ↦ [c], ?_, fun part hpart ↦ ?_⟩
    · rw [← List.flatMap_def]
      exact (List.flatMap_singleton' s).symm
    · obtain ⟨c, hc, rfl⟩ := List.mem_map.mp hpart
      exact mem_oneOf.mpr ⟨c, hcharacters c hc, rfl⟩

/-- One character of a class, and any number of characters of another. -/
theorem mem_oneOf_mul_star {starts parts : List Char} :
    s ∈ (oneOf starts * (oneOf parts).star).matches' ↔
      ∃ first rest, s = first :: rest ∧ first ∈ starts ∧ ∀ c ∈ rest, c ∈ parts := by
  rw [mem_mul]
  simp only [mem_oneOf, mem_star_oneOf]
  constructor
  · rintro ⟨_, rest, rfl, ⟨first, hfirst, rfl⟩, hrest⟩
    exact ⟨first, rest, rfl, hfirst, hrest⟩
  · rintro ⟨first, rest, rfl, hfirst, hrest⟩
    exact ⟨[first], rest, rfl, ⟨first, hfirst, rfl⟩, hrest⟩

/-! ### Type names -/

/-- The letters and the underscore: `[A-Za-z_]`. -/
def wordStarts : List Char := between 'A' 'Z' ++ between 'a' 'z' ++ ['_']

/-- The letters, the digits and the underscore: `[A-Za-z0-9_]`. -/
def wordParts : List Char := between 'A' 'Z' ++ between 'a' 'z' ++ between '0' '9' ++ ['_']

/-- The pattern of a word: `[A-Za-z_][A-Za-z0-9_]*`. -/
def wordPattern : RegularExpression Char := oneOf wordStarts * (oneOf wordParts).star

/-- The pattern of a number: `[0-9]+`. -/
def numberPattern : RegularExpression Char :=
  oneOf (between '0' '9') * (oneOf (between '0' '9')).star

/-- The pattern of the second number of a modifier: `, ?[0-9]+`. -/
def scalePattern : RegularExpression Char := char ',' * optional (char ' ') * numberPattern

/-- The pattern of a modifier: `\([0-9]+(, ?[0-9]+)?\)`. -/
def modifierPattern : RegularExpression Char :=
  char '(' * numberPattern * optional scalePattern * char ')'

/-- The pattern of a type name:
`[A-Za-z_][A-Za-z0-9_]*( [A-Za-z_][A-Za-z0-9_]*)*(\([0-9]+(, ?[0-9]+)?\))?(\[\])*`. -/
def typePattern : RegularExpression Char :=
  wordPattern * (char ' ' * wordPattern).star * optional modifierPattern *
    (char '[' * char ']').star

/-- The characters of `[A-Za-z_]` are those that start a word. -/
theorem mem_wordStarts {c : Char} : c ∈ wordStarts ↔ StartsWord c := by
  simp only [wordStarts, List.mem_append, List.mem_singleton, mem_between, StartsWord, IsLetter]
  rw [or_comm (a := 'A' ≤ c ∧ c ≤ 'Z')]

/-- The characters of `[A-Za-z0-9_]` are those that continue a word. -/
theorem mem_wordParts {c : Char} : c ∈ wordParts ↔ ContinuesWord c := by
  simp only [wordParts, List.mem_append, List.mem_singleton, mem_between, ContinuesWord, IsLetter,
    IsDigit, or_assoc]
  exact or_left_comm

/-- The pattern of a word matches the words. -/
theorem mem_wordPattern : s ∈ wordPattern.matches' ↔ Word s := by
  rw [wordPattern, mem_oneOf_mul_star]
  simp only [mem_wordStarts, mem_wordParts]
  rfl

/-- The pattern of a number matches the numbers. -/
theorem mem_numberPattern : s ∈ numberPattern.matches' ↔ Number s := by
  rw [numberPattern, mem_oneOf_mul_star]
  simp only [mem_between]
  constructor
  · rintro ⟨first, rest, rfl, hfirst, hrest⟩
    exact ⟨List.cons_ne_nil _ _, List.forall_mem_cons.mpr ⟨hfirst, hrest⟩⟩
  · rintro ⟨hsome, hdigits⟩
    obtain ⟨first, rest, rfl⟩ := List.exists_cons_of_ne_nil hsome
    obtain ⟨hfirst, hrest⟩ := List.forall_mem_cons.mp hdigits
    exact ⟨first, rest, rfl, hfirst, hrest⟩

/-- Words with one space between neighbours are matched by a word and the star of a word behind a
space. -/
theorem mem_wordsPattern :
    s ∈ (wordPattern * (char ' ' * wordPattern).star).matches' ↔ Words s := by
  rw [mem_mul]
  constructor
  · rintro ⟨word, back, rfl, hword, hback⟩
    -- Induction on the repetitions: each of them begins with a space and then a word, which takes
    -- the place of the word in front.
    have hbehind : ∀ word, Word word → Words (word ++ back) := by
      refine star_induction (motive := fun back ↦ ∀ word, Word word → Words (word ++ back))
        (fun word hword ↦ ?_) (fun front back hfront ih word hword ↦ ?_) hback
      · rw [List.append_nil]
        exact .last hword
      · obtain ⟨next, rfl, hnext⟩ := mem_char_mul.mp hfront
        exact .next hword (ih next (mem_wordPattern.mp hnext))
    exact hbehind word (mem_wordPattern.mp hword)
  · intro hwords
    induction hwords with
    | @last word hword =>
      exact ⟨word, [], word.append_nil.symm, mem_wordPattern.mpr hword, nil_mem_star _⟩
    | @next word rest hword hrest ih =>
      obtain ⟨second, back, rfl, hsecond, hback⟩ := ih
      exact ⟨word, ' ' :: (second ++ back), rfl, mem_wordPattern.mpr hword,
        append_mem_star (mem_char_mul.mpr ⟨second, rfl, hsecond⟩) hback⟩

/-- Pairs of brackets are matched by the star of one pair. -/
theorem mem_bracketsPattern : s ∈ (char '[' * char ']').star.matches' ↔ Brackets s := by
  have hpair {pair : List Char} : pair ∈ (char '[' * char ']').matches' ↔ pair = ['[', ']'] := by
    simp only [mem_char_mul, mem_char, exists_eq_right]
  constructor
  · refine star_induction .none fun pair back hbracket hback ↦ ?_
    rw [hpair.mp hbracket]
    exact .pair hback
  · intro hbrackets
    induction hbrackets with
    | none => exact nil_mem_star _
    | pair hrest ih => exact append_mem_star (hpair.mpr rfl) ih

/-- The second number of a modifier is matched with the comma in front of it, and with one space
between them if it has one. -/
theorem mem_scalePattern :
    s ∈ scalePattern.matches' ↔
      ∃ scale, Number scale ∧ (s = ',' :: scale ∨ s = ',' :: ' ' :: scale) := by
  rw [scalePattern]
  constructor
  · intro hmatched
    obtain ⟨comma, scale, rfl, hcomma, hscale⟩ := mem_mul.mp hmatched
    obtain ⟨blank, rfl, hblank⟩ := mem_char_mul.mp hcomma
    refine ⟨scale, mem_numberPattern.mp hscale, ?_⟩
    obtain hblank | rfl := mem_optional.mp hblank
    · obtain rfl := mem_char.mp hblank
      exact .inr rfl
    · exact .inl rfl
  · rintro ⟨scale, hscale, hs⟩
    have hbehind {blank : List Char} (hblank : blank ∈ (optional (char ' ')).matches') :
        ',' :: blank ++ scale ∈ (char ',' * optional (char ' ') * numberPattern).matches' :=
      append_mem_mul (mem_char_mul.mpr ⟨blank, rfl, hblank⟩) (mem_numberPattern.mpr hscale)
    obtain rfl | rfl := hs
    · exact hbehind (nil_mem_optional _)
    · exact hbehind (mem_optional.mpr (.inl (mem_char.mpr rfl)))

/-- One number in parentheses, or two with a comma between them, are matched as a modifier. -/
theorem mem_modifierPattern : s ∈ modifierPattern.matches' ↔ Modifier s := by
  rw [modifierPattern]
  constructor
  · intro hmodifier
    obtain ⟨opened, close, rfl, hopened, hclose⟩ := mem_mul.mp hmodifier
    obtain ⟨front, second, rfl, hfront, hsecond⟩ := mem_mul.mp hopened
    obtain ⟨precision, rfl, hprecision⟩ := mem_char_mul.mp hfront
    obtain rfl := mem_char.mp hclose
    rw [mem_numberPattern] at hprecision
    obtain hsecond | rfl := mem_optional.mp hsecond
    · obtain ⟨scale, hscale, rfl | rfl⟩ := mem_scalePattern.mp hsecond
      · simpa using Modifier.scale hprecision hscale
      · simpa using Modifier.spacedScale hprecision hscale
    · simpa using Modifier.precision hprecision
  · intro hmodifier
    have hclosed {precision second : List Char} (hprecision : Number precision)
        (hsecond : second ∈ (optional scalePattern).matches') :
        '(' :: precision ++ (second ++ [')']) ∈
          (char '(' * numberPattern * optional scalePattern * char ')').matches' := by
      have hfront : '(' :: precision ∈ (char '(' * numberPattern).matches' :=
        mem_char_mul.mpr ⟨precision, rfl, mem_numberPattern.mpr hprecision⟩
      rw [← List.append_assoc]
      exact append_mem_mul (append_mem_mul hfront hsecond) (mem_char.mpr rfl)
    have hscaled {second : List Char} (hsecond : second ∈ scalePattern.matches') :
        second ∈ (optional scalePattern).matches' := mem_optional.mpr (.inl hsecond)
    cases hmodifier with
    | precision hprecision => exact hclosed hprecision (nil_mem_optional scalePattern)
    | scale hprecision hscale =>
      exact hclosed hprecision (hscaled (mem_scalePattern.mpr ⟨_, hscale, .inl rfl⟩))
    | spacedScale hprecision hscale =>
      exact hclosed hprecision (hscaled (mem_scalePattern.mpr ⟨_, hscale, .inr rfl⟩))

/-- What the pattern of a type name matches are the type names. -/
theorem mem_typePattern : s ∈ typePattern.matches' ↔ TypeName s := by
  rw [typePattern]
  constructor
  · intro hname
    obtain ⟨front, brackets, rfl, hfront, hbrackets⟩ := mem_mul.mp hname
    obtain ⟨words, modifier, rfl, hwords, hmodifier⟩ := mem_mul.mp hfront
    rw [mem_wordsPattern] at hwords
    rw [mem_bracketsPattern] at hbrackets
    refine ⟨words, modifier ++ brackets, List.append_assoc .., hwords, ?_⟩
    obtain hmodifier | rfl := mem_optional.mp hmodifier
    · exact .modified (mem_modifierPattern.mp hmodifier) hbrackets
    · exact .plain hbrackets
  · rintro ⟨words, suffix, rfl, hwords, hsuffix⟩
    cases hsuffix with
    | plain hbrackets =>
      have hwhole := append_mem_mul (append_mem_mul (mem_wordsPattern.mpr hwords)
        (nil_mem_optional modifierPattern)) (mem_bracketsPattern.mpr hbrackets)
      rwa [List.append_nil] at hwhole
    | modified hmodifier hbrackets =>
      have hwhole := append_mem_mul (append_mem_mul (mem_wordsPattern.mpr hwords)
        (mem_optional.mpr (.inl (mem_modifierPattern.mpr hmodifier))))
        (mem_bracketsPattern.mpr hbrackets)
      rwa [List.append_assoc] at hwhole

/-- The reader of type names accepts exactly the texts that the pattern matches as a whole. -/
theorem isTypeName_iff_mem_typePattern (characters : List Char) :
    isTypeName characters = true ↔ characters ∈ typePattern.matches' := by
  rw [mem_typePattern]
  exact TypePosition.accepts_iff .start characters

end BoundSql.Text
