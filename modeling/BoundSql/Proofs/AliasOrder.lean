import BoundSql.Proofs.AliasWords
import Mathlib.Data.List.Shortlex
import Mathlib.Data.Nat.PSub

/-!
# Aliases in their order

Aliases are the words over `a` to `z` in shortlex order: the shorter ones first, and words of one
length alphabetically. No word is left out, and the place of a word is the number that it spells as
a numeral with the digits one to twenty-six, less one. There is no digit zero, so a word of one
letter more follows on `z`, `zz` and `zzz`.

The letters of an alias are found from the last one on, by a count that takes one off a number and
divides it by twenty-six until nothing is left (`AliasCount`). In numbers that have a largest one
the count needs the successor of the index and predecessors of what is left; both exist for every
index below the largest number, and the count ends with the alias (`AliasCount.spells_iff`).

All this together is `aliasWord_shortlex_numbering`.
-/

set_option autoImplicit false
set_option relaxedAutoImplicit false

namespace BoundSql

/-! ### The last letter of an alias -/

/-- The letters of a number are put in front of those that are there. -/
theorem aliasLetters_append (index : Nat) (tail : List Char) :
    aliasLetters index tail = aliasLetters index [] ++ tail := by
  induction index using Nat.strongRecOn generalizing tail with
  | ind index ih =>
    rw [aliasLetters.eq_1 index tail, aliasLetters.eq_1 index []]
    by_cases hsmall : index < 26
    · rw [if_pos hsmall, if_pos hsmall, List.singleton_append]
    · have hearlier : index / 26 - 1 < index := by omega
      rw [if_neg hsmall, if_neg hsmall, ih _ hearlier, ih _ hearlier [aliasLetter (index % 26)],
        List.append_assoc, List.singleton_append]

/-- The first aliases have one letter. -/
theorem aliasLetters_of_lt {position : Nat} (hposition : position < 26) :
    aliasLetters position [] = [aliasLetter position] := by
  rw [aliasLetters, if_pos hposition]

/-- The longer aliases are the shorter ones in order, each with every letter behind it. -/
theorem aliasLetters_round (earlier : Nat) {position : Nat} (hposition : position < 26) :
    aliasLetters (26 * (earlier + 1) + position) [] =
      aliasLetters earlier [] ++ [aliasLetter position] := by
  have hlarge : ¬26 * (earlier + 1) + position < 26 := by omega
  have hquotient : (26 * (earlier + 1) + position) / 26 - 1 = earlier := by omega
  have hremainder : (26 * (earlier + 1) + position) % 26 = position := by omega
  rw [aliasLetters, if_neg hlarge, hquotient, hremainder, aliasLetters_append]

/-- An index is the position of a letter, or the last letter stands behind an earlier alias. -/
theorem exists_round (index : Nat) :
    index < 26 ∨ ∃ earlier position, position < 26 ∧ index = 26 * (earlier + 1) + position := by
  by_cases hsmall : index < 26
  · exact .inl hsmall
  · exact .inr ⟨index / 26 - 1, index % 26, Nat.mod_lt _ (by decide), by omega⟩

/-! ### Shortlex order -/

/-- The letters are in their order. -/
theorem aliasLetter_lt {first second : Nat} (hlt : first < second) (hsecond : second < 26) :
    aliasLetter first < aliasLetter second := by
  have hfirst := toNat_aliasLetter (hlt.trans hsecond)
  have hother := toNat_aliasLetter hsecond
  have hnumbers : (aliasLetter first).toNat < (aliasLetter second).toNat := by omega
  exact Char.lt_def.mpr (UInt32.lt_iff_toNat_lt.mpr hnumbers)

/-- Words of one length that differ in order keep it whatever is put behind them. -/
theorem lex_append_of_length_eq {first second : List Char}
    (hlex : List.Lex (· < ·) first second) (hlength : first.length = second.length)
    (behind other : List Char) : List.Lex (· < ·) (first ++ behind) (second ++ other) := by
  induction hlex with
  | nil => exact absurd hlength (by simp)
  | rel hlt => exact .rel hlt
  | cons _ ih => exact .cons (ih (Nat.succ.inj hlength))

/-- Words in order stay so whatever last letters are added. -/
theorem shortlex_concat {first second : List Char} (hshortlex : List.Shortlex (· < ·) first second)
    (c d : Char) : List.Shortlex (· < ·) (first ++ [c]) (second ++ [d]) := by
  obtain hlength | ⟨hlength, hlex⟩ := List.shortlex_def.mp hshortlex
  · apply List.Shortlex.of_length_lt
    simpa using hlength
  · refine List.Shortlex.of_lex ?_ (lex_append_of_length_eq hlex hlength [c] [d])
    simpa using hlength

/-- A later alias comes later in shortlex order. -/
theorem shortlex_aliasLetters {index other : Nat} (hlt : index < other) :
    List.Shortlex (· < ·) (aliasLetters index []) (aliasLetters other []) := by
  induction other using Nat.strongRecOn generalizing index with
  | ind other ih =>
    obtain hother | ⟨later, second, hsecond, rfl⟩ := exists_round other
    · -- Both are letters.
      rw [aliasLetters_of_lt hother, aliasLetters_of_lt (hlt.trans hother),
        List.shortlex_singleton_iff]
      exact aliasLetter_lt hlt hother
    obtain hindex | ⟨earlier, first, hfirst, rfl⟩ := exists_round index
    · -- A letter is shorter than any alias of another round.
      have hfront := List.length_pos_of_ne_nil (aliasLetters_ne_nil later [])
      apply List.Shortlex.of_length_lt
      rw [aliasLetters_of_lt hindex, aliasLetters_round later hsecond, List.length_append,
        List.length_singleton, List.length_singleton]
      omega
    · rw [aliasLetters_round earlier hfirst, aliasLetters_round later hsecond]
      -- The fronts decide, and the last letters only where the fronts are the same.
      obtain hfront | rfl : earlier < later ∨ earlier = later := by omega
      · exact shortlex_concat (ih later (by omega) hfront) _ _
      · have hletter : aliasLetter first < aliasLetter second := aliasLetter_lt (by omega) hsecond
        exact ((List.shortlex_singleton_iff _ _).mpr hletter).append_left _

/-- Aliases are ordered as the numbers that they stand for, by length and then by letters. -/
theorem shortlex_aliasLetters_iff (index other : Nat) :
    List.Shortlex (· < ·) (aliasLetters index []) (aliasLetters other []) ↔ index < other := by
  refine ⟨fun hshortlex ↦ ?_, shortlex_aliasLetters⟩
  by_contra hnot
  obtain hlt | rfl : other < index ∨ other = index := by omega
  · exact Std.Asymm.asymm _ _ hshortlex (shortlex_aliasLetters hlt)
  · exact Std.Asymm.asymm _ _ hshortlex hshortlex

/-! ### Every word is an alias -/

/-- Every small letter is the letter of a position. -/
theorem exists_aliasLetter {c : Char} (hc : c.isLower = true) :
    ∃ position < 26, aliasLetter position = c := by
  obtain ⟨hfirst, hlast⟩ := Bool.and_eq_true_iff.mp hc
  have hlower : 'a'.toNat ≤ c.toNat := UInt32.le_iff_toNat_le.mp (of_decide_eq_true hfirst)
  have hupper : c.toNat ≤ 'a'.toNat + 25 := UInt32.le_iff_toNat_le.mp (of_decide_eq_true hlast)
  refine ⟨c.toNat - 'a'.toNat, by omega, ?_⟩
  rw [aliasLetter, Nat.add_sub_cancel' hlower, Char.ofNat_toNat]

/-- The last letter of a word counts by itself, the others by the number of letters. -/
theorem wordNumber_concat (front : List Char) {position : Nat} (hposition : position < 26) :
    wordNumber 0 (front ++ [aliasLetter position]) = 26 * wordNumber 0 front + (position + 1) := by
  rw [wordNumber, List.foldl_append, List.foldl_cons, List.foldl_nil, toNat_aliasLetter hposition]
  rfl

/-- A word of small letters is the alias whose index it numbers. -/
theorem exists_aliasLetters_eq {word : List Char} (hword : word ≠ [])
    (hletters : ∀ c ∈ word, c.isLower = true) :
    ∃ index, wordNumber 0 word = index + 1 ∧ aliasLetters index [] = word := by
  induction word using List.reverseRecOn with
  | nil => exact absurd rfl hword
  | append_singleton front last ih =>
    obtain ⟨hfront, hlast⟩ := List.forall_mem_append.mp hletters
    have hlower : last.isLower = true := hlast last (List.mem_singleton_self last)
    obtain ⟨position, hposition, rfl⟩ := exists_aliasLetter hlower
    rw [wordNumber_concat front hposition]
    by_cases hempty : front = []
    · refine ⟨position, ?_, ?_⟩
      · rw [hempty, wordNumber, List.foldl_nil, Nat.mul_zero, Nat.zero_add]
      · rw [hempty, List.nil_append, aliasLetters_of_lt hposition]
    · obtain ⟨earlier, hnumber, hsame⟩ := ih hempty hfront
      refine ⟨26 * (earlier + 1) + position, ?_, ?_⟩
      · rw [hnumber, Nat.add_assoc]
      · rw [aliasLetters_round earlier hposition, hsame]

/-! ### Counting in numbers with a largest one -/

/-- A count on its way to an alias. -/
structure AliasCount where
  /-- The number that is left. -/
  left : Nat
  /-- The letters found so far, the last letter of the alias first. -/
  letters : List Char

namespace AliasCount

/-- The count for an index begins at its successor. In numbers up to `largest` there is none for
the largest one. -/
def start? (largest index : Nat) : Option AliasCount :=
  if index + 1 ≤ largest then some ⟨index + 1, []⟩ else none

/-- One round of a count takes one off and divides by the number of letters: the remainder is a
letter, and the quotient is left. Nothing can be taken off zero. -/
def round? (count : AliasCount) : Option AliasCount :=
  count.left.ppred.map fun less ↦ ⟨less / 26, count.letters ++ [aliasLetter (less % 26)]⟩

/-- The rounds of a count end, none of them fails, and the letters spell the word backwards. A round
is made as long as something is left. -/
inductive Spells : AliasCount → String → Prop where
  | finished (letters : List Char) : Spells ⟨0, letters⟩ (String.ofList letters.reverse)
  | round {count next : AliasCount} {word : String} (hleft : 0 < count.left)
      (hround : count.round? = some next) (hrest : next.Spells word) : Spells count word

variable {count : AliasCount} {word other : String}

theorem round?_succ (less : Nat) (letters : List Char) :
    round? ⟨less + 1, letters⟩ = some ⟨less / 26, letters ++ [aliasLetter (less % 26)]⟩ := rfl

/-- A count has one outcome. -/
theorem Spells.unique (hword : count.Spells word) (hother : count.Spells other) :
    word = other := by
  induction hword with
  | finished letters =>
    cases hother with
    | finished => rfl
    | round hleft => exact absurd hleft (Nat.lt_irrefl 0)
  | round hleft hround _ ih =>
    cases hother with
    | finished => exact absurd hleft (Nat.lt_irrefl 0)
    | round _ hagain hrest =>
      obtain rfl := Option.some.inj (hround.symm.trans hagain)
      exact ih hrest

/-- From the successor of an index a count puts the letters of its alias in front of those that are
found already. -/
theorem spells_aliasLetters (index : Nat) (letters : List Char) :
    Spells ⟨index + 1, letters⟩ (String.ofList (aliasLetters index letters.reverse)) := by
  induction index using Nat.strongRecOn generalizing letters with
  | ind index ih =>
    refine .round (Nat.succ_pos index) (round?_succ index letters) ?_
    rw [aliasLetters.eq_1 index letters.reverse]
    by_cases hsmall : index < 26
    · rw [if_pos hsmall, Nat.div_eq_of_lt hsmall, Nat.mod_eq_of_lt hsmall, ← List.reverse_concat]
      exact .finished _
    · obtain ⟨earlier, hearlier⟩ : ∃ earlier, index / 26 = earlier + 1 :=
        ⟨index / 26 - 1, by omega⟩
      rw [if_neg hsmall, ← List.reverse_concat, hearlier, Nat.add_sub_cancel]
      exact ih earlier (by omega) _

/-- Below the largest number the count of an index can start, and it ends with the alias. -/
theorem spells_iff {largest index : Nat} (hindex : index < largest) :
    ∃ start, start? largest index = some start ∧
      ∀ word, start.Spells word ↔ word = aliasWord index := by
  have hspells : Spells ⟨index + 1, []⟩ (aliasWord index) := spells_aliasLetters index []
  refine ⟨⟨index + 1, []⟩, if_pos hindex, fun word ↦ ⟨fun hword ↦ hword.unique hspells, ?_⟩⟩
  rintro rfl
  exact hspells

end AliasCount

/-! ### The numbering -/

/-- Whatever the largest number, the count of every index below it ends with the alias of the index.
Aliases are words of one or more small letters, a lower index has the alias that is strictly before
in shortlex order, and no two indexes have the same alias. Every word of small letters is an alias:
the one at the number that it spells, less one. -/
theorem aliasWord_shortlex_numbering (largest : Nat) :
    (∀ index < largest, ∃ start, AliasCount.start? largest index = some start ∧
        ∀ word, start.Spells word ↔ word = aliasWord index) ∧
      (∀ index, aliasWord index ≠ "" ∧ ∀ c ∈ (aliasWord index).toList, c.isLower = true) ∧
      (∀ index other, List.Shortlex (· < ·) (aliasWord index).toList (aliasWord other).toList ↔
        index < other) ∧
      Function.Injective aliasWord ∧
      ∀ word : String, word ≠ "" → (∀ c ∈ word.toList, c.isLower = true) →
        0 < wordNumber 0 word.toList ∧ aliasWord (wordNumber 0 word.toList - 1) = word := by
  refine ⟨fun index ↦ AliasCount.spells_iff, fun index ↦ ?_, fun index other ↦ ?_,
    aliasWord_injective, fun word hword hletters ↦ ?_⟩
  · exact ⟨aliasWord_ne_empty index, fun c ↦ isLower_of_mem_aliasWord⟩
  · rw [aliasWord, aliasWord, String.toList_ofList, String.toList_ofList]
    exact shortlex_aliasLetters_iff index other
  · have hnonempty : word.toList ≠ [] := fun hnil ↦ hword (String.toList_eq_nil_iff.mp hnil)
    obtain ⟨index, hnumber, hsame⟩ := exists_aliasLetters_eq hnonempty hletters
    rw [hnumber, Nat.add_sub_cancel, aliasWord, hsame, String.ofList_toList]
    exact ⟨Nat.succ_pos index, rfl⟩

/-- The carry from `zz` to `aaa` in numbers of 64 bits. -/
theorem aliasWord_shortlex_numbering_carry :
    aliasWord 701 = "zz" ∧ aliasWord 702 = "aaa" ∧
      List.Shortlex (· < ·) (aliasWord 701).toList (aliasWord 702).toList ∧
      ∃ start, AliasCount.start? (2 ^ 64 - 1) 702 = some start ∧ start.Spells "aaa" := by
  obtain ⟨hcounts, -, hshortlex, -, hwords⟩ := aliasWord_shortlex_numbering (2 ^ 64 - 1)
  have hlast : aliasWord 701 = "zz" :=
    (hwords "zz" (by decide) (List.all_eq_true.mp (by decide))).2
  have hnext : aliasWord 702 = "aaa" :=
    (hwords "aaa" (by decide) (List.all_eq_true.mp (by decide))).2
  obtain ⟨start, hstart, hspells⟩ := hcounts 702 (by decide)
  exact ⟨hlast, hnext, (hshortlex 701 702).mpr (by decide), start, hstart,
    (hspells "aaa").mpr hnext.symm⟩

end BoundSql
