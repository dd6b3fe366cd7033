import BoundSql.Proofs.RosterVisits
import Mathlib.Data.List.Basic

/-!
# Aliases tell relations apart

A word over the small letters is the numeral of its place among all such words, the shorter ones
first, so no two places have the same word (`aliasWord_injective`). Hence relations that a roster
lists have different aliases (`Roster.aliasOf_inj`). Visits to relations that are listed already
change nothing (`Roster.visitAll_eq_self`).
-/

set_option autoImplicit false
set_option relaxedAutoImplicit false

namespace BoundSql

/-! ### Words as numerals -/

/-- The number of a word, read as a numeral with the digits one to twenty-six, behind the number
that has been read already. -/
def wordNumber (earlier : Nat) (letters : List Char) : Nat :=
  letters.foldl (fun number c ↦ 26 * number + (c.toNat - 'a'.toNat + 1)) earlier

theorem toNat_aliasLetter {position : Nat} (hposition : position < 26) :
    (aliasLetter position).toNat - 'a'.toNat = position := by
  have hletters : ∀ place : Fin 26, (aliasLetter place).toNat - 'a'.toNat = place := by decide
  exact hletters ⟨position, hposition⟩

theorem wordNumber_aliasLetters (index : Nat) (tail : List Char) :
    wordNumber 0 (aliasLetters index tail) = wordNumber (index + 1) tail := by
  fun_induction aliasLetters index tail with
  | case1 index tail hsmall =>
    rw [wordNumber, List.foldl_cons, toNat_aliasLetter hsmall, Nat.mul_zero, Nat.zero_add]
    rfl
  | case2 index tail hlarge ih =>
    have hdigit : 26 * (index / 26 - 1 + 1) + (index % 26 + 1) = index + 1 := by omega
    rw [ih, wordNumber, List.foldl_cons, toNat_aliasLetter (Nat.mod_lt _ (by decide)), hdigit]
    rfl

/-- No two places have the same alias. -/
theorem aliasWord_injective : Function.Injective aliasWord := by
  intro index other hsame
  have hletters : aliasLetters index [] = aliasLetters other [] := by
    rw [← String.toList_ofList (l := aliasLetters index []),
      ← String.toList_ofList (l := aliasLetters other [])]
    exact congrArg String.toList hsame
  have hnumbers := congrArg (wordNumber 0) hletters
  rw [wordNumber_aliasLetters, wordNumber_aliasLetters] at hnumbers
  exact Nat.succ.inj hnumbers

namespace Roster

/-- Listed relations with the same alias are the same. -/
theorem aliasOf_inj {roster : Roster} {relation other : Identity}
    (hlisted : relation ∈ roster.members) :
    roster.aliasOf relation = roster.aliasOf other ↔ relation = other := by
  refine ⟨fun hsame ↦ ?_, fun hsame ↦ by rw [hsame]⟩
  exact (List.idxOf_inj hlisted).mp (aliasWord_injective hsame)

/-- Visits to listed relations change nothing. -/
theorem visitAll_eq_self {roster : Roster} {relations : List Identity}
    (hlisted : ∀ relation ∈ relations, relation ∈ roster.members) :
    roster.visitAll relations = roster := by
  induction relations with
  | nil => rfl
  | cons first rest ih =>
    obtain ⟨hfirst, hrest⟩ := List.forall_mem_cons.mp hlisted
    rw [visitAll_cons, visit_eq_self hfirst, ih hrest]

end Roster

end BoundSql
