import BoundSql.Roster
import Mathlib.Data.List.Induction

/-!
# Many visits

A roster lists the relations in the order of their first visits: from the empty roster, a run of
visits lists the visited relations without their repetitions (`Roster.members_visitAll_empty`). A
relation keeps its alias whatever is visited later (`Roster.aliasOf_visitAll_of_mem`). Aliases are
words over the small letters `a` to `z` (`isLower_of_mem_aliasWord`) with at least one letter
(`aliasWord_ne_empty`).
-/

set_option autoImplicit false
set_option relaxedAutoImplicit false

namespace BoundSql

/-! ### Letters of an alias -/

/-- The letters of aliases are small. -/
theorem isLower_aliasLetter {position : Nat} (hposition : position < 26) :
    (aliasLetter position).isLower = true := by
  have hletters : ∀ place : Fin 26, (aliasLetter place).isLower = true := by decide
  exact hletters ⟨position, hposition⟩

/-- An alias consists of small letters. -/
theorem isLower_of_mem_aliasLetters (index : Nat) (tail : List Char)
    (htail : ∀ c ∈ tail, c.isLower = true) : ∀ c ∈ aliasLetters index tail, c.isLower = true := by
  fun_induction aliasLetters index tail with
  | case1 index tail hsmall =>
    intro c hc
    rcases List.mem_cons.mp hc with rfl | hc
    · exact isLower_aliasLetter hsmall
    · exact htail c hc
  | case2 index tail hlarge ih =>
    apply ih
    intro c hc
    rcases List.mem_cons.mp hc with rfl | hc
    · exact isLower_aliasLetter (Nat.mod_lt _ (by decide))
    · exact htail c hc

/-- Aliases are written with small letters only. -/
theorem isLower_of_mem_aliasWord {index : Nat} {c : Char} (hc : c ∈ (aliasWord index).toList) :
    c.isLower = true := by
  rw [aliasWord, String.toList_ofList] at hc
  exact isLower_of_mem_aliasLetters index [] (by simp) c hc

theorem aliasLetters_ne_nil (index : Nat) (tail : List Char) : aliasLetters index tail ≠ [] := by
  fun_induction aliasLetters index tail with
  | case1 => exact List.cons_ne_nil _ _
  | case2 index tail hlarge ih => exact ih

/-- No alias is empty. -/
theorem aliasWord_ne_empty (index : Nat) : aliasWord index ≠ "" := by
  intro hempty
  have hnil := congrArg String.toList hempty
  rw [aliasWord, String.toList_ofList] at hnil
  exact aliasLetters_ne_nil index [] hnil

namespace Roster

/-! ### Runs of visits -/

/-- Visits relations one after the other. -/
def visitAll (roster : Roster) (relations : List Identity) : Roster := relations.foldl visit roster

theorem visitAll_nil (roster : Roster) : roster.visitAll [] = roster := rfl

theorem visitAll_cons (roster : Roster) (first : Identity) (rest : List Identity) :
    roster.visitAll (first :: rest) = (roster.visit first).visitAll rest := rfl

/-- Visits in two turns are visits in one. -/
theorem visitAll_append (roster : Roster) (earlier later : List Identity) :
    roster.visitAll (earlier ++ later) = (roster.visitAll earlier).visitAll later :=
  List.foldl_append

/-- What is listed stays listed. -/
theorem mem_members_visit_of_mem {roster : Roster} {relation : Identity} (other : Identity)
    (hlisted : relation ∈ roster.members) : relation ∈ (roster.visit other).members := by
  by_cases hother : other ∈ roster.members
  · rwa [visit_eq_self hother]
  · rw [members_visit hother]
    exact List.mem_append_left _ hlisted

/-- Later visits change no alias that has been handed out. -/
theorem aliasOf_visitAll_of_mem {roster : Roster} {relation : Identity}
    (relations : List Identity) (hlisted : relation ∈ roster.members) :
    (roster.visitAll relations).aliasOf relation = roster.aliasOf relation := by
  induction relations generalizing roster with
  | nil => rfl
  | cons first rest ih =>
    rw [visitAll_cons, ih (mem_members_visit_of_mem first hlisted),
      aliasOf_visit_of_mem first hlisted]

/-- From nothing, a run of visits lists what it visits, each relation at its first visit. -/
theorem members_visitAll_empty (relations : List Identity) :
    (empty.visitAll relations).members = relations.eraseDups := by
  induction relations using List.reverseRecOn with
  | nil => rfl
  | append_singleton earlier last ih =>
    rw [visitAll_append, visitAll_cons, visitAll_nil, List.eraseDups_append]
    by_cases hlast : last ∈ earlier
    · rw [visit_eq_self (by rw [ih]; exact List.mem_eraseDups.mpr hlast), ih]
      simp [List.removeAll, hlast]
    · rw [members_visit (by rw [ih]; exact fun h ↦ hlast (List.mem_eraseDups.mp h)), ih]
      simp [List.removeAll, hlast, List.eraseDups_cons]

end Roster

end BoundSql
