/-!
# Aliases

Inside a statement every relation goes by a generated alias. Relations are told apart by their
identity, not by their name. A `Roster` lists the relations met so far in the order of their first
visits, and the place of a relation on it decides its alias: `aliasWord` counts through the words
over `a` to `z`, the shorter ones first and words of one length alphabetically.
-/

set_option autoImplicit false
set_option relaxedAutoImplicit false

namespace BoundSql

/-! ### Identities -/

/-- The identity of a relation. Two relations may have the same name and still be two. -/
structure Identity where
  /-- The number that tells the relation from all others. -/
  number : Nat
deriving DecidableEq, Repr, Inhabited

/-- A source of identities that have not been handed out before. -/
structure IdentitySupply where
  /-- How many identities have been handed out. -/
  used : Nat := 0
deriving DecidableEq, Repr, Inhabited

/-- The next identity, and the supply without it. -/
def IdentitySupply.fresh (supply : IdentitySupply) : Identity × IdentitySupply :=
  (⟨supply.used⟩, ⟨supply.used + 1⟩)

/-! ### Words -/

/-- The letter at a position of the alphabet, counted from zero. -/
def aliasLetter (position : Nat) : Char := Char.ofNat ('a'.toNat + position)

/-- The word at an index, in front of the letters `tail`: its last letter counts through the
alphabet, and the letters before it are the word that counts the full rounds. -/
def aliasLetters (index : Nat) (tail : List Char) : List Char :=
  if index < 26 then aliasLetter index :: tail
  else aliasLetters (index / 26 - 1) (aliasLetter (index % 26) :: tail)
termination_by index
decreasing_by omega

/-- The alias at an index: `a` to `z`, then `aa` to `zz`, then `aaa`, and so on. -/
def aliasWord (index : Nat) : String := String.ofList (aliasLetters index [])

/-! ### Rosters -/

/-- The relations met so far, in the order of their first visits. -/
structure Roster where
  /-- The relations, the first one first. -/
  members : List Identity := []
  /-- No relation is listed twice. -/
  distinct : members.Nodup := by simp

namespace Roster

/-- The roster before the first visit. -/
def empty : Roster where

instance : Inhabited Roster := ⟨empty⟩

@[ext]
theorem ext {first second : Roster} (hmembers : first.members = second.members) :
    first = second := by
  cases first
  cases second
  simp_all

/-- How many relations have an alias. -/
def size (roster : Roster) : Nat := roster.members.length

/-- Tells whether no relation has an alias. -/
def isEmpty (roster : Roster) : Bool := roster.members.isEmpty

/-- Lists a relation at the end unless it is listed already. -/
def visit (roster : Roster) (relation : Identity) : Roster :=
  if hlisted : relation ∈ roster.members then roster
  else
    { members := roster.members ++ [relation]
      distinct := by
        have hdistinct := roster.distinct
        grind }

/-- The alias of a relation that is listed; for any other, the alias it would get next. -/
def aliasOf (roster : Roster) (relation : Identity) : String :=
  aliasWord (roster.members.idxOf relation)

/-- A relation that is listed is not listed again. -/
theorem visit_eq_self {roster : Roster} {relation : Identity}
    (hlisted : relation ∈ roster.members) : roster.visit relation = roster := by
  simp [visit, hlisted]

/-- A new relation is listed behind the others. -/
theorem members_visit {roster : Roster} {relation : Identity}
    (hnew : relation ∉ roster.members) :
    (roster.visit relation).members = roster.members ++ [relation] := by
  simp [visit, hnew]

/-- What is visited is listed. -/
theorem mem_members_visit (roster : Roster) (relation : Identity) :
    relation ∈ (roster.visit relation).members := by
  by_cases hlisted : relation ∈ roster.members
  · rw [visit_eq_self hlisted]
    exact hlisted
  · rw [members_visit hlisted]
    exact List.mem_concat_self

/-- A visit changes no alias, neither that of the visited relation nor that of a listed one. -/
theorem aliasOf_visit_self (roster : Roster) (relation : Identity) :
    (roster.visit relation).aliasOf relation = roster.aliasOf relation := by
  by_cases hlisted : relation ∈ roster.members
  · rw [visit_eq_self hlisted]
  · simp only [aliasOf, members_visit hlisted, List.idxOf_append, if_neg hlisted,
      List.idxOf_eq_length hlisted]
    simp

/-- A relation that is listed keeps its alias. -/
theorem aliasOf_visit_of_mem {roster : Roster} {relation : Identity} (other : Identity)
    (hlisted : relation ∈ roster.members) :
    (roster.visit other).aliasOf relation = roster.aliasOf relation := by
  by_cases hother : other ∈ roster.members
  · rw [visit_eq_self hother]
  · simp only [aliasOf, members_visit hother]
    simp [List.idxOf_append, hlisted]

end Roster

end BoundSql
