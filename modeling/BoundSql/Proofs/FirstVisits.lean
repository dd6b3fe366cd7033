import BoundSql.Proofs.AliasWords
import BoundSql.Proofs.Reading.Run
import Mathlib.Data.Finset.Card
import Mathlib.Data.Finset.Dedup

/-!
# Relations numbered by their first visits

The first visit to a relation numbers it by how many relations have been met before, and every later
visit finds this number again. `Roster.Numbers` is what a roster knows after a run of visits. It
holds where nothing has been met, and one more visit keeps it: a visit to a relation that has been
met leaves the roster as it is (`Roster.Numbers.again`), and a visit to a new one takes the next
number (`Roster.Numbers.newcomer`). So it holds after every run (`Roster.numbers_visitAll`). No
number is left out (`Roster.map_aliasOf_members`), and no two relations have the same.

The result is `Renderer.visits_in_order`, about the aliases that a run of visits yields.
-/

set_option autoImplicit false
set_option relaxedAutoImplicit false

namespace BoundSql

namespace Roster

/-- How many relations have been met before the first visit to a relation. -/
def metBefore (visited : List Identity) (relation : Identity) : Nat :=
  (visited.take (visited.idxOf relation)).toFinset.card

/-- What a roster knows when the relations `visited` have been met, one after the other. -/
structure Numbers (roster : Roster) (visited : List Identity) : Prop where
  /-- The visited relations are listed, and no others. -/
  mem_iff : ∀ relation, relation ∈ roster.members ↔ relation ∈ visited
  /-- Every visited relation counts once. -/
  size_eq : roster.size = visited.toFinset.card
  /-- The first visit to a relation decides its alias. -/
  aliasOf_eq : ∀ relation ∈ visited,
    roster.aliasOf relation = aliasWord (metBefore visited relation)

variable {roster : Roster} {visited : List Identity} {relation : Identity}

/-- Later visits do not change how many relations have been met before one. -/
theorem metBefore_append_of_mem (hvisited : relation ∈ visited) (later : List Identity) :
    metBefore (visited ++ later) relation = metBefore visited relation := by
  have hplace : visited.idxOf relation ≤ visited.length := List.idxOf_le_length
  rw [metBefore, metBefore, List.idxOf_append, if_pos hvisited,
    List.take_append_of_le_length hplace]

/-- Later visits change no alias that earlier ones have decided. -/
theorem take_map_metBefore (earlier later : List Identity) :
    ((earlier ++ later).map fun relation ↦
        aliasWord (metBefore (earlier ++ later) relation)).take earlier.length =
      earlier.map fun relation ↦ aliasWord (metBefore earlier relation) := by
  rw [List.map_append, List.take_left' (List.length_map _)]
  refine List.map_congr_left fun relation hvisited ↦ ?_
  rw [metBefore_append_of_mem hvisited]

/-- Before a new relation there are as many as have been met. -/
theorem metBefore_concat_self (hnew : relation ∉ visited) :
    metBefore (visited ++ [relation]) relation = visited.toFinset.card := by
  rw [metBefore, List.idxOf_append, if_neg hnew, List.idxOf_cons_self, Nat.zero_add,
    List.take_left]

/-- The empty roster numbers no visits. -/
theorem numbers_empty : empty.Numbers [] where
  mem_iff _ := Iff.rfl
  size_eq := rfl
  aliasOf_eq _ hvisited := absurd hvisited List.not_mem_nil

/-- A relation that has been met already adds nothing to what a roster knows. -/
theorem Numbers.again (hnumbers : roster.Numbers visited) (hvisited : relation ∈ visited) :
    roster.Numbers (visited ++ [relation]) := by
  have hmem : ∀ other, other ∈ visited ++ [relation] ↔ other ∈ visited := by
    intro other
    rw [List.mem_append, List.mem_singleton, or_iff_left_of_imp]
    rintro rfl
    exact hvisited
  have hsame : (visited ++ [relation]).toFinset = visited.toFinset := by
    ext other
    rw [List.mem_toFinset, List.mem_toFinset, hmem]
  refine ⟨fun other ↦ ?_, ?_, fun other hother ↦ ?_⟩
  · rw [hmem, hnumbers.mem_iff]
  · rw [hsame, hnumbers.size_eq]
  · have hother := (hmem other).mp hother
    rw [metBefore_append_of_mem hother, hnumbers.aliasOf_eq other hother]

/-- A relation that has not been met gets the number of all that have been. -/
theorem Numbers.newcomer (hnumbers : roster.Numbers visited) (hnew : relation ∉ visited) :
    (roster.visit relation).Numbers (visited ++ [relation]) := by
  have hunlisted : relation ∉ roster.members := fun hlisted ↦
    hnew ((hnumbers.mem_iff relation).mp hlisted)
  have hcard : (visited ++ [relation]).toFinset.card = visited.toFinset.card + 1 := by
    rw [List.toFinset_append, List.toFinset_cons, List.toFinset_nil, insert_empty_eq,
      Finset.union_singleton, Finset.card_insert_of_notMem]
    rwa [List.mem_toFinset]
  refine ⟨fun other ↦ ?_, ?_, fun other hother ↦ ?_⟩
  · rw [members_visit hunlisted, List.mem_append, List.mem_append, hnumbers.mem_iff]
  · rw [size, members_visit hunlisted, List.length_append, List.length_singleton, hcard,
      ← hnumbers.size_eq, size]
  · obtain hother | hother := List.mem_append.mp hother
    · have hlisted := (hnumbers.mem_iff other).mpr hother
      rw [aliasOf_visit_of_mem relation hlisted, hnumbers.aliasOf_eq other hother,
        metBefore_append_of_mem hother]
    · obtain rfl := List.mem_singleton.mp hother
      rw [aliasOf_visit_self, metBefore_concat_self hnew, ← hnumbers.size_eq, aliasOf,
        List.idxOf_eq_length hunlisted, size]

/-- One more visit is numbered as the ones before it are. -/
theorem Numbers.visit (hnumbers : roster.Numbers visited) (relation : Identity) :
    (roster.visit relation).Numbers (visited ++ [relation]) := by
  by_cases hvisited : relation ∈ visited
  · rw [visit_eq_self ((hnumbers.mem_iff relation).mpr hvisited)]
    exact hnumbers.again hvisited
  · exact hnumbers.newcomer hvisited

/-- A run of visits from where the relations `visited` have been met. -/
theorem Numbers.visitAll (hnumbers : roster.Numbers visited) (relations : List Identity) :
    (roster.visitAll relations).Numbers (visited ++ relations) := by
  induction relations generalizing roster visited with
  | nil =>
    rw [List.append_nil]
    exact hnumbers
  | cons first rest ih =>
    rw [visitAll_cons, List.append_cons]
    exact ih (hnumbers.visit first)

/-- From the empty roster every sequence of visits is numbered. -/
theorem numbers_visitAll (relations : List Identity) :
    (empty.visitAll relations).Numbers relations :=
  numbers_empty.visitAll relations

/-- The aliases of the listed relations are the first ones, none of them left out. -/
theorem map_aliasOf_members (roster : Roster) :
    roster.members.map roster.aliasOf = (List.range roster.size).map aliasWord := by
  apply List.ext_getElem
  · rw [List.length_map, List.length_map, List.length_range, size]
  · intro place hlisted _
    rw [List.length_map] at hlisted
    rw [List.getElem_map, List.getElem_map, List.getElem_range, aliasOf,
      roster.distinct.idxOf_getElem place hlisted]

/-- The aliases of what has been visited are the first words, as many as there are relations. -/
theorem Numbers.mem_map_aliasOf_iff (hnumbers : roster.Numbers visited) (word : String) :
    word ∈ visited.map roster.aliasOf ↔ ∃ index < roster.size, aliasWord index = word := by
  have hlisted : word ∈ visited.map roster.aliasOf ↔ word ∈ roster.members.map roster.aliasOf := by
    simp only [List.mem_map, hnumbers.mem_iff]
  rw [hlisted, map_aliasOf_members, List.mem_map]
  simp only [List.mem_range]

/-- Two visited relations whose first visits decide the same alias are the same. -/
theorem Numbers.aliasWord_metBefore_inj (hnumbers : roster.Numbers visited)
    {other : Identity} (hrelation : relation ∈ visited) (hother : other ∈ visited) :
    aliasWord (metBefore visited relation) = aliasWord (metBefore visited other) ↔
      relation = other := by
  rw [← hnumbers.aliasOf_eq relation hrelation, ← hnumbers.aliasOf_eq other hother]
  exact aliasOf_inj ((hnumbers.mem_iff relation).mpr hrelation)

end Roster

/-- What is met in a fresh context is numbered. -/
theorem Context.numbers_meet {context : Context} (hfresh : context.roster = .empty)
    (visited : List Identity) : (context.meet visited).roster.Numbers visited := by
  rw [meet, hfresh]
  exact Roster.numbers_visitAll visited

namespace Renderer

/-- A visit yields the alias of the relation, which it meets. -/
theorem visit_eq (relation : Identity) (start : RenderState) :
    visit relation start = .ok (start.context.roster.aliasOf relation)
      { start with context := start.context.meet [relation] } := rfl

/-- Every visit yields the alias that its relation has in the end. -/
theorem mapM_visit (relations : List Identity) (start : RenderState) :
    relations.mapM visit start =
      .ok (relations.map (start.context.meet relations).roster.aliasOf)
        { start with context := start.context.meet relations } := by
  induction relations generalizing start with
  | nil => rfl
  | cons first rest ih =>
    have hfirst : (start.context.meet (first :: rest)).roster.aliasOf first =
        start.context.roster.aliasOf first := by
      show ((start.context.roster.visit first).visitAll rest).aliasOf first = _
      rw [Roster.aliasOf_visitAll_of_mem rest (Roster.mem_members_visit _ first),
        Roster.aliasOf_visit_self]
    have hrest := ih { start with context := start.context.meet [first] }
    rw [List.mapM_cons, bind_of_eq_ok (visit_eq first start), bind_of_eq_ok hrest, List.map_cons,
      hfirst]
    rfl

section Fresh

variable {start : RenderState} (hfresh : start.context.roster = .empty)

include hfresh

/-- Where nothing has been met, every visit yields the alias that the first visit to its relation
decides. -/
theorem mapM_visit_of_empty (relations : List Identity) :
    relations.mapM visit start =
      .ok (relations.map fun relation ↦ aliasWord (Roster.metBefore relations relation))
        { start with context := start.context.meet relations } := by
  rw [mapM_visit, List.map_congr_left (Context.numbers_meet hfresh relations).aliasOf_eq]

/-- Where nothing has been met, a run of visits numbers the relations in the order of their first
visits. Each visit yields the alias at the number of relations that have been met before the first
visit to its relation, so two visits yield the same alias exactly if they are to the same relation.
When any first part of the run has been made, the roster counts every relation visited so far once,
and the aliases yielded so far, which are those of the listed relations, are the first of all
aliases with none left out. -/
theorem visits_in_order (calls : List Identity) :
    let aliases := calls.map fun relation ↦ aliasWord (Roster.metBefore calls relation)
    (∃ after, calls.mapM visit start = .ok aliases after) ∧
      (∀ place other : Fin calls.length,
        aliases[place.val]? = aliases[other.val]? ↔ calls[place] = calls[other]) ∧
      ∀ earlier, earlier <+: calls → ∃ between : RenderState,
        let roster := between.context.roster
        earlier.mapM visit start = .ok (aliases.take earlier.length) between ∧
          roster.size = earlier.toFinset.card ∧
          (∀ word, word ∈ aliases.take earlier.length ↔
            ∃ index < roster.size, aliasWord index = word) ∧
          roster.members.map roster.aliasOf = (List.range roster.size).map aliasWord := by
  refine ⟨⟨_, mapM_visit_of_empty hfresh calls⟩, fun place other ↦ ?_, ?_⟩
  · have hsame := (Context.numbers_meet hfresh calls).aliasWord_metBefore_inj
      (List.getElem_mem place.isLt) (List.getElem_mem other.isLt)
    rw [List.getElem?_map, List.getElem?_map, List.getElem?_eq_getElem place.isLt,
      List.getElem?_eq_getElem other.isLt, Option.map_some, Option.map_some, Option.some.injEq]
    exact hsame
  · rintro earlier ⟨later, rfl⟩
    have hnumbers := Context.numbers_meet hfresh earlier
    have htaken := Roster.take_map_metBefore earlier later
    refine ⟨{ start with context := start.context.meet earlier }, ?_, hnumbers.size_eq,
      fun word ↦ ?_, Roster.map_aliasOf_members _⟩
    · rw [htaken]
      exact mapM_visit_of_empty hfresh earlier
    · rw [htaken, ← List.map_congr_left hnumbers.aliasOf_eq]
      exact hnumbers.mem_map_aliasOf_iff word

end Fresh

/-- Two relations, the first of them visited again. -/
theorem visits_in_order_revisited :
    ∃ after : RenderState,
      [⟨1⟩, ⟨0⟩, ⟨1⟩].mapM visit {} = .ok [aliasWord 0, aliasWord 1, aliasWord 0] after ∧
        after.context.roster.size = 2 := by
  obtain ⟨-, -, hparts⟩ := @visits_in_order {} rfl [⟨1⟩, ⟨0⟩, ⟨1⟩]
  obtain ⟨after, hafter, hsize, -⟩ := hparts _ (List.prefix_refl _)
  exact ⟨after, hafter, hsize⟩

end Renderer

end BoundSql
