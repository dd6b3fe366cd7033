import BoundSql.Proofs.FirstVisits

/-!
# Aliases that are stored

A roster computes the alias of a relation from its place. An `AliasRegistry` stores each alias with
its relation instead: a visit looks the relation up and, if nothing is stored for it, stores the
word whose index is the number of the aliases stored so far. A registry mirrors a roster if it
stores the aliases of the listed relations and no others (`AliasRegistry.Mirrors`). Empty, the two
mirror each other, and a visit to either yields the same alias and keeps them so
(`Mirrors.aliasFor`). So every sequence of visits yields the same aliases from a registry as from a
renderer (`AliasRegistry.Mirrors.mapM_visit`), and from an empty one the relations are numbered by
their first visits (`AliasRegistry.aliasesFor_empty`).
-/

set_option autoImplicit false
set_option relaxedAutoImplicit false

namespace BoundSql

/-- Relations are hashed by their numbers. -/
instance : Hashable Identity := ⟨fun relation ↦ hash relation.number⟩

/-- The aliases that have been handed out, each stored with its relation. -/
structure AliasRegistry where
  /-- The alias of a relation, if it has one. -/
  stored : Std.HashMap Identity String := ∅

namespace AliasRegistry

/-- How many aliases are stored. -/
def size (registry : AliasRegistry) : Nat := registry.stored.size

/-- Tells whether no alias is stored. -/
def isEmpty (registry : AliasRegistry) : Bool := registry.stored.isEmpty

/-- The alias of a relation, and the registry behind the visit. At the first visit to a relation the
next word is stored for it: its index is the number of aliases that are stored before. -/
def aliasFor (registry : AliasRegistry) (relation : Identity) : String × AliasRegistry :=
  let next := registry.size
  match registry.stored[relation]? with
  | some written => (written, registry)
  | none => (aliasWord next, { stored := registry.stored.insert relation (aliasWord next) })

/-- The aliases that a sequence of visits yields, and the registry behind them. -/
def aliasesFor (registry : AliasRegistry) : List Identity → List String × AliasRegistry
  | [] => ([], registry)
  | first :: rest =>
    let (written, between) := registry.aliasFor first
    let (others, later) := between.aliasesFor rest
    (written :: others, later)

variable {registry : AliasRegistry} {roster : Roster} {relation : Identity}

/-- A relation for which an alias is stored has this alias, and nothing is stored. -/
theorem aliasFor_of_some {written : String}
    (hstored : registry.stored[relation]? = some written) :
    registry.aliasFor relation = (written, registry) := by
  rw [aliasFor, hstored]

/-- For any other relation the next word is stored. -/
theorem aliasFor_of_none (hstored : registry.stored[relation]? = none) :
    registry.aliasFor relation =
      (aliasWord registry.size,
        { stored := registry.stored.insert relation (aliasWord registry.size) }) := by
  rw [aliasFor, hstored]

/-- The registry stores the aliases of the relations on the roster, and no others. -/
structure Mirrors (registry : AliasRegistry) (roster : Roster) : Prop where
  /-- The alias of every listed relation is stored. -/
  stored_of_mem : ∀ relation ∈ roster.members,
    registry.stored[relation]? = some (roster.aliasOf relation)
  /-- Nothing is stored for any other relation. -/
  stored_of_notMem : ∀ relation, relation ∉ roster.members → registry.stored[relation]? = none
  /-- As many aliases are stored as relations are listed. -/
  size_eq : registry.size = roster.size

/-- Where nothing has been visited, nothing is stored. -/
theorem mirrors_empty : Mirrors {} .empty where
  stored_of_mem _ hlisted := absurd hlisted List.not_mem_nil
  stored_of_notMem _ _ := Std.HashMap.getElem?_empty
  size_eq := Std.HashMap.size_empty

/-- A registry that mirrors a roster is empty exactly if the roster is. -/
theorem Mirrors.isEmpty_eq (hmirrors : registry.Mirrors roster) :
    registry.isEmpty = roster.isEmpty := by
  have hsize : registry.stored.size = roster.members.length := hmirrors.size_eq
  rw [isEmpty, Std.HashMap.isEmpty_eq_size_eq_zero, hsize, Roster.isEmpty]
  cases roster.members <;> rfl

/-- A visit to a new relation stores for it the alias that the roster gives it. -/
theorem Mirrors.insert (hmirrors : registry.Mirrors roster) (hnew : relation ∉ roster.members) :
    Mirrors { stored := registry.stored.insert relation (aliasWord registry.size) }
      (roster.visit relation) := by
  -- The place of a new relation is the number of relations before it, which both sides count.
  have halias : (roster.visit relation).aliasOf relation = aliasWord registry.size := by
    rw [Roster.aliasOf_visit_self, Roster.aliasOf, List.idxOf_eq_length hnew, hmirrors.size_eq,
      Roster.size]
  have hmissing : relation ∉ registry.stored := by
    intro hstored
    rw [Std.HashMap.mem_iff_isSome_getElem?, hmirrors.stored_of_notMem relation hnew] at hstored
    cases hstored
  refine ⟨fun other hother ↦ ?_, fun other hother ↦ ?_, ?_⟩
  · rw [Std.HashMap.getElem?_insert]
    by_cases hsame : relation = other
    · rw [if_pos (beq_iff_eq.mpr hsame), ← hsame, halias]
    · have hlisted : other ∈ roster.members := by
        rw [Roster.members_visit hnew, List.mem_append, List.mem_singleton] at hother
        exact hother.resolve_right (Ne.symm hsame)
      rw [if_neg (by simpa using hsame), hmirrors.stored_of_mem other hlisted,
        Roster.aliasOf_visit_of_mem relation hlisted]
  · rw [Roster.members_visit hnew, List.mem_append, List.mem_singleton, not_or] at hother
    rw [Std.HashMap.getElem?_insert, if_neg (by simpa using Ne.symm hother.2),
      hmirrors.stored_of_notMem other hother.1]
  · rw [size, Std.HashMap.size_insert, if_neg hmissing, Roster.size, Roster.members_visit hnew,
      List.length_append, List.length_singleton]
    exact congrArg (· + 1) hmirrors.size_eq

/-- A visit yields the same alias from a registry as from the roster that it mirrors, and the
registry mirrors the roster still. -/
theorem Mirrors.aliasFor (hmirrors : registry.Mirrors roster) (relation : Identity) :
    (registry.aliasFor relation).1 = roster.aliasOf relation ∧
      (registry.aliasFor relation).2.Mirrors (roster.visit relation) := by
  by_cases hlisted : relation ∈ roster.members
  · rw [aliasFor_of_some (hmirrors.stored_of_mem relation hlisted), Roster.visit_eq_self hlisted]
    exact ⟨rfl, hmirrors⟩
  · rw [aliasFor_of_none (hmirrors.stored_of_notMem relation hlisted), Roster.aliasOf,
      List.idxOf_eq_length hlisted]
    exact ⟨congrArg aliasWord hmirrors.size_eq, hmirrors.insert hlisted⟩

/-- Every sequence of visits yields the same aliases from a registry as from a renderer whose roster
it mirrors, and the registry mirrors the roster in the end. -/
theorem Mirrors.mapM_visit {start : RenderState} (hmirrors : registry.Mirrors start.context.roster)
    (calls : List Identity) :
    ∃ after : RenderState,
      calls.mapM Renderer.visit start = .ok (registry.aliasesFor calls).1 after ∧
        (registry.aliasesFor calls).2.Mirrors after.context.roster := by
  induction calls generalizing registry start with
  | nil => exact ⟨start, rfl, hmirrors⟩
  | cons first rest ih =>
    obtain ⟨hfirst, hbetween⟩ := hmirrors.aliasFor first
    obtain ⟨after, hrest, hlater⟩ :=
      @ih _ { start with context := start.context.meet [first] } hbetween
    refine ⟨after, ?_, hlater⟩
    rw [List.mapM_cons, Renderer.bind_of_eq_ok (Renderer.visit_eq first start),
      Renderer.bind_of_eq_ok hrest, ← hfirst]
    rfl

/-- From a registry in which nothing is stored, every visit yields the word whose index is the
number of relations that are visited before the first visit to its relation. -/
theorem aliasesFor_empty (calls : List Identity) :
    (aliasesFor {} calls).1 =
      calls.map fun relation ↦ aliasWord (Roster.metBefore calls relation) := by
  obtain ⟨after, hrun, -⟩ := @Mirrors.mapM_visit {} {} mirrors_empty calls
  rw [Renderer.mapM_visit_of_empty rfl calls] at hrun
  exact (EStateM.Result.ok.inj hrun).1.symm

end AliasRegistry

end BoundSql
