import BoundSql.Proofs.FirstVisits
import BoundSql.Proofs.RelationNames
import BoundSql.Proofs.Scopes.Rendering
import Mathlib.Data.List.Nodup

/-!
# Names of common table expressions

A common table expression without a name is defined and referred to by the alias that the rendering
hands out for it. The text uses this alias in the places where names stand that the tree supplies:
those of other entries of the WITH list and those of tables without a schema.
`Statement.generated_names` says how far the generated name keeps clear of them. It is one of the
aliases that the rendering has handed out when it ends, and no other relation has it, so it differs
from every supplied name that is not such an alias. The names that a WITH list defines are distinct
exactly if its explicit names are, no entry without a name is listed twice, and no explicit name is
the alias of such an entry.

Nothing keeps a supplied name from being such an alias (`ranking_captures_table`).
-/

set_option autoImplicit false
set_option relaxedAutoImplicit false

namespace BoundSql

namespace NamePlace

/-! ### The names of a WITH list -/

/-- The relation at the place, if it is an entry of a WITH list without a name. -/
def unnamed? : NamePlace → Option Identity
  | entry relation none => some relation
  | _ => none

/-- The name that the tree supplies, if the place is an entry of a WITH list with a name. -/
def explicit? : NamePlace → Option String
  | entry _ name => name
  | _ => none

/-- The relations of the entries without a name. -/
def unnamed (places : List NamePlace) : List Identity := places.filterMap unnamed?

/-- The names that the tree supplies for entries of a WITH list. -/
def explicitNames (places : List NamePlace) : List String := places.filterMap explicit?

/-- The names that a WITH list defines. -/
def definedNames (aliasOf : Identity → String) (places : List NamePlace) : List String :=
  places.filterMap (defined? aliasOf)

/-- The names of the tables without a schema. -/
def tableNames (places : List NamePlace) : List String := places.filterMap tableName?

/-! ### Distinct names -/

/-- A WITH list defines its explicit names and the aliases of the entries without a name. -/
theorem definedNames_perm (aliasOf : Identity → String) (places : List NamePlace) :
    (definedNames aliasOf places).Perm (explicitNames places ++ (unnamed places).map aliasOf) := by
  unfold definedNames explicitNames unnamed
  induction places with
  | nil => exact List.Perm.refl _
  | cons place rest ih =>
    cases place with
    | entry relation name =>
      cases name with
      | some explicit => exact ih.cons explicit
      | none => exact (ih.cons (aliasOf relation)).trans List.perm_middle.symm
    | reference relation name => exact ih
    | table source => exact ih

/-- The names that a WITH list defines are distinct exactly if its explicit names are, no entry
without a name is listed twice, and no explicit name is the alias of such an entry. -/
theorem nodup_definedNames_iff {aliasOf : Identity → String} {places : List NamePlace}
    (hown : ∀ relation ∈ unnamed places, ∀ other,
      aliasOf relation = aliasOf other → relation = other) :
    (definedNames aliasOf places).Nodup ↔
      (explicitNames places).Nodup ∧ (unnamed places).Nodup ∧
        ∀ relation ∈ unnamed places, aliasOf relation ∉ explicitNames places := by
  have haliases : ((unnamed places).map aliasOf).Nodup ↔ (unnamed places).Nodup := by
    refine ⟨List.Nodup.of_map aliasOf, fun hdistinct ↦ hdistinct.map_on ?_⟩
    intro relation hrelation other _ hsame
    exact hown relation hrelation other hsame
  rw [(definedNames_perm aliasOf places).nodup_iff, List.nodup_append', haliases]
  refine and_congr_right fun _ ↦ and_congr_right fun _ ↦ ?_
  rw [List.disjoint_comm]
  simp [List.Disjoint]

/-- The place of an entry without a name is where the alias of its relation is written. -/
theorem entry_mem_of_mem_unnamed {places : List NamePlace} {relation : Identity}
    (hrelation : relation ∈ unnamed places) : entry relation none ∈ places := by
  obtain ⟨place, hplace, hunnamed⟩ := List.mem_filterMap.mp hrelation
  cases place with
  | entry defined name =>
    cases name with
    | some explicit => cases hunnamed
    | none =>
      obtain rfl := Option.some.inj hunnamed
      exact hplace
  | reference defined name => cases hunnamed
  | table source => cases hunnamed

end NamePlace

namespace Statement

/-- The places at which a statement writes the names of relations, those inside of nested statements
included. -/
def allNamePlaces (statement : Statement) : List NamePlace :=
  statement.statements.flatMap namePlaces

/-- A statement writes the alias of every entry of its WITH list that has no name. -/
theorem mention_mem_read_of_mem_unnamed {d : Dialect} {statement : Statement} {relation : Identity}
    (hrelation : relation ∈ NamePlace.unnamed statement.namePlaces) :
    .mention relation ∈ statement.read (.tokens d) := by
  have hplace := NamePlace.entry_mem_of_mem_unnamed hrelation
  rw [← statement.marked_nameOutline (d := d)] at hplace
  rw [← statement.flatMap_tokens_nameOutline, List.mem_flatMap]
  exact ⟨_, Marked.place_mem_of_mem_marked hplace, List.mem_singleton_self _⟩

/-! ### Rendered statements -/

/-- A rendering that succeeds has met the relation of every entry without a name, in a statement at
any depth. -/
theorem mem_members_of_mem_unnamed {d : Dialect} {statement carrier : Statement}
    {after : RenderState} (hformed : (Node.statement statement).WellFormed d)
    (hrun : ((Node.statement statement).renderer d).run {} = .ok () after)
    (hcarrier : carrier ∈ statement.statements) {relation : Identity}
    (hrelation : relation ∈ NamePlace.unnamed carrier.namePlaces) :
    relation ∈ after.context.roster.members := by
  have hstands := (Node.statement statement).stands_of_mem_statements (r := Reading.tokens d) rfl
    hcarrier hformed
  rw [Node.roster_members_of_run hrun]
  exact Node.mem_meetingOrder_of_mention ((Node.accepted_layout_iff _).mpr hformed)
    (hstands.within.subset (mention_mem_read_of_mem_unnamed hrelation))

/-- In a rendered statement, the generated name of an entry of a WITH list without a name, in a
statement at any depth, is an alias that the rendering has handed out, and no other relation has it.
So it differs from every explicit name of the list, and from the name of every table without a
schema in the statement, that is not such an alias. The names that the list defines are distinct
exactly if its explicit names are, no entry without a name is listed twice, and no explicit name is
the alias of such an entry. These are the names in the text: the outline of every statement, with
the names at the places where the tree has them, is a part of it. -/
theorem generated_names {d : Dialect} {statement : Statement} {query : Query}
    (hrender : (Node.statement statement).render d = .ok query) :
    ∃ after : RenderState,
      ((Node.statement statement).renderer d).run {} = .ok () after ∧
      query = after.output.toQuery d.paramStyle ∧
      let aliasOf := after.context.roster.aliasOf
      let handedOut := after.context.roster.members.map aliasOf
      handedOut = (List.range after.context.roster.size).map aliasWord ∧
      ∀ carrier ∈ statement.statements,
        (∀ inner ∈ carrier.statements, inner.NamesWritten d aliasOf query.sql) ∧
        (∀ relation ∈ NamePlace.unnamed carrier.namePlaces,
          aliasOf relation ∈ handedOut ∧
            (∀ other, aliasOf relation = aliasOf other → relation = other) ∧
            ∀ supplied ∈ NamePlace.explicitNames carrier.namePlaces ++
                NamePlace.tableNames carrier.allNamePlaces,
              supplied ∉ handedOut → aliasOf relation ≠ supplied) ∧
        ((NamePlace.definedNames aliasOf carrier.namePlaces).Nodup ↔
          (NamePlace.explicitNames carrier.namePlaces).Nodup ∧
            (NamePlace.unnamed carrier.namePlaces).Nodup ∧
            ∀ relation ∈ NamePlace.unnamed carrier.namePlaces,
              aliasOf relation ∉ NamePlace.explicitNames carrier.namePlaces) := by
  have hformed : (Node.statement statement).WellFormed d :=
    (Node.accepted_layout_iff _).mp (Node.accepted_of_render hrender)
  obtain ⟨after, hrun, hquery⟩ := Node.run_of_render hrender
  refine ⟨after, hrun, hquery, Roster.map_aliasOf_members _, fun carrier hcarrier ↦ ?_⟩
  have hmet : ∀ relation ∈ NamePlace.unnamed carrier.namePlaces,
      relation ∈ after.context.roster.members :=
    fun _ ↦ mem_members_of_mem_unnamed hformed hrun hcarrier
  have hown : ∀ relation ∈ NamePlace.unnamed carrier.namePlaces, ∀ other,
      after.context.roster.aliasOf relation = after.context.roster.aliasOf other →
        relation = other :=
    fun relation hrelation other hsame ↦ (Roster.aliasOf_inj (hmet relation hrelation)).mp hsame
  refine ⟨fun inner hinner ↦ ?_, fun relation hrelation ↦ ?_,
    NamePlace.nodup_definedNames_iff hown⟩
  · have hstands := (Node.statement statement).stands_of_mem_statements (r := Reading.tokens d) rfl
      hcarrier hformed
    have hnested := (Node.statement carrier).stands_of_mem_statements (r := Reading.tokens d) rfl
      hinner hstands.formed
    rw [Node.roster_aliasOf_of_run hrun]
    exact Node.namesWritten_of_within hrender (hnested.within.trans hstands.within)
  · have hword := List.mem_map_of_mem (f := after.context.roster.aliasOf) (hmet relation hrelation)
    refine ⟨hword, hown relation hrelation, ?_⟩
    rintro supplied - hsupplied rfl
    exact hsupplied hword

end Statement

/-- A SELECT from a table, from the orders under a generated name, and from the rates under the name
`explicit`. -/
def ranking (explicit table : String) : Statement :=
  let orders : Table := ⟨⟨0⟩, "orders", none⟩
  let rates : Table := ⟨⟨1⟩, "rates", none⟩
  .select
    { Select.blank with
      ctes :=
        [⟨⟨2⟩, none, [], false, .select orders.selectAll⟩,
          ⟨⟨3⟩, some explicit, [], false, .select rates.selectAll⟩]
      sources :=
        [.table ⟨⟨4⟩, table, none⟩, .cte ⟨2⟩ none, .cte ⟨3⟩ (some explicit)] }

/-- The query of `ranking`. -/
def ranked (explicit table : String) : Query where
  sql :=
    "WITH \"a\" AS (SELECT * FROM \"orders\" AS \"b\"), " ++
    "\"" ++ explicit ++ "\" AS (SELECT * FROM \"rates\" AS \"d\") " ++
    "SELECT * FROM \"" ++ table ++ "\" AS \"e\", \"a\" AS \"a\", " ++
    "\"" ++ explicit ++ "\" AS \"c\""
  params := []

/-- Names that have not been handed out as aliases are not met by a generated name. -/
theorem generated_names_ranking :
    let node := Node.statement (ranking "rated" "goods")
    node.render .postgres = .ok (ranked "rated" "goods") ∧
      ∃ after : RenderState, (node.renderer .postgres).run {} = .ok () after ∧
        ∀ carrier ∈ (ranking "rated" "goods").statements,
          (NamePlace.definedNames after.context.roster.aliasOf carrier.namePlaces).Nodup ∧
            ∀ relation ∈ NamePlace.unnamed carrier.namePlaces,
              after.context.roster.aliasOf relation ∉
                NamePlace.tableNames carrier.allNamePlaces := by
  intro node
  have hrender : node.render .postgres = .ok (ranked "rated" "goods") := by decide +kernel
  have hfree : ∀ carrier ∈ (ranking "rated" "goods").statements,
      (NamePlace.explicitNames carrier.namePlaces).Nodup ∧
        (NamePlace.unnamed carrier.namePlaces).Nodup ∧
        ∀ supplied ∈ NamePlace.explicitNames carrier.namePlaces ++
            NamePlace.tableNames carrier.allNamePlaces,
          supplied ∉ (node.meetingOrder .postgres).map (node.aliasOf .postgres) := by
    decide +kernel
  obtain ⟨after, hrun, -, -, hcarriers⟩ := Statement.generated_names hrender
  refine ⟨hrender, after, hrun, fun carrier hcarrier ↦ ?_⟩
  obtain ⟨-, hgenerated, hdistinct⟩ := hcarriers carrier hcarrier
  obtain ⟨hexplicit, hunnamed, hsupplied⟩ := hfree carrier hcarrier
  rw [← Node.roster_members_of_run hrun, ← Node.roster_aliasOf_of_run hrun] at hsupplied
  have hclear : ∀ relation ∈ NamePlace.unnamed carrier.namePlaces,
      ∀ supplied ∈ NamePlace.explicitNames carrier.namePlaces ++
          NamePlace.tableNames carrier.allNamePlaces,
        after.context.roster.aliasOf relation ≠ supplied := fun relation hrelation supplied hmem ↦
    (hgenerated relation hrelation).2.2 supplied hmem (hsupplied supplied hmem)
  refine ⟨hdistinct.mpr ⟨hexplicit, hunnamed, ?_⟩, ?_⟩
  · intro relation hrelation hname
    exact hclear relation hrelation _ (List.mem_append_left _ hname) rfl
  · intro relation hrelation hname
    exact hclear relation hrelation _ (List.mem_append_right _ hname) rfl

/-- A table and an entry with the name `a` are met by a generated name: the WITH list defines one
name twice, although its explicit names are distinct, and the table is taken for the entry without a
name. -/
theorem ranking_captures_table :
    let node := Node.statement (ranking "a" "a")
    node.render .postgres = .ok (ranked "a" "a") ∧
      ∃ after : RenderState, (node.renderer .postgres).run {} = .ok () after ∧
        ∃ carrier ∈ (ranking "a" "a").statements,
          (NamePlace.explicitNames carrier.namePlaces).Nodup ∧
            (NamePlace.unnamed carrier.namePlaces).Nodup ∧
            ¬ (NamePlace.definedNames after.context.roster.aliasOf carrier.namePlaces).Nodup ∧
            ∃ relation ∈ NamePlace.unnamed carrier.namePlaces,
              after.context.roster.aliasOf relation ∈ NamePlace.explicitNames carrier.namePlaces ∧
                after.context.roster.aliasOf relation ∈
                  NamePlace.tableNames carrier.namePlaces := by
  intro node
  have hrender : node.render .postgres = .ok (ranked "a" "a") := by decide +kernel
  obtain ⟨after, hrun, -⟩ := Node.run_of_render hrender
  refine ⟨hrender, after, hrun, ?_⟩
  rw [Node.roster_aliasOf_of_run hrun]
  decide +kernel

end BoundSql
