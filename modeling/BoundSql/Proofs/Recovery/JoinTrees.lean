import BoundSql.Proofs.Recovery.Reduced
import BoundSql.Proofs.WellFormed.Tree
import Mathlib.Data.List.Forall2

/-!
# Join trees as they are read

No parentheses stand around a join that is a side of another one. A join with a condition is closed
by its condition, so its right side can be any join; a CROSS JOIN is closed by nothing, so a join on
its right side is written as if the CROSS JOIN were the left side of that join.
`RowSource.regrouped` moves such a join out. It changes nothing that is written
(`RowSource.read_regrouped`), no CROSS JOIN has a join on its right side in it
(`RowSource.crossesLeaves_regrouped`), and it leaves all other join trees as they are
(`RowSource.regrouped_eq_self`).

What is written after the leftmost leaf of a join tree is a run of links, each a leaf behind the
name of a join or a condition. `assemble` builds a join tree from its links with a stack of the
joins that are still open, and yields the regrouped tree (`assemble_links`).
-/

set_option autoImplicit false
set_option relaxedAutoImplicit false

namespace BoundSql

namespace RowSource

/-! ### Join trees -/

/-- A tree of joins of such tables under such conditions. -/
def BuiltFrom (tables : Table → Prop) (conditions : Expr → Prop) : RowSource → Prop
  | table source => tables source
  | cte _ _ | derived _ _ => False
  | join _ left right condition =>
    left.BuiltFrom tables conditions ∧ right.BuiltFrom tables conditions ∧
      ∀ expr ∈ condition, conditions expr

/-- A tree of joins of tables, under conditions without statements. -/
def JoinsTables (source : RowSource) : Prop := source.BuiltFrom (fun _ ↦ True) Expr.StatementFree

/-- Two join trees of one shape, with the same kinds of joins, the same tables, and conditions that
are alike at the same joins. -/
inductive SameJoins (alike : Expr → Expr → Prop) : RowSource → RowSource → Prop where
  | table (source : Table) : SameJoins alike (table source) (table source)
  | join (kind : JoinKind) {left right otherLeft otherRight : RowSource}
    {condition otherCondition : Option Expr} (hleft : SameJoins alike left otherLeft)
    (hright : SameJoins alike right otherRight)
    (hcondition : Option.Rel alike condition otherCondition) :
    SameJoins alike (join kind left right condition) (join kind otherLeft otherRight otherCondition)

/-- Tells whether a source of rows is a join. -/
def isJoin : RowSource → Bool
  | join _ _ _ _ => true
  | _ => false

/-- No CROSS JOIN in the tree has a join on its right side. -/
def CrossesLeaves : RowSource → Prop
  | join kind left right _ =>
    left.CrossesLeaves ∧ right.CrossesLeaves ∧ (kind = .cross → right.isJoin = false)
  | _ => True

/-! ### Regrouping -/

mutual

/-- The join tree in which every join on the right side of a CROSS JOIN is moved out, so that the
CROSS JOIN becomes the leftmost part of that join. -/
def regrouped : RowSource → RowSource
  | join .cross left right none => right.crossedOnto left.regrouped
  | join kind left right condition => join kind left.regrouped right.regrouped condition
  | leaf => leaf

/-- The regrouped CROSS JOIN of a tree that is regrouped already and this one on its right side. -/
def crossedOnto : RowSource → RowSource → RowSource
  | join .cross left right none, earlier => right.crossedOnto (left.crossedOnto earlier)
  | join kind left right condition, earlier =>
    join kind (left.crossedOnto earlier) right.regrouped condition
  | leaf, earlier => join .cross earlier leaf none

end

section Closed

variable {kind : JoinKind} {condition : Option Expr}

/-- A join that is no cross join keeps its place when its sides are regrouped. -/
theorem regrouped_join (hclosed : ¬ (kind = .cross ∧ condition = none)) (left right : RowSource) :
    (join kind left right condition).regrouped =
      join kind left.regrouped right.regrouped condition := by
  cases kind <;> cases condition <;> simp_all [regrouped]

/-- A join that is no cross join is crossed onto an earlier source by its left side. -/
theorem crossedOnto_join (hclosed : ¬ (kind = .cross ∧ condition = none))
    (left right earlier : RowSource) :
    (join kind left right condition).crossedOnto earlier =
      join kind (left.crossedOnto earlier) right.regrouped condition := by
  cases kind <;> cases condition <;> simp_all [crossedOnto]

end Closed

/-! ### Regrouping changes nothing that is written -/

section Read

variable {α : Type} (r : Reading α) (inside : Bool)

mutual

/-- Regrouping does not change what is read. -/
theorem read_regrouped : (source : RowSource) →
    source.regrouped.read r inside = source.read r inside
  | table _ | cte _ _ | derived _ _ => rfl
  | join kind left right condition => by
    by_cases hcross : kind = .cross ∧ condition = none
    · obtain ⟨rfl, rfl⟩ := hcross
      rw [regrouped, read_crossedOnto right, read_regrouped left]
      simp [RowSource.read, Expr.read?, Reading.clause, JoinKind.spelling]
    · rw [regrouped_join hcross, RowSource.read, RowSource.read, read_regrouped left,
        read_regrouped right]

/-- Crossing a source onto an earlier one reads as the cross join of the two. -/
theorem read_crossedOnto : (source earlier : RowSource) →
    (source.crossedOnto earlier).read r inside =
      earlier.read r inside ++ r.text " CROSS JOIN " ++ source.read r inside
  | table _, _ | cte _ _, _ | derived _ _, _ => by
    simp [crossedOnto, RowSource.read, Expr.read?, Reading.clause, JoinKind.spelling]
  | join kind left right condition, earlier => by
    by_cases hcross : kind = .cross ∧ condition = none
    · obtain ⟨rfl, rfl⟩ := hcross
      rw [crossedOnto, read_crossedOnto right, read_crossedOnto left]
      simp [RowSource.read, Expr.read?, Reading.clause, JoinKind.spelling]
    · rw [crossedOnto_join hcross, RowSource.read, RowSource.read, read_crossedOnto left,
        read_regrouped right]
      simp

end

end Read

/-! ### Regrouped trees -/

section WellFormed

variable {d : Dialect}

/-- A well-formed join is closed by its condition, unless it is a CROSS JOIN. -/
theorem WellFormed.closed_or_cross {kind : JoinKind} {left right : RowSource}
    {condition : Option Expr} (hformed : (join kind left right condition).WellFormed d) :
    (kind = .cross ∧ condition = none) ∨ (kind ≠ .cross ∧ ∃ expr, condition = some expr) := by
  obtain ⟨-, -, hcondition, -⟩ := hformed
  cases condition with
  | none => exact .inl ⟨by simpa using hcondition, rfl⟩
  | some expr => exact .inr ⟨hcondition.mp rfl, expr, rfl⟩

/-- A source that is no join is crossed onto an earlier one by a cross join. -/
theorem crossedOnto_of_isJoin_eq_false {leaf : RowSource} (hleaf : leaf.isJoin = false)
    (earlier : RowSource) : leaf.crossedOnto earlier = join .cross earlier leaf none := by
  cases leaf with
  | join kind left right condition => cases hleaf
  | table source => rfl
  | cte id name => rfl
  | derived id query => rfl

/-- A tree in which no CROSS JOIN has a join on its right side is left as it is. -/
theorem regrouped_eq_self : (source : RowSource) → source.CrossesLeaves →
    source.regrouped = source
  | table _, _ | cte _ _, _ | derived _ _, _ => rfl
  | join kind left right condition, hleaves => by
    obtain ⟨hleft, hright, hleaf⟩ := hleaves
    by_cases hcross : kind = .cross ∧ condition = none
    · obtain ⟨rfl, rfl⟩ := hcross
      rw [regrouped, regrouped_eq_self left hleft, crossedOnto_of_isJoin_eq_false (hleaf rfl)]
    · rw [regrouped_join hcross, regrouped_eq_self left hleft, regrouped_eq_self right hright]

mutual

/-- No CROSS JOIN of a regrouped tree has a join on its right side. -/
theorem crossesLeaves_regrouped : (source : RowSource) → source.WellFormed d →
    source.regrouped.CrossesLeaves
  | table _, _ | cte _ _, _ | derived _ _, _ => trivial
  | join kind left right condition, hformed => by
    have hleft := crossesLeaves_regrouped left hformed.1
    rcases hformed.closed_or_cross with ⟨rfl, rfl⟩ | ⟨hkind, -⟩
    · exact crossesLeaves_crossedOnto right left.regrouped hformed.2.1 hleft
    · rw [regrouped_join fun hcross ↦ hkind hcross.1]
      exact ⟨hleft, crossesLeaves_regrouped right hformed.2.1, fun h ↦ absurd h hkind⟩

/-- If no CROSS JOIN of the earlier source has a join on its right side, then none has after
crossing. -/
theorem crossesLeaves_crossedOnto : (source earlier : RowSource) → source.WellFormed d →
    earlier.CrossesLeaves → (source.crossedOnto earlier).CrossesLeaves
  | table _, _, _, hearlier | cte _ _, _, _, hearlier | derived _ _, _, _, hearlier =>
    ⟨hearlier, trivial, fun _ ↦ rfl⟩
  | join kind left right condition, earlier, hformed, hearlier => by
    have hleft := crossesLeaves_crossedOnto left earlier hformed.1 hearlier
    rcases hformed.closed_or_cross with ⟨rfl, rfl⟩ | ⟨hkind, -⟩
    · exact crossesLeaves_crossedOnto right _ hformed.2.1 hleft
    · rw [crossedOnto_join fun hcross ↦ hkind hcross.1]
      exact ⟨hleft, crossesLeaves_regrouped right hformed.2.1, fun h ↦ absurd h hkind⟩

end

end WellFormed

end RowSource

/-! ### Links -/

/-- What is written behind the leftmost leaf of a join tree. -/
inductive JoinLink where
  /-- A leaf behind the name of a join. -/
  | joined (kind : JoinKind) (leaf : RowSource)
  /-- The condition of the join that was opened last and is not closed yet. -/
  | on (condition : Expr)

namespace JoinLink

/-- What is taken from a link. -/
def read {α : Type} (r : Reading α) (inside : Bool) : JoinLink → List α
  | joined kind leaf => r.text (" " ++ kind.spelling ++ " ") ++ leaf.read r inside
  | on condition => r.text " ON " ++ condition.read r inside

/-- The link joins such a table or is such a condition. -/
def BuiltFrom (tables : Table → Prop) (conditions : Expr → Prop) : JoinLink → Prop
  | joined _ leaf => ∃ source, leaf = .table source ∧ tables source
  | on condition => conditions condition

/-- Two links of one kind, with the same tables and conditions that are alike. -/
inductive Alike (alike : Expr → Expr → Prop) : JoinLink → JoinLink → Prop where
  | joined (kind : JoinKind) {leaf other : RowSource} (hleaf : leaf.SameJoins alike other) :
    Alike alike (joined kind leaf) (joined kind other)
  | on {condition other : Expr} (hcondition : alike condition other) :
    Alike alike (on condition) (on other)

end JoinLink

namespace RowSource

/-- The leftmost leaf. -/
def head : RowSource → RowSource
  | join _ left _ _ => left.head
  | leaf => leaf

/-- The links behind the leftmost leaf. -/
def links : RowSource → List JoinLink
  | join kind left right condition =>
    left.links ++ .joined kind right.head :: (right.links ++ (condition.map JoinLink.on).toList)
  | _ => []

/-- A join tree is read as its first leaf and the links behind it. -/
theorem read_eq_head_append_links {α : Type} (r : Reading α) (inside : Bool) :
    (source : RowSource) → source.read r inside =
      source.head.read r inside ++ source.links.flatMap (JoinLink.read r inside)
  | table _ | cte _ _ | derived _ _ => by simp [head, links]
  | join kind left right condition => by
    rw [RowSource.read, read_eq_head_append_links r inside left,
      read_eq_head_append_links r inside right]
    cases condition <;> simp [head, links, JoinLink.read, Expr.read?, Reading.clause]

/-- The first leaf of a join tree over tables is one of these tables. -/
theorem head_eq_table {tables : Table → Prop} {conditions : Expr → Prop} :
    (source : RowSource) → source.BuiltFrom tables conditions →
      ∃ leaf, source.head = .table leaf ∧ tables leaf
  | table leaf, hbuilt => ⟨leaf, rfl, hbuilt⟩
  | join _ left _ _, hbuilt => head_eq_table left hbuilt.1

/-- The links of a join tree are built from its tables and its conditions. -/
theorem builtFrom_of_mem_links {tables : Table → Prop} {conditions : Expr → Prop} :
    (source : RowSource) → source.BuiltFrom tables conditions →
      ∀ link ∈ source.links, link.BuiltFrom tables conditions
  | table _, _, _, hlink => absurd hlink List.not_mem_nil
  | join kind left right condition, hbuilt, link, hlink => by
    obtain ⟨hleft, hright, hcondition⟩ := hbuilt
    simp only [links, List.mem_append, List.mem_cons] at hlink
    rcases hlink with hlink | rfl | hlink | hlink
    · exact builtFrom_of_mem_links left hleft link hlink
    · exact head_eq_table right hright
    · exact builtFrom_of_mem_links right hright link hlink
    · obtain ⟨expr, rfl, rfl⟩ : ∃ expr, condition = some expr ∧ JoinLink.on expr = link := by
        simpa using hlink
      exact hcondition expr rfl

end RowSource

/-! ### Join trees from their links -/

/-- The join tree of a run of links behind a tree. The stack holds the joins that are open, the one
opened last in front, each with its left side. -/
def assemble : List (JoinKind × RowSource) → RowSource → List JoinLink → RowSource
  | _, current, [] => current
  | stack, current, .joined .cross leaf :: rest =>
    assemble stack (.join .cross current leaf none) rest
  | stack, current, .joined kind leaf :: rest => assemble ((kind, current) :: stack) leaf rest
  | (kind, left) :: stack, current, .on condition :: rest =>
    assemble stack (.join kind left current (some condition)) rest
  | [], current, .on _ :: rest => assemble [] current rest

/-- A source joined with a condition waits for the condition. -/
theorem assemble_joined {kind : JoinKind} (hkind : kind ≠ .cross)
    (stack : List (JoinKind × RowSource)) (current leaf : RowSource) (rest : List JoinLink) :
    assemble stack current (.joined kind leaf :: rest) =
      assemble ((kind, current) :: stack) leaf rest := by
  cases kind <;> first | rfl | exact absurd rfl hkind

section Assemble

variable {d : Dialect}

mutual

/-- The links of a join tree are assembled to the regrouped tree. -/
theorem assemble_links : (source : RowSource) → source.WellFormed d →
    ∀ (stack : List (JoinKind × RowSource)) (rest : List JoinLink),
      assemble stack source.head (source.links ++ rest) = assemble stack source.regrouped rest
  | .table _, _, _, _ | .cte _ _, _, _, _ | .derived _ _, _, _, _ => rfl
  | .join kind left right condition, hformed, stack, rest => by
    rw [RowSource.head, RowSource.links, List.append_assoc,
      assemble_links left hformed.1 stack, List.cons_append]
    rcases hformed.closed_or_cross with ⟨rfl, rfl⟩ | ⟨hkind, expr, rfl⟩
    · rw [Option.map_none, Option.toList_none, List.append_nil]
      exact assemble_cross_links right hformed.2.1 stack rest left.regrouped
    · rw [assemble_joined hkind, List.append_assoc, assemble_links right hformed.2.1,
        RowSource.regrouped_join fun hcross ↦ hkind hcross.1]
      rfl

/-- The links of a crossed source are assembled as crossing does it. -/
theorem assemble_cross_links : (source : RowSource) → source.WellFormed d →
    ∀ (stack : List (JoinKind × RowSource)) (rest : List JoinLink) (earlier : RowSource),
      assemble stack earlier (.joined .cross source.head :: (source.links ++ rest)) =
        assemble stack (source.crossedOnto earlier) rest
  | .table _, _, _, _, _ | .cte _ _, _, _, _, _ | .derived _ _, _, _, _, _ => rfl
  | .join kind left right condition, hformed, stack, rest, earlier => by
    rw [RowSource.head, RowSource.links, List.append_assoc,
      assemble_cross_links left hformed.1 stack, List.cons_append]
    rcases hformed.closed_or_cross with ⟨rfl, rfl⟩ | ⟨hkind, expr, rfl⟩
    · rw [Option.map_none, Option.toList_none, List.append_nil]
      exact assemble_cross_links right hformed.2.1 stack rest _
    · rw [assemble_joined hkind, List.append_assoc, assemble_links right hformed.2.1,
        RowSource.crossedOnto_join fun hcross ↦ hkind hcross.1]
      rfl

end

end Assemble

/-- Links that are alike are assembled to trees with the same joins. -/
theorem sameJoins_assemble {alike : Expr → Expr → Prop} {links otherLinks : List JoinLink}
    (hlinks : List.Forall₂ (JoinLink.Alike alike) links otherLinks)
    {current other : RowSource} (hcurrent : current.SameJoins alike other)
    {stack otherStack : List (JoinKind × RowSource)}
    (hstack : List.Forall₂ (fun opened otherOpened ↦
      opened.1 = otherOpened.1 ∧ opened.2.SameJoins alike otherOpened.2) stack otherStack) :
    (assemble stack current links).SameJoins alike (assemble otherStack other otherLinks) := by
  induction hlinks generalizing current other stack otherStack with
  | nil => exact hcurrent
  | cons hlink _ ih =>
    cases hlink with
    | joined kind hleaf =>
      by_cases hcross : kind = .cross
      · subst hcross
        exact ih (.join .cross hcurrent hleaf .none) hstack
      · rw [assemble_joined hcross, assemble_joined hcross]
        exact ih hleaf (.cons ⟨rfl, hcurrent⟩ hstack)
    | on hcondition =>
      cases hstack with
      | nil => exact ih hcurrent .nil
      | cons hopened hstack =>
        obtain ⟨hkind, hleft⟩ := hopened
        simp only [assemble]
        rw [hkind]
        exact ih (.join _ hleft hcurrent (.some hcondition)) hstack

end BoundSql
