import BoundSql.Proofs.AliasWords
import BoundSql.Proofs.Scopes.Layout
import BoundSql.Proofs.TwoPassRendering

/-!
# Outlines of rendered texts

A rendered text is what its outline spells (`Node.sql_eq_spell_outline`). The outline of a statement
speaks of a relation exactly where one occurs in the tree (`Statement.mem_flatAll_outline`), and the
alias of a relation of which it speaks is that of no other (`Node.aliasOf_inj`).
-/

set_option autoImplicit false
set_option relaxedAutoImplicit false

namespace BoundSql

variable {d : Dialect}

namespace Node

variable {node : Node} {query : Query}

/-- What a node writes, with every alias as what it is written for. -/
def outline (d : Dialect) (node : Node) : List Mark := (node.layout d).outline false

/-- A rendered text is what its outline spells. -/
theorem sql_eq_spell_outline (hrender : node.render d = .ok query) :
    query.sql =
      Part.spell d.paramStyle 0
        (((Mark.flatAll (node.outline d)).flatMap Mark.tokens).map
          (Token.part d (node.aliasOf d))) := by
  rw [sql_of_render hrender, parts, tokens, outline, Layout.flatMap_tokens_outline,
    node.read_layout (Reading.tokens_fits d) (accepted_of_render hrender)]

/-- The relations in an outline are on the list of the first pass. -/
theorem mem_meetingOrder_of_mark (haccepted : (node.layout d).Accepted d) {mark : Mark}
    (hmark : mark ∈ Mark.flatAll (node.outline d)) {relation : Identity}
    (hrelation : mark.relation? = some relation) : relation ∈ node.meetingOrder d := by
  have hmet := Layout.mem_meetings_of_mark (d := d) hmark hrelation
  rw [node.read_layout (Reading.meetings_fits d) haccepted] at hmet
  exact List.mem_eraseDups.mpr hmet

/-- A relation whose alias is written is on the list of the first pass. -/
theorem mem_meetingOrder_of_mention (haccepted : (node.layout d).Accepted d) {relation : Identity}
    (hmention : .mention relation ∈ node.tokens d) : relation ∈ node.meetingOrder d := by
  rw [tokens, ← node.read_layout (Reading.tokens_fits d) haccepted,
    ← Layout.flatMap_tokens_outline, List.mem_flatMap] at hmention
  obtain ⟨mark, hmark, hwritten⟩ := hmention
  refine mem_meetingOrder_of_mark haccepted hmark ?_
  cases mark with
  | token written =>
    obtain rfl := List.mem_singleton.mp hwritten
    rfl
  | declaration met =>
    obtain rfl := Token.mention.inj (List.mem_singleton.mp hwritten)
    rfl
  | reference met =>
    obtain rfl := Token.mention.inj (List.mem_singleton.mp hwritten)
    rfl
  | definition met => cases hwritten
  | statement inside => cases hwritten

/-- No other relation has the alias of one that is met. -/
theorem aliasOf_inj {relation : Identity} (hmet : relation ∈ node.meetingOrder d)
    (other : Identity) (hsame : node.aliasOf d relation = node.aliasOf d other) :
    relation = other :=
  (List.idxOf_inj hmet).mp (aliasWord_injective hsame)

end Node

namespace Statement

variable {statement : Statement}

/-- Without its text, the outline of a statement shows where relations occur in it. -/
theorem bareAll_outline (haccepted : (statement.layout d).Accepted d) :
    Mark.bareAll ((Node.statement statement).outline d) =
      Occurrence.marksAll d statement.occurrences :=
  Statement.skeleton_layout false statement ((Statement.accepted_layout_iff statement).mp haccepted)

/-- The outline of a statement speaks of a relation where it occurs at some depth. -/
theorem mem_flatAll_outline (haccepted : (statement.layout d).Accepted d) {mark : Mark}
    (hmark : mark.isToken = false) :
    mark ∈ Mark.flatAll ((Node.statement statement).outline d) ↔
      ∃ occurrence ∈ Occurrence.flatAll statement.occurrences, mark ∈ occurrence.marks d := by
  rw [← Mark.mem_flatAll_bareAll hmark, bareAll_outline haccepted, Occurrence.flatAll_marksAll,
    List.mem_flatMap]

end Statement

end BoundSql
