import BoundSql.Proofs.Reading.Layout
import BoundSql.Proofs.Reading.Run
import BoundSql.Tree.Builder

/-!
# Rendering in two passes

A renderer hands out aliases while it goes through a tree clause by clause. `Node.twoPass` needs no
state: a first pass lists the relations in the order in which they are met, and a second pass writes
the clauses strictly from left to right, with every alias fixed by the place of its relation on that
list. Whatever is rendered is what the two passes give (`Node.render_eq_twoPass`).
-/

set_option autoImplicit false
set_option relaxedAutoImplicit false

namespace BoundSql

/-- Written with any aliases, tokens have the same values. -/
theorem Token.values_map_part {d : Dialect} {aliasOf : Identity → String} (tokens : List Token) :
    Part.values (tokens.map (Token.part d aliasOf)) = tokens.flatMap Token.literals := by
  induction tokens with
  | nil => rfl
  | cons token rest ih => cases token <;> simp [Token.part, Part.values, Token.literals, ih]

namespace Node

/-! ### The two passes -/

/-- The first pass: the relations of a node in the order in which they are first met. -/
def meetingOrder (d : Dialect) (node : Node) : List Identity := (node.read (.meetings d)).eraseDups

/-- The alias of a relation, from its place on the list of the first pass. -/
def aliasOf (d : Dialect) (node : Node) (relation : Identity) : String :=
  aliasWord ((node.meetingOrder d).idxOf relation)

/-- The tokens of a node from left to right. -/
def tokens (d : Dialect) (node : Node) : List Token := node.read (.tokens d)

/-- The second pass: the tokens of a node with the aliases of the first pass. -/
def parts (d : Dialect) (node : Node) : List Part :=
  (node.tokens d).map (Token.part d (node.aliasOf d))

/-- The query of a node by two passes. Placeholders are numbered from left to right. -/
def twoPass (d : Dialect) (node : Node) : Query where
  sql := Part.spell d.paramStyle 0 (node.parts d)
  params := Part.values (node.parts d)

variable {d : Dialect} {node : Node} {query : Query}

/-- The values of a node are the values of its tokens. -/
theorem read_literals (haccepted : (node.layout d).Accepted d) :
    node.read .literals = (node.tokens d).flatMap Token.literals := by
  rw [tokens, ← node.read_layout (Reading.literals_fits d) haccepted,
    ← node.read_layout (Reading.tokens_fits d) haccepted, Layout.read_literals d]

/-- What a node writes between quotes is what its tokens write there. -/
theorem read_quotes (haccepted : (node.layout d).Accepted d) (aliasOf : Identity → String) :
    node.read (.quotes d aliasOf) = (node.tokens d).flatMap (Token.quotes aliasOf) := by
  rw [tokens, ← node.read_layout (Reading.quotes_fits d aliasOf) haccepted,
    ← node.read_layout (Reading.tokens_fits d) haccepted, Layout.read_quotes]

/-! ### What is rendered -/

/-- A query that is rendered is that of the output of a run from the empty state. -/
theorem run_of_render (hrender : node.render d = .ok query) :
    ∃ after : RenderState, (node.layout d).run d {} = .ok () after ∧
      query = after.output.toQuery d.paramStyle := by
  unfold render at hrender
  split at hrender
  · rename_i after hrun
    exact ⟨after, hrun, (Except.ok.inj hrender).symm⟩
  · cases hrender

/-- What is rendered has been accepted as a whole. -/
theorem accepted_of_render (hrender : node.render d = .ok query) :
    (node.layout d).Accepted d := by
  obtain ⟨after, hrun, -⟩ := run_of_render hrender
  exact (Layout.completes_of_run hrun).accepted

/-- A rendering ends with a roster that lists the relations of the first pass. -/
theorem roster_members_of_run {after : RenderState}
    (hrun : (node.layout d).run d {} = .ok () after) :
    after.context.roster.members = node.meetingOrder d := by
  have hcompletes := Layout.completes_of_run hrun
  have hmeetings := node.read_layout (Reading.meetings_fits d) hcompletes.accepted
  have hroster : after.context.roster = Roster.empty.visitAll (node.read (.meetings d)) := by
    rw [hcompletes.context_eq, ← hmeetings]
    rfl
  rw [hroster, Roster.members_visitAll_empty, meetingOrder]

/-- A rendering ends with the aliases of the first pass. -/
theorem roster_aliasOf_of_run {after : RenderState}
    (hrun : (node.layout d).run d {} = .ok () after) :
    after.context.roster.aliasOf = node.aliasOf d := by
  funext relation
  rw [Roster.aliasOf, roster_members_of_run hrun, aliasOf]

/-- What is rendered are the parts of the second pass. -/
theorem output_eq_pushParts_of_run {after : RenderState}
    (hrun : (node.layout d).run d {} = .ok () after) :
    after.output = (∅ : Piece).pushParts (node.parts d) := by
  have hcompletes := Layout.completes_of_run hrun
  have htokens : (node.layout d).read (.tokens d) false = node.tokens d :=
    node.read_layout (Reading.tokens_fits d) hcompletes.accepted
  have houtput : after.output = (∅ : Piece).pushParts
      (((node.layout d).read (.tokens d) false).map
        (Token.part d after.context.roster.aliasOf)) := hcompletes.output_at_end
  rw [houtput, htokens, roster_aliasOf_of_run hrun, parts]

/-- The text of a query is spelled from the parts of the second pass. -/
theorem sql_of_render (hrender : node.render d = .ok query) :
    query.sql = Part.spell d.paramStyle 0 (node.parts d) := by
  obtain ⟨after, hrun, rfl⟩ := run_of_render hrender
  rw [output_eq_pushParts_of_run hrun, Piece.toQuery_pushParts_empty]

/-- The parameters of a query are the values among the parts of the second pass. -/
theorem params_of_render (hrender : node.render d = .ok query) :
    query.params = Part.values (node.parts d) := by
  obtain ⟨after, hrun, rfl⟩ := run_of_render hrender
  rw [output_eq_pushParts_of_run hrun, Piece.toQuery_pushParts_empty]

/-- The parameters are the values of the tree in the order of the text. -/
theorem params_eq_literals_of_render (hrender : node.render d = .ok query) :
    query.params = node.read .literals := by
  rw [params_of_render hrender, read_literals (accepted_of_render hrender), parts,
    Token.values_map_part]

/-- The renderer refines the two passes: whatever it yields, the two passes yield the same text and
the same values. -/
theorem render_eq_twoPass (hrender : node.render d = .ok query) : query = node.twoPass d := by
  obtain ⟨sql, params⟩ := query
  have hsql : sql = (node.twoPass d).sql := sql_of_render hrender
  have hparams : params = (node.twoPass d).params := params_of_render hrender
  rw [hsql, hparams]

end Node

/-! ### An UPDATE in two passes -/

/-- An UPDATE of the prices in `table`, whose relations are met in another order than they are
written. -/
def repricing (table price : String) : Node :=
  let goods : Table := ⟨⟨0⟩, table, some "shop"⟩
  let rates : Table := ⟨⟨1⟩, "rates", none⟩
  let orders : Table := ⟨⟨2⟩, "orders", none⟩
  let current : Cte :=
    ⟨⟨3⟩, none, ["rate"], false,
      .select ((Select.blank.fromSource (.table rates)).filtered
        (.binary .gt (.column (rates.column "since")) (.literal (.int 2020))))⟩
  let ordered : Select :=
    (Select.blank.fromSource (.table orders)).filtered
      (.connected .and
        [.binary .eq (.column (orders.column "item")) (.column (goods.column "id")),
          .inList (.column (orders.column "state")) false
            [.literal (.text "paid"), .literal (.text "sent")]])
  .statement
    (.update
      ⟨[current], goods, [goods.column price],
        .each [.binary .mul (.column ⟨⟨3⟩, "rate"⟩) (.literal (.int 100))],
        [.cte ⟨3⟩ none], some (.existsQuery (.select ordered)),
        [.named (.column (goods.column price)) "charged"]⟩)

/-- The query of `repricing`. The target is written first, but its alias comes after those of the
common table expression, of the table that this one reads, and of the orders. -/
def repriced (table price : String) : Query where
  sql :=
    "WITH \"a\" (\"rate\") AS (SELECT * FROM \"rates\" AS \"b\" " ++
    "WHERE (\"b\".\"since\" > $1)) " ++
    "UPDATE \"shop\".\"" ++ table ++ "\" AS \"d\" SET \"" ++ price ++
    "\" = (\"a\".\"rate\" * $2) FROM \"a\" AS \"a\" " ++
    "WHERE (EXISTS (SELECT * FROM \"orders\" AS \"c\" " ++
    "WHERE ((\"c\".\"item\" = \"d\".\"id\") AND (\"c\".\"state\" IN ($3, $4))))) " ++
    "RETURNING \"d\".\"" ++ price ++ "\" AS \"charged\""
  params := [.int 2020, .int 100, .text "paid", .text "sent"]

theorem render_repricing :
    (repricing "goods" "price").render .postgres = .ok (repriced "goods" "price") := by
  decide +kernel

theorem repriced_eq_twoPass :
    (repricing "goods" "price").render .postgres = .ok (repriced "goods" "price") ∧
      repriced "goods" "price" = (repricing "goods" "price").twoPass .postgres :=
  ⟨render_repricing, Node.render_eq_twoPass render_repricing⟩

end BoundSql
