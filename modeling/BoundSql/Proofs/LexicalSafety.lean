import BoundSql.Proofs.Lexical.Layout
import BoundSql.Tree.Builder

/-!
# Lexical safety

A lexer that reads names between their quotes finds nothing in the rest of a rendered text that
would reach beyond it: its parentheses are balanced, and it ends no statement and opens neither a
string nor a comment (`Node.outside_safe`). This holds of the texts outside of quotes taken
together, so no two of them can do with a name between them what none of them does alone.
-/

set_option autoImplicit false
set_option relaxedAutoImplicit false

namespace BoundSql

namespace Node

variable {d : Dialect} {node : Node} {query : Query}

/-- What a lexer finds outside of quotes is what the tokens of the node write there. -/
theorem flatten_outsideQuotes_of_render (hquote : d.quote = '"' ∨ d.quote = '\x60')
    (hrender : node.render d = .ok query) :
    (Text.outsideQuotes d.quote query.sql.toList).flatten =
      Token.unquoted d (node.aliasOf d) 0 (node.tokens d) := by
  have hfree := quote_not_mem_segments_of_render hquote hrender
  rw [toList_sql_of_render hrender, Segment.outsideQuotes_textOf hfree, Segment.flatten_outside]
  rfl

/-- No function name, no type of a cast, no limit, no nesting and no sequence of operators closes
what stands around it, ends the statement, or opens a string or a comment. -/
theorem outside_safe (hquote : d.quote = '"' ∨ d.quote = '\x60')
    (hrender : node.render d = .ok query) :
    Text.Safe (Text.outsideQuotes d.quote query.sql.toList).flatten := by
  have haccepted := accepted_of_render hrender
  have hleads := node.balanced_layout haccepted (node.aliasOf d) 0 false
  rw [flatten_outsideQuotes_of_render hquote hrender, tokens,
    ← node.read_layout (Reading.tokens_fits d) haccepted]
  exact hleads.safe

end Node

/-! ### A query that tries to get out -/

/-- A SELECT without a limit whose minus signs meet each other, whose type has a modifier, and whose
names end statements and open comments. -/
def unruly : Node :=
  .statement (.select
    (((Select.blank.selecting
      [.named (.cast (.unary .neg (.unary .neg (.literal (.int (-1))))) "NUMERIC(10, 2)[]") "); --",
        .plain (.binary .sub (.column ⟨⟨0⟩, "it's"⟩) (.unary .neg (.column ⟨⟨0⟩, "/*"⟩))),
        .plain (.binary .div .star .countStar)]).fromSource (.table ⟨⟨0⟩, "x;", none⟩)).skipping 5))

/-- What the SELECT is rendered to. -/
def unrulyQuery : Query where
  sql :=
    "SELECT CAST((- (- ?)) AS NUMERIC(10, 2)[]) AS \"); --\", " ++
    "(\"a\".\"it's\" - (- \"a\".\"/*\")), (* / COUNT(*)) FROM \"x;\" AS \"a\" " ++
    "LIMIT -1 OFFSET 5"
  params := [.int (-1)]

/-- All that looks like an end or a comment stands between quotes, and what stands outside is
safe. -/
theorem outside_safe_unruly :
    unruly.render .sqlite = .ok unrulyQuery ∧
      (Text.outsideQuotes '"' unrulyQuery.sql.toList).flatten =
        ("SELECT CAST((- (- ?)) AS NUMERIC(10, 2)[]) AS , (. - (- .)), (* / COUNT(*)) " ++
          "FROM  AS  LIMIT -1 OFFSET 5").toList ∧
      Text.Safe (Text.outsideQuotes '"' unrulyQuery.sql.toList).flatten := by
  have hrender : unruly.render .sqlite = .ok unrulyQuery := by decide +kernel
  exact ⟨hrender, by decide +kernel, Node.outside_safe (d := .sqlite) (.inl rfl) hrender⟩

end BoundSql
