import BoundSql.Proofs.QuotedText.Tokens
import BoundSql.Proofs.Relabeling.Reading

/-!
# Names stay between their quotes

Under a double quote or a backtick a lexer that splits a text at the quotes finds exactly the names
of the tree and the aliases between them, and what it finds outside does not depend on any name
(`Node.names_confined`). Two trees that differ only in their names become the same when all names
are forgotten, so the texts of both become the same when everything between quotes is taken out.
-/

set_option autoImplicit false
set_option relaxedAutoImplicit false

namespace BoundSql

/-- Forgetting the names before reading is forgetting them in the tokens. -/
theorem Reading.tokens_relabeled_forgetNames (d : Dialect) :
    (tokens d).relabeled .forgetNames = (tokens d).flatMap fun token ↦ [token.forgetName] := by
  have htext (characters : String) :
      (Token.ofText characters).flatMap (fun token ↦ [token.forgetName]) =
        Token.ofText characters := by
    unfold Token.ofText
    split <;> rfl
  simp only [relabeled, flatMap, tokens, Relabeling.forgetNames, htext, List.flatMap_append]
  congr 1
  funext relation
  split
  · rw [List.flatMap_append, htext]
    rfl
  · rfl

namespace Node

variable {d : Dialect} {node other : Node} {query otherQuery : Query}

/-- The tokens of a node without its names. -/
theorem tokens_relabel_forgetNames (haccepted : (node.layout d).Accepted d) :
    (node.relabel .forgetNames).tokens d = (node.tokens d).map Token.forgetName := by
  have hfits := Reading.tokens_fits d
  rw [tokens, tokens, node.read_relabel, Reading.tokens_relabeled_forgetNames,
    ← node.read_layout (hfits.flatMap _) haccepted, ← node.read_layout hfits haccepted,
    Layout.read_flatMap, List.map_eq_flatMap]

/-- Forgetting the names changes no value. -/
theorem read_literals_relabel_forgetNames (node : Node) :
    (node.relabel .forgetNames).read .literals = node.read .literals := node.read_relabel

/-- Nodes that differ only in their names have the same segments outside of quotes. -/
theorem map_blank_segments_eq (hsame : other.relabel .forgetNames = node.relabel .forgetNames)
    (haccepted : (node.layout d).Accepted d) (hother : (other.layout d).Accepted d) :
    (other.segments d).map Segment.blank = (node.segments d).map Segment.blank := by
  have htokens : (other.tokens d).map Token.forgetName = (node.tokens d).map Token.forgetName := by
    rw [← tokens_relabel_forgetNames hother, hsame, tokens_relabel_forgetNames haccepted]
  unfold segments
  rw [← Token.map_blank_segments (other.aliasOf d), htokens, Token.map_blank_segments]

/-- Identifiers never escape their quotes: the quotes of a text come in pairs, between them stand
the names of the tree and the aliases in the order of the text, and what stands outside is the same
for every tree that differs only in its names. -/
theorem names_confined (hquote : d.quote = '"' ∨ d.quote = '\x60')
    (hrender : node.render d = .ok query) :
    query.sql.toList.count d.quote = 2 * (node.read (.quotes d (node.aliasOf d))).length ∧
    Text.betweenQuotes d.quote query.sql.toList =
      (node.read (.quotes d (node.aliasOf d))).map String.toList ∧
    ∀ (other : Node) (otherQuery : Query),
      other.relabel .forgetNames = node.relabel .forgetNames →
      other.render d = .ok otherQuery →
        Text.blankQuoted d.quote false otherQuery.sql.toList =
          Text.blankQuoted d.quote false query.sql.toList ∧
        otherQuery.params = query.params := by
  have haccepted := accepted_of_render hrender
  have hfree := quote_not_mem_segments_of_render hquote hrender
  have hbetween : (node.segments d).flatMap Segment.between =
      (node.read (.quotes d (node.aliasOf d))).map String.toList := by
    rw [segments, Token.flatMap_between_segments, read_quotes haccepted]
  rw [toList_sql_of_render hrender]
  refine ⟨?_, ?_, fun other otherQuery hsame hother ↦ ⟨?_, ?_⟩⟩
  · rw [Segment.count_textOf hfree, hbetween, List.length_map]
  · rw [Segment.betweenQuotes_textOf hfree, hbetween]
  · -- The segments differ only between quotes, where nothing is left.
    have hotherFree := quote_not_mem_segments_of_render hquote hother
    rw [toList_sql_of_render hother, Segment.blankQuoted_textOf hotherFree,
      Segment.blankQuoted_textOf hfree,
      map_blank_segments_eq hsame haccepted (accepted_of_render hother)]
  · rw [params_eq_literals_of_render hother, params_eq_literals_of_render hrender,
      ← read_literals_relabel_forgetNames node, ← read_literals_relabel_forgetNames other, hsame]

end Node

/-- A lexer finds the names of the UPDATE between its quotes, and a name that looks like a
placeholder leaves no trace outside. -/
theorem names_confined_repricing :
    (repricing "goods" "price").render .postgres = .ok (repriced "goods" "price") ∧
      (repricing "wares" "cost $1").render .postgres = .ok (repriced "wares" "cost $1") ∧
      (repriced "goods" "price").sql.toList.count '"' = 50 ∧
      Text.betweenQuotes '"' (repriced "goods" "price").sql.toList =
        ["a", "rate", "rates", "b", "b", "since", "shop", "goods", "d", "price", "a", "rate", "a",
          "a", "orders", "c", "c", "item", "d", "id", "c", "state", "d", "price",
          "charged"].map String.toList ∧
      Text.blankQuoted '"' false (repriced "wares" "cost $1").sql.toList =
        Text.blankQuoted '"' false (repriced "goods" "price").sql.toList := by
  have hother : (repricing "wares" "cost $1").render .postgres =
      .ok (repriced "wares" "cost $1") := by decide +kernel
  have hquotes : (repricing "goods" "price").read
      (.quotes .postgres ((repricing "goods" "price").aliasOf .postgres)) =
        ["a", "rate", "rates", "b", "b", "since", "shop", "goods", "d", "price", "a", "rate", "a",
          "a", "orders", "c", "c", "item", "d", "id", "c", "state", "d", "price", "charged"] := by
    decide +kernel
  obtain ⟨hcount, hbetween, hsame⟩ :=
    Node.names_confined (d := .postgres) (.inl rfl) render_repricing
  rw [hquotes] at hcount hbetween
  have hblank := hsame (repricing "wares" "cost $1") _ rfl hother
  exact ⟨render_repricing, hother, hcount, hbetween, hblank.1⟩

end BoundSql
