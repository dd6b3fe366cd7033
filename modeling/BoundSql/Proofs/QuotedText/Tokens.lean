import BoundSql.Proofs.PlainText.Layout
import BoundSql.Proofs.QuotedText.Segments
import BoundSql.Proofs.TwoPassRendering

/-!
# The segments of a query

The tokens of a node are spelled as segments: texts and placeholders stand outside of quotes, names
and aliases between them (`Token.toList_spell`). Under a double quote or a backtick no segment holds
the quote itself (`Token.quote_not_mem_segments`), because names are checked, aliases have small
letters only, and everything else is plain.
-/

set_option autoImplicit false
set_option relaxedAutoImplicit false

namespace BoundSql

namespace Token

/-- The segments of a run of tokens in which `position` values come before the first of them. -/
def segments (d : Dialect) (aliasOf : Identity → String) : Nat → List Token → List Segment
  | _, [] => []
  | position, text characters :: rest =>
    .bare characters.toList :: segments d aliasOf position rest
  | position, value _ :: rest =>
    .bare (d.paramStyle.marker (position + 1)).toList :: segments d aliasOf (position + 1) rest
  | position, name supplied :: rest =>
    .quoted supplied.toList :: segments d aliasOf position rest
  | position, mention relation :: rest =>
    .quoted (aliasOf relation).toList :: segments d aliasOf position rest

/-- The token with its name left out. -/
def forgetName : Token → Token
  | name _ => name ""
  | other => other

variable {d : Dialect} {aliasOf : Identity → String}

/-- The text of a run of tokens is the text of its segments. -/
theorem toList_spell (position : Nat) (tokens : List Token) :
    (Part.spell d.paramStyle position (tokens.map (part d aliasOf))).toList =
      Segment.textOf d.quote (segments d aliasOf position tokens) := by
  induction tokens generalizing position with
  | nil => rfl
  | cons token rest ih =>
    cases token <;>
      simp [part, Part.spell, segments, ih, Dialect.enclose, Segment.textOf_bare_cons,
        Segment.textOf_quoted_cons]

/-- What stands between quotes are the names and the aliases. -/
theorem flatMap_between_segments (position : Nat) (tokens : List Token) :
    (segments d aliasOf position tokens).flatMap Segment.between =
      (tokens.flatMap (quotes aliasOf)).map String.toList := by
  induction tokens generalizing position with
  | nil => rfl
  | cons token rest ih => cases token <;> simp [segments, Segment.between, quotes, ih]

/-- Without the names and the aliases, the segments do not depend on either. -/
theorem map_blank_segments (first second : Identity → String) (position : Nat)
    (tokens : List Token) :
    (segments d first position (tokens.map forgetName)).map Segment.blank =
      (segments d second position tokens).map Segment.blank := by
  induction tokens generalizing position with
  | nil => rfl
  | cons token rest ih => cases token <;> simp [segments, forgetName, Segment.blank, ih]

end Token

/-! ### Quotes inside segments -/

namespace Dialect

variable {d : Dialect}

theorem quote_not_mem_of_nameFault?_eq_none {name : String} (hname : d.nameFault? name = none) :
    d.quote ∉ name.toList := by
  intro hmem
  simp only [nameFault?, if_pos hmem] at hname
  split at hname <;> cases hname

variable (hquote : d.quote = '"' ∨ d.quote = '\x60')
include hquote

theorem isPlain_quote : Text.isPlain d.quote = false := by
  rcases hquote with h | h <;> rw [h] <;> decide

theorem quote_not_mem_of_all_isPlain {characters : List Char}
    (hplain : characters.all Text.isPlain = true) : d.quote ∉ characters := by
  intro hmem
  have hquoted := List.all_eq_true.mp hplain d.quote hmem
  rw [isPlain_quote hquote] at hquoted
  cases hquoted

theorem quote_not_mem_of_writes {characters : String} (hwrites : d.Writes characters) :
    d.quote ∉ characters.toList := by
  rcases hwrites with hplain | rfl
  · rw [Text.isPlainText, Bool.and_eq_true] at hplain
    exact quote_not_mem_of_all_isPlain hquote hplain.1
  · unfold operator
    rcases hquote with h | h <;> rw [h] <;> split <;> decide

theorem quote_not_mem_marker (style : ParamStyle) (position : Nat) :
    d.quote ∉ (style.marker position).toList := by
  cases style with
  | format => rcases hquote with h | h <;> rw [h, ParamStyle.marker] <;> decide
  | qmark => rcases hquote with h | h <;> rw [h, ParamStyle.marker] <;> decide
  | numeric =>
    rw [ParamStyle.marker, String.toList_append, List.mem_append, not_or]
    refine ⟨?_, quote_not_mem_of_all_isPlain hquote (Text.all_isPlain_toString position)⟩
    rcases hquote with h | h <;> rw [h] <;> decide

theorem quote_not_mem_aliasWord (index : Nat) : d.quote ∉ (aliasWord index).toList := by
  intro hmem
  have hlower := isLower_of_mem_aliasWord hmem
  rcases hquote with h | h <;> rw [h] at hlower <;> revert hlower <;> decide

end Dialect

/-- No segment holds the quote itself. -/
theorem Token.quote_not_mem_segments {d : Dialect} {aliasOf : Identity → String}
    (hquote : d.quote = '"' ∨ d.quote = '\x60')
    (haliases : ∀ relation, d.quote ∉ (aliasOf relation).toList) (position : Nat)
    {tokens : List Token} (hwritten : ∀ token ∈ tokens, token.Written d) :
    ∀ segment ∈ segments d aliasOf position tokens, d.quote ∉ segment.characters := by
  induction tokens generalizing position with
  | nil => simp [segments]
  | cons token rest ih =>
    obtain ⟨htoken, hrest⟩ := List.forall_mem_cons.mp hwritten
    cases token with
    | text characters =>
      exact List.forall_mem_cons.mpr
        ⟨Dialect.quote_not_mem_of_writes hquote htoken, ih position hrest⟩
    | value bound =>
      exact List.forall_mem_cons.mpr
        ⟨Dialect.quote_not_mem_marker hquote d.paramStyle (position + 1), ih (position + 1) hrest⟩
    | name supplied =>
      exact List.forall_mem_cons.mpr
        ⟨Dialect.quote_not_mem_of_nameFault?_eq_none htoken, ih position hrest⟩
    | mention relation =>
      exact List.forall_mem_cons.mpr ⟨haliases relation, ih position hrest⟩

/-! ### The text of a node -/

namespace Node

/-- The segments of a node from left to right. -/
def segments (d : Dialect) (node : Node) : List Segment :=
  Token.segments d (node.aliasOf d) 0 (node.tokens d)

variable {d : Dialect} {node : Node} {query : Query}

/-- What is rendered is the text of the segments. -/
theorem toList_sql_of_render (hrender : node.render d = .ok query) :
    query.sql.toList = Segment.textOf d.quote (node.segments d) := by
  rw [sql_of_render hrender]
  exact Token.toList_spell 0 (node.tokens d)

/-- All tokens of a node that is rendered are written as they should be. -/
theorem written_of_render (hrender : node.render d = .ok query) :
    ∀ token ∈ node.tokens d, token.Written d := by
  have haccepted := accepted_of_render hrender
  rw [tokens, ← node.read_layout (Reading.tokens_fits d) haccepted]
  exact node.plain_layout.written haccepted false

/-- No segment of a node that is rendered holds the quote itself. -/
theorem quote_not_mem_segments_of_render (hquote : d.quote = '"' ∨ d.quote = '\x60')
    (hrender : node.render d = .ok query) :
    ∀ segment ∈ node.segments d, d.quote ∉ segment.characters :=
  Token.quote_not_mem_segments hquote
    (fun _ ↦ Dialect.quote_not_mem_aliasWord hquote _) 0 (written_of_render hrender)

end Node

end BoundSql
