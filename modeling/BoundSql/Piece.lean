import BoundSql.Dialect
import BoundSql.Value

/-!
# Pieces of a query

A `Piece` is text interleaved with bound values, in the order in which they were written.
Neighbouring texts are kept as one part and empty texts leave no part, so a piece has one form.
Placeholders are spelled only by `Piece.toQuery`, when the whole query stands in its final
order; until then pieces can be assembled in any order without renumbering anything.
-/

set_option autoImplicit false
set_option relaxedAutoImplicit false

namespace BoundSql

/-- A part of a piece. -/
inductive Part where
  /-- Text that is written as it stands. -/
  | text (characters : String)
  /-- A value, written as a placeholder. -/
  | value (bound : Value)
deriving DecidableEq, Inhabited

/-- Text interleaved with bound values. The parts are stored with the latest one first. -/
structure Piece where
  /-- The parts, the latest one first. -/
  latestFirst : List Part := []
deriving DecidableEq, Inhabited

/-- A query as a database driver takes it. -/
structure Query where
  /-- The text with its placeholders. -/
  sql : String
  /-- The values of the placeholders, in the order of the text. -/
  params : List Value
deriving DecidableEq, Inhabited

namespace Part

/-- The text of a run of parts in which `position` values come before the first of them. -/
def spell (style : ParamStyle) : Nat → List Part → String
  | _, [] => ""
  | position, .text characters :: rest => characters ++ spell style position rest
  | position, .value _ :: rest =>
    style.marker (position + 1) ++ spell style (position + 1) rest

/-- The values of a run of parts. -/
def values : List Part → List Value
  | [] => []
  | .text _ :: rest => values rest
  | .value bound :: rest => bound :: values rest

theorem values_append (earlier later : List Part) :
    values (earlier ++ later) = values earlier ++ values later := by
  induction earlier with
  | nil => rfl
  | cons part rest ih => cases part <;> simp [values, ih]

end Part

namespace Piece

/-- The piece in which nothing is written. -/
def empty : Piece := ⟨[]⟩

instance : EmptyCollection Piece := ⟨empty⟩

/-- The parts in the order of the text. -/
def parts (piece : Piece) : List Part := piece.latestFirst.reverse

/-- Writes text at the end, joined with the text that is there already. -/
def pushText (piece : Piece) (characters : String) : Piece :=
  if characters = "" then piece
  else
    match piece.latestFirst with
    | .text before :: earlier => ⟨.text (before ++ characters) :: earlier⟩
    | earlier => ⟨.text characters :: earlier⟩

/-- Writes a value at the end. -/
def pushValue (piece : Piece) (bound : Value) : Piece :=
  ⟨.value bound :: piece.latestFirst⟩

/-- Writes a part at the end. -/
def pushPart (piece : Piece) : Part → Piece
  | .text characters => piece.pushText characters
  | .value bound => piece.pushValue bound

/-- Writes another piece at the end. -/
def append (piece other : Piece) : Piece :=
  other.parts.foldl pushPart piece

instance : Append Piece := ⟨append⟩

/-- Tells whether nothing is written. -/
def isEmpty (piece : Piece) : Bool := piece.latestFirst.isEmpty

/-- The bound values in the order of the text. -/
def values (piece : Piece) : List Value := Part.values piece.parts

/-- Spells the placeholders, numbered in the order of the text, and collects their values. -/
def toQuery (piece : Piece) (style : ParamStyle) : Query where
  sql := Part.spell style 0 piece.parts
  params := piece.values

/-- Text carries no values. -/
theorem values_pushText (piece : Piece) (characters : String) :
    (piece.pushText characters).values = piece.values := by
  unfold pushText
  split
  · rfl
  · split
    · rename_i before earlier hparts
      simp [values, parts, hparts, Part.values_append, Part.values]
    · simp [values, parts, Part.values_append, Part.values]

/-- A value is the last one when it is written. -/
theorem values_pushValue (piece : Piece) (bound : Value) :
    (piece.pushValue bound).values = piece.values ++ [bound] := by
  simp [values, parts, pushValue, Part.values_append, Part.values]

theorem values_pushPart (piece : Piece) (part : Part) :
    (piece.pushPart part).values = piece.values ++ Part.values [part] := by
  cases part with
  | text characters => simpa [Part.values, pushPart] using values_pushText piece characters
  | value bound => simpa [Part.values, pushPart] using values_pushValue piece bound

end Piece

end BoundSql
