import BoundSql.Piece

/-!
# Assembling pieces

`Piece.pushParts` writes a list of parts at the end of a piece. Whatever is written into a piece of
its own and then appended could have been written in place (`Piece.append_pushParts_empty`), and the
query of a piece is spelled from the parts as they were pushed, however neighbouring texts were
joined on the way (`Piece.toQuery_pushParts_empty`).
-/

set_option autoImplicit false
set_option relaxedAutoImplicit false

namespace BoundSql

namespace Part

/-- The later parts continue the numbering of the placeholders where the earlier ones end. -/
theorem spell_append (style : ParamStyle) (earlier later : List Part) (position : Nat) :
    spell style position (earlier ++ later) =
      spell style position earlier ++ spell style (position + (values earlier).length) later := by
  induction earlier generalizing position with
  | nil => simp [spell, values]
  | cons part rest ih =>
    cases part with
    | text characters => simp [spell, values, ih, String.append_assoc]
    | value bound =>
      simp only [List.cons_append, spell, values, ih, String.append_assoc, List.length_cons]
      rw [Nat.add_assoc, Nat.add_comm 1]

end Part

namespace Piece

/-- Writes parts at the end, one after the other. -/
def pushParts (piece : Piece) (later : List Part) : Piece := later.foldl pushPart piece

theorem pushParts_nil (piece : Piece) : piece.pushParts [] = piece := rfl

theorem pushParts_append (piece : Piece) (earlier later : List Part) :
    piece.pushParts (earlier ++ later) = (piece.pushParts earlier).pushParts later :=
  List.foldl_append

theorem append_def (piece other : Piece) : piece ++ other = piece.pushParts other.parts := rfl

theorem append_empty (piece : Piece) : piece ++ (∅ : Piece) = piece := rfl

/-- Two texts in a row are one text. -/
theorem pushText_pushText (piece : Piece) (earlier later : String) :
    (piece.pushText earlier).pushText later = piece.pushText (earlier ++ later) := by
  unfold pushText
  by_cases hearlier : earlier = ""
  · simp [hearlier]
  · by_cases hlater : later = ""
    · simp [hlater]
    · have hboth : earlier ++ later ≠ "" := by
        intro h
        exact hearlier (String.append_eq_empty_iff.mp h).1
      rw [if_neg hlater, if_neg hboth, if_neg hearlier]
      cases piece.latestFirst with
      | nil => rfl
      | cons part rest => cases part <;> simp [String.append_assoc]

/-- A part written at the end of a piece is written at the end of what the piece is appended to. -/
theorem append_pushPart (piece other : Piece) (part : Part) :
    piece ++ other.pushPart part = (piece ++ other).pushPart part := by
  cases part with
  | value bound => simp [append_def, pushPart, pushValue, parts, pushParts]
  | text characters =>
    simp only [pushPart]
    by_cases hempty : characters = ""
    · simp [pushText, hempty]
    · obtain ⟨latestFirst⟩ := other
      cases latestFirst with
      | nil => simp [pushText, hempty, append_def, parts, pushParts, pushPart]
      | cons last rest =>
        cases last with
        | value bound => simp [pushText, hempty, append_def, parts, pushParts, pushPart]
        | text before =>
          have hjoined : (⟨.text before :: rest⟩ : Piece).pushText characters =
              ⟨.text (before ++ characters) :: rest⟩ := by simp [pushText, hempty]
          simp only [hjoined, append_def, parts, List.reverse_cons, pushParts_append]
          exact (pushText_pushText _ _ _).symm

theorem append_pushParts (piece other : Piece) (later : List Part) :
    piece ++ other.pushParts later = (piece ++ other).pushParts later := by
  induction later generalizing other with
  | nil => rfl
  | cons part rest ih =>
    change piece ++ (other.pushPart part).pushParts rest = _
    rw [ih, append_pushPart]
    rfl

/-- Writing apart and appending is writing in place. -/
theorem append_pushParts_empty (piece : Piece) (later : List Part) :
    piece ++ (∅ : Piece).pushParts later = piece.pushParts later := by
  rw [append_pushParts, append_empty]

theorem append_assoc (first second third : Piece) :
    first ++ second ++ third = first ++ (second ++ third) := by
  show first ++ second ++ third = first ++ second.pushParts third.parts
  rw [append_pushParts]
  rfl

/-- Joining texts does not change how the parts are spelled. -/
theorem spell_parts_pushPart (style : ParamStyle) (piece : Piece) (part : Part) :
    Part.spell style 0 (piece.pushPart part).parts =
      Part.spell style 0 (piece.parts ++ [part]) := by
  cases part with
  | value bound => simp [pushPart, pushValue, parts]
  | text characters =>
    simp only [pushPart, pushText]
    split
    · rename_i hempty
      simp [hempty, Part.spell_append, Part.spell]
    · split
      · rename_i before earlier hparts
        simp [parts, hparts, Part.spell_append, Part.spell]
      · simp [parts]

/-- Parts bring their values, in order, to the end of a piece. -/
theorem values_pushParts (piece : Piece) (later : List Part) :
    (piece.pushParts later).values = piece.values ++ Part.values later := by
  induction later generalizing piece with
  | nil => simp [pushParts_nil, Part.values]
  | cons part rest ih =>
    change ((piece.pushPart part).pushParts rest).values = _
    rw [ih, values_pushPart, List.append_assoc, ← Part.values_append]
    rfl

/-- Values keep their order when pieces are assembled. -/
theorem values_append (piece other : Piece) :
    (piece ++ other).values = piece.values ++ other.values :=
  values_pushParts piece other.parts

/-- Parts are spelled behind those of a piece, whatever texts are joined on the way. -/
theorem spell_parts_pushParts (style : ParamStyle) (piece : Piece) (later : List Part) :
    Part.spell style 0 (piece.pushParts later).parts =
      Part.spell style 0 (piece.parts ++ later) := by
  induction later generalizing piece with
  | nil => simp [pushParts_nil]
  | cons part rest ih =>
    change Part.spell style 0 ((piece.pushPart part).pushParts rest).parts = _
    have hvalues : Part.values (piece.pushPart part).parts = Part.values (piece.parts ++ [part]) :=
      (values_pushPart piece part).trans (Part.values_append _ _).symm
    rw [ih, Part.spell_append, spell_parts_pushPart, hvalues, ← Part.spell_append]
    simp

/-- The query of a piece is spelled from the parts that were written into it. -/
theorem toQuery_pushParts_empty (style : ParamStyle) (later : List Part) :
    ((∅ : Piece).pushParts later).toQuery style =
      ⟨Part.spell style 0 later, Part.values later⟩ := by
  unfold toQuery
  rw [spell_parts_pushParts, values_pushParts]
  rfl

end Piece

end BoundSql
