import BoundSql.Proofs.PieceAssembly
import Mathlib.Data.List.Chain

/-!
# What actions write into a piece

A piece is written by actions: a text, a value, or the whole of another piece, which is written by
actions itself. Whatever the nesting, the piece holds what has been pushed, in order
(`Piece.applyAll_eq_pushParts`), and it has one form, without empty texts and without two texts in a
row (`Piece.normal_write`). So two runs of actions can be written apart and appended, or written
into one piece, and the query spells every text and every placeholder where it was pushed
(`Piece.write_faithful`).
-/

set_option autoImplicit false
set_option relaxedAutoImplicit false

namespace BoundSql

namespace Part

/-- Tells whether a part is text. -/
def isText : Part → Bool
  | text _ => true
  | value _ => false

/-- The text of a part, where a value is the one at `position`, counted from one. -/
def spelledAt (style : ParamStyle) (position : Nat) : Part → String
  | text characters => characters
  | value _ => style.marker position

/-- The texts of parts, where the value at each place is counted among the values before it. -/
def spelledEach (style : ParamStyle) (run : List Part) : List String :=
  run.mapIdx fun place part ↦ part.spelledAt style ((values (run.take place)).length + 1)

/-- The text of parts is put together from their texts. -/
theorem spell_eq_join (style : ParamStyle) (position : Nat) (run : List Part) :
    spell style position run = String.join (run.mapIdx fun place part ↦
      part.spelledAt style (position + (values (run.take place)).length + 1)) := by
  induction run generalizing position with
  | nil => rfl
  | cons first rest ih =>
    rw [List.mapIdx_cons, String.join_cons]
    cases first with
    | text characters =>
      rw [spell, ih]
      rfl
    | value bound =>
      rw [spell, ih]
      simp only [List.take_zero, List.take_succ_cons, values, List.length_nil, List.length_cons,
        spelledAt, Nat.add_zero, Nat.add_assoc, Nat.add_comm 1]

theorem spell_eq_join_spelledEach (style : ParamStyle) (run : List Part) :
    spell style 0 run = String.join (spelledEach style run) := by
  rw [spell_eq_join, spelledEach]
  simp only [Nat.zero_add]

end Part

namespace Piece

/-! ### Actions -/

/-- An action on a piece. A piece that is appended has been written by actions itself. -/
inductive Action where
  /-- A text is pushed. -/
  | text (characters : String)
  /-- A value is pushed. -/
  | value (bound : Value)
  /-- What other actions write is appended. -/
  | piece (inner : List Action)

mutual

/-- The piece after an action. -/
def apply (written : Piece) : Action → Piece
  | .text characters => written.pushText characters
  | .value bound => written.pushValue bound
  | .piece inner => written ++ applyAll ∅ inner
termination_by structural action => action

/-- The piece after actions, one after the other. -/
def applyAll (written : Piece) : List Action → Piece
  | [] => written
  | first :: rest => applyAll (apply written first) rest

end

/-- The piece that actions write. -/
def write (actions : List Action) : Piece := applyAll ∅ actions

mutual

/-- The texts and values that an action pushes, those of an appended piece in its place. -/
def pushed : Action → List Part
  | .text characters => [.text characters]
  | .value bound => [.value bound]
  | .piece inner => pushedAll inner
termination_by structural action => action

/-- The texts and values that actions push, in order. -/
def pushedAll : List Action → List Part
  | [] => []
  | first :: rest => pushed first ++ pushedAll rest

end

theorem pushedAll_append (first second : List Action) :
    pushedAll (first ++ second) = pushedAll first ++ pushedAll second := by
  induction first with
  | nil => rfl
  | cons action rest ih => rw [List.cons_append, pushedAll, ih, pushedAll, List.append_assoc]

mutual

/-- An action writes what it pushes. -/
theorem apply_eq_pushParts (written : Piece) :
    (action : Action) → apply written action = written.pushParts (pushed action)
  | .text _ => rfl
  | .value _ => rfl
  | .piece inner => by
    rw [apply, applyAll_eq_pushParts, append_pushParts_empty, pushed]
termination_by structural action => action

/-- Actions write what they push. -/
theorem applyAll_eq_pushParts (written : Piece) :
    (actions : List Action) → applyAll written actions = written.pushParts (pushedAll actions)
  | [] => rfl
  | first :: rest => by
    rw [applyAll, applyAll_eq_pushParts, apply_eq_pushParts written first, pushedAll,
      pushParts_append]

end

/-- Actions that are written apart can be written into one piece. -/
theorem write_append (first second : List Action) :
    write first ++ write second = write (first ++ second) := by
  rw [write, write, write, applyAll_eq_pushParts, applyAll_eq_pushParts, applyAll_eq_pushParts,
    append_pushParts_empty, pushedAll_append, pushParts_append]

/-! ### The one form of a piece -/

/-- A piece in its one form: no text is empty, and no two texts are neighbours. -/
structure Normal (piece : Piece) : Prop where
  text_ne_empty : ∀ characters, .text characters ∈ piece.parts → characters ≠ ""
  separated : piece.parts.IsChain fun earlier later ↦ ¬(earlier.isText = true ∧ later.isText = true)

theorem normal_empty : Normal ∅ := ⟨nofun, .nil⟩

/-- A value has no text on either side that it could be joined with. -/
theorem Normal.pushValue {piece : Piece} (hnormal : piece.Normal) (bound : Value) :
    (piece.pushValue bound).Normal := by
  have hparts : (piece.pushValue bound).parts = piece.parts ++ [.value bound] :=
    List.reverse_cons
  refine ⟨fun characters htext ↦ ?_, ?_⟩
  · rw [hparts, List.mem_append, List.mem_singleton] at htext
    obtain htext | hvalue := htext
    · exact hnormal.text_ne_empty characters htext
    · cases hvalue
  · rw [hparts, List.isChain_append]
    refine ⟨hnormal.separated, .singleton _, fun last _ next hnext htexts ↦ ?_⟩
    cases hnext
    exact Bool.false_ne_true htexts.2

/-- A text is joined with the text before it, and leaves nothing if it is empty. -/
theorem Normal.pushText {piece : Piece} (hnormal : piece.Normal) (characters : String) :
    (piece.pushText characters).Normal := by
  unfold Piece.pushText
  split
  · exact hnormal
  · rename_i hsome
    obtain ⟨htexts, hseparated⟩ := hnormal
    unfold Piece.parts at htexts hseparated
    split
    · -- The text before is replaced by the longer one, at the same place.
      rename_i before earlier hlatest
      rw [hlatest] at htexts hseparated
      refine ⟨fun found hfound ↦ ?_, ?_⟩
      · rw [Piece.parts, List.mem_reverse, List.mem_cons] at hfound
        obtain hjoined | hearlier := hfound
        · cases hjoined
          exact fun hempty ↦ hsome (String.append_eq_empty_iff.mp hempty).2
        · exact htexts found (List.mem_reverse.mpr (List.mem_cons_of_mem _ hearlier))
      · rw [Piece.parts, List.isChain_reverse]
        rw [List.isChain_reverse, List.isChain_cons] at hseparated
        exact List.isChain_cons.mpr hseparated
    · -- The part before, if there is one, is a value.
      rename_i hlatest
      refine ⟨fun found hfound ↦ ?_, ?_⟩
      · rw [Piece.parts, List.mem_reverse, List.mem_cons] at hfound
        obtain hnew | hearlier := hfound
        · cases hnew
          exact hsome
        · exact htexts found (List.mem_reverse.mpr hearlier)
      · rw [Piece.parts, List.isChain_reverse]
        rw [List.isChain_reverse] at hseparated
        refine List.isChain_cons.mpr ⟨fun last hlast htwo ↦ ?_, hseparated⟩
        obtain ⟨earlier, hcons⟩ := List.head?_eq_some_iff.mp hlast
        cases last with
        | value bound => exact Bool.false_ne_true htwo.1
        | text before => exact hlatest before earlier hcons

theorem Normal.pushPart {piece : Piece} (hnormal : piece.Normal) (part : Part) :
    (piece.pushPart part).Normal := by
  cases part with
  | text characters => exact hnormal.pushText characters
  | value bound => exact hnormal.pushValue bound

theorem Normal.pushParts {piece : Piece} (hnormal : piece.Normal) (later : List Part) :
    (piece.pushParts later).Normal := by
  induction later generalizing piece with
  | nil => exact hnormal
  | cons part rest ih => exact ih (hnormal.pushPart part)

/-- Whatever actions write is in its one form. -/
theorem normal_write (actions : List Action) : (write actions).Normal := by
  rw [write, applyAll_eq_pushParts]
  exact normal_empty.pushParts _

/-! ### The query of a piece -/

/-- A piece in its one form is empty where its query is. -/
theorem Normal.isEmpty_iff {piece : Piece} (hnormal : piece.Normal) (style : ParamStyle) :
    piece.isEmpty = true ↔ (piece.toQuery style).sql = "" ∧ (piece.toQuery style).params = [] := by
  have hparts : piece.isEmpty = true ↔ piece.parts = [] := by
    rw [isEmpty, List.isEmpty_iff, parts, List.reverse_eq_nil_iff]
  rw [hparts]
  constructor
  · intro hnone
    rw [toQuery, values, hnone]
    exact ⟨rfl, rfl⟩
  · rintro ⟨hsql, hparams⟩
    change Part.spell style 0 piece.parts = "" at hsql
    change Part.values piece.parts = [] at hparams
    cases hfirst : piece.parts with
    | nil => rfl
    | cons first rest =>
      rw [hfirst] at hsql hparams
      cases first with
      | value bound => cases hparams
      | text characters =>
        have hmember : .text characters ∈ piece.parts := hfirst ▸ List.mem_cons_self
        exact absurd (String.append_eq_empty_iff.mp hsql).1
          (hnormal.text_ne_empty characters hmember)

/-- The query of what actions write spells the texts and the placeholders where they were pushed,
and binds the values in this order. -/
theorem toQuery_write (actions : List Action) (style : ParamStyle) :
    (write actions).toQuery style =
      ⟨String.join (Part.spelledEach style (pushedAll actions)),
        Part.values (pushedAll actions)⟩ := by
  rw [write, applyAll_eq_pushParts, toQuery_pushParts_empty, Part.spell_eq_join_spelledEach]

/-- A piece is a faithful buffer of what is written into it. Actions can be written apart and
appended, or written into one piece; what they write is in its one form; its query has the pushed
texts, and for the value that is pushed as the `k`-th the `k`-th placeholder, each at its place; and
the piece is empty exactly if this query is. -/
theorem write_faithful (first second : List Action) (style : ParamStyle) :
    write first ++ write second = write (first ++ second) ∧
      (write first).Normal ∧
      (write first).toQuery style =
        ⟨String.join (Part.spelledEach style (pushedAll first)), Part.values (pushedAll first)⟩ ∧
      ((write first).isEmpty = true ↔
        ((write first).toQuery style).sql = "" ∧ ((write first).toQuery style).params = []) :=
  ⟨write_append first second, normal_write first, toQuery_write first style,
    (normal_write first).isEmpty_iff style⟩

/-- A SET clause and a FROM clause are written apart, and the values are numbered in the text that
both are appended to. -/
example :
    (write
      [.text "UPDATE \"goods\" SET ", .piece [.text "\"price\" = ", .text "", .value (.int 5)],
        .piece [.text " FROM \"rates\" WHERE ", .piece [.text "\"year\" = ", .value (.int 2020)]],
        .piece []]).toQuery .numeric =
      ⟨"UPDATE \"goods\" SET \"price\" = $1 FROM \"rates\" WHERE \"year\" = $2",
        [.int 5, .int 2020]⟩ := by
  decide +kernel

end Piece

end BoundSql
