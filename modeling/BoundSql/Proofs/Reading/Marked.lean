import BoundSql.Proofs.Reading.Tree

/-!
# Texts with marked places

Some places of a text hold something of the tree: a column that is written to, or the name of a
relation. A text with marks shows both what is written (`Marked.tokens`) and what the marked places
hold, in the order of the text (`Marked.marked`). A text with marks is put together as a reading
puts a text together, so what its marks stand for is the text itself
(`Marked.flatMap_tokens_separated`, `Marked.flatMap_tokens_listClause`), and the texts between its
items mark nothing (`Marked.marked_separated`, `Marked.marked_listClause`).
-/

set_option autoImplicit false
set_option relaxedAutoImplicit false

namespace BoundSql

/-- A part of a text in which some places are marked with what they hold. -/
inductive Marked (β : Type) where
  /-- A token of any other part of the text. -/
  | token (written : Token)
  /-- A place that holds something. -/
  | place (held : β)

namespace Marked

variable {β : Type} {d : Dialect} {write : β → List Token}

/-- The tokens of a mark, where `write` says what is written at the places. -/
def tokens (write : β → List Token) : Marked β → List Token
  | token written => [written]
  | place held => write held

/-- Tokens without a marked place. -/
def other (written : List Token) : List (Marked β) := written.map token

/-- The reading whose texts hold no marked place. -/
def reading (d : Dialect) : Reading (Marked β) :=
  (Reading.tokens d).flatMap fun written ↦ [token written]

/-- What the marked places hold, in their order. -/
def marked (marks : List (Marked β)) : List β :=
  marks.flatMap fun mark ↦
    match mark with
    | token _ => []
    | place held => [held]

/-! ### What is written -/

/-- Tokens without a marked place are written as they are. -/
theorem flatMap_tokens_other (written : List Token) :
    (other written).flatMap (tokens write) = written := by
  induction written with
  | nil => rfl
  | cons first rest ih => exact congrArg (first :: ·) ih

/-- A place is written in front of the tokens behind it. -/
theorem flatMap_tokens_place (held : β) (written : List Token) :
    (place held :: other written).flatMap (tokens write) = write held ++ written :=
  congrArg (write held ++ ·) (flatMap_tokens_other written)

/-- A text between places is written as it is. -/
theorem flatMap_tokens_text (characters : String) :
    ((reading d).text characters).flatMap (tokens write) = (Reading.tokens d).text characters := by
  rw [reading, Reading.flatMap, List.flatMap_assoc]
  exact List.flatMap_singleton' _

/-- A list with marks is written as the list of what its items write. -/
theorem flatMap_tokens_separated (separator : String) (items : List (List (Marked β))) :
    ((reading d).separated separator items).flatMap (tokens write) =
      (Reading.tokens d).separated separator (items.map (List.flatMap (tokens write))) := by
  induction items with
  | nil => rfl
  | cons first rest ih =>
    cases rest with
    | nil => rfl
    | cons second others =>
      have hlonger : (reading d).separated separator (first :: second :: others) =
          first ++ (reading d).text separator ++
            (reading d).separated separator (second :: others) := rfl
      rw [hlonger, List.flatMap_append, List.flatMap_append, ih, flatMap_tokens_text]
      rfl

/-- So is a list with marks behind a keyword. -/
theorem flatMap_tokens_listClause (keyword : String) (items : List (List (Marked β))) :
    ((reading d).listClause keyword items).flatMap (tokens write) =
      (Reading.tokens d).listClause keyword (items.map (List.flatMap (tokens write))) := by
  unfold Reading.listClause
  rw [List.isEmpty_map]
  split
  · rfl
  · rw [List.flatMap_append, flatMap_tokens_text, Reading.commaSeparated, flatMap_tokens_separated]
    rfl

/-! ### What is marked -/

/-- A place that stands among the marks is marked. -/
theorem mem_marked {held : β} {marks : List (Marked β)} (h : .place held ∈ marks) :
    held ∈ marked marks :=
  List.mem_flatMap.mpr ⟨_, h, List.mem_cons_self⟩

/-- What is marked stands among the marks. -/
theorem place_mem_of_mem_marked {held : β} {marks : List (Marked β)} (h : held ∈ marked marks) :
    .place held ∈ marks := by
  obtain ⟨mark, hmark, hheld⟩ := List.mem_flatMap.mp h
  cases mark with
  | token written => cases hheld
  | place other =>
    obtain rfl := List.mem_singleton.mp hheld
    exact hmark

/-- The places of a text in two parts are those of the parts. -/
theorem marked_append (earlier later : List (Marked β)) :
    marked (earlier ++ later) = marked earlier ++ marked later := List.flatMap_append

/-- Other tokens mark nothing. -/
theorem marked_other (written : List Token) :
    marked (other written : List (Marked β)) = [] := by
  rw [marked, other, List.flatMap_map]
  exact List.flatMap_eq_nil_iff.mpr fun _ _ ↦ rfl

/-- A place with other tokens behind it is the only one that is marked. -/
theorem marked_place (held : β) (written : List Token) :
    marked (place held :: other written) = [held] :=
  congrArg (held :: ·) (marked_other written)

/-- Texts between places mark nothing. -/
theorem marked_text (characters : String) :
    marked ((reading d).text characters : List (Marked β)) = [] := by
  rw [marked, reading, Reading.flatMap, List.flatMap_assoc]
  exact List.flatMap_eq_nil_iff.mpr fun _ _ ↦ rfl

/-- The places of a list are those of its items. -/
theorem marked_separated (separator : String) (items : List (List (Marked β))) :
    marked ((reading d).separated separator items) = items.flatMap marked := by
  induction items with
  | nil => rfl
  | cons first rest ih =>
    cases rest with
    | nil => exact (List.append_nil _).symm
    | cons second others =>
      have hlonger : (reading d).separated separator (first :: second :: others) =
          first ++ (reading d).text separator ++
            (reading d).separated separator (second :: others) := rfl
      rw [hlonger, marked_append, marked_append, ih, marked_text, List.append_nil]
      rfl

/-- The places of a list behind a keyword are those of its items. -/
theorem marked_listClause (keyword : String) (items : List (List (Marked β))) :
    marked ((reading d).listClause keyword items) = items.flatMap marked := by
  cases items with
  | nil => rfl
  | cons first rest =>
    have hlisted : (reading d).listClause keyword (first :: rest) =
        (reading d).text keyword ++ (reading d).separated ", " (first :: rest) := rfl
    rw [hlisted, marked_append, marked_text, marked_separated, List.nil_append]

end Marked

end BoundSql
