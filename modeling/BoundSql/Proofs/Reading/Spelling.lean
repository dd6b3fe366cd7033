import BoundSql.Proofs.TwoPassRendering

/-!
# The text of tokens

`Token.spelled` is the text of tokens that stand behind a number of values. A longer text is put
together from the texts of its parts (`Token.spelled_append`), a list from those of its items
(`Token.spelled_commaSeparated`), and what stands somewhere in the tokens of a node stands in its
text (`Node.exists_sql_eq_of_within`).
-/

set_option autoImplicit false
set_option relaxedAutoImplicit false

namespace BoundSql

variable {d : Dialect} {aliasOf : Identity → String}

namespace Token

/-- The text of tokens behind `position` values. -/
def spelled (d : Dialect) (aliasOf : Identity → String) (position : Nat) (tokens : List Token) :
    String :=
  Part.spell d.paramStyle position (tokens.map (part d aliasOf))

/-- The number of values among tokens. -/
def valueCount (tokens : List Token) : Nat := (tokens.flatMap literals).length

/-- As many values are bound as tokens are counted as values. -/
theorem length_values_map_part (tokens : List Token) :
    (Part.values (tokens.map (part d aliasOf))).length = valueCount tokens := by
  rw [values_map_part, valueCount]

/-- The later tokens continue the numbering of the placeholders where the earlier ones end. -/
theorem spelled_append (earlier later : List Token) (position : Nat) :
    spelled d aliasOf position (earlier ++ later) =
      spelled d aliasOf position earlier ++
        spelled d aliasOf (position + valueCount earlier) later := by
  rw [spelled, List.map_append, Part.spell_append, length_values_map_part]
  rfl

@[simp]
theorem spelled_name (supplied : String) (position : Nat) :
    spelled d aliasOf position [name supplied] = d.enclose supplied := String.append_empty

@[simp]
theorem spelled_text (characters : String) (position : Nat) :
    spelled d aliasOf position [text characters] = characters := String.append_empty

/-- What is read from a text is written as this text, also if it is empty. -/
@[simp]
theorem spelled_readText (characters : String) (position : Nat) :
    spelled d aliasOf position ((Reading.tokens d).text characters) = characters := by
  change spelled d aliasOf position (ofText characters) = characters
  unfold ofText
  split
  · rename_i hempty
    exact hempty.symm
  · exact spelled_text characters position

/-- Values in a row are counted together. -/
theorem valueCount_append (earlier later : List Token) :
    valueCount (earlier ++ later) = valueCount earlier + valueCount later := by
  rw [valueCount, List.flatMap_append, List.length_append]
  rfl

@[simp]
theorem valueCount_readText (characters : String) :
    valueCount ((Reading.tokens d).text characters) = 0 := by
  change valueCount (ofText characters) = 0
  unfold ofText
  split <;> rfl

/-! ### Lists in parentheses and with commas -/

/-- What stands in parentheses is spelled between them. -/
theorem spelled_parenthesized (body : List Token) (position : Nat) :
    spelled d aliasOf position ((Reading.tokens d).parenthesized body) =
      "(" ++ spelled d aliasOf position body ++ ")" := by
  rw [Reading.parenthesized, spelled_append, spelled_append, spelled_readText, spelled_readText,
    valueCount_readText, Nat.add_zero]

/-- The texts of several parts, each behind the values of the earlier ones. -/
def spelledEach (d : Dialect) (aliasOf : Identity → String) : Nat → List (List Token) → List String
  | _, [] => []
  | position, first :: rest =>
    spelled d aliasOf position first :: spelledEach d aliasOf (position + valueCount first) rest

/-- Every member of a list has one text. -/
theorem length_spelledEach (position : Nat) (items : List (List Token)) :
    (spelledEach d aliasOf position items).length = items.length := by
  induction items generalizing position with
  | nil => rfl
  | cons first rest ih => rw [spelledEach, List.length_cons, List.length_cons, ih]

/-- Parts without values are written alike everywhere. -/
theorem spelledEach_eq_map {items : List (List Token)} {position : Nat}
    (hvalueless : ∀ item ∈ items, valueCount item = 0) :
    spelledEach d aliasOf position items = items.map (spelled d aliasOf position) := by
  induction items with
  | nil => rfl
  | cons first rest ih =>
    obtain ⟨hfirst, hrest⟩ := List.forall_mem_cons.mp hvalueless
    rw [spelledEach, hfirst, Nat.add_zero, ih hrest, List.map_cons]

theorem commaSeparated_cons_cons (first second : List Token) (others : List (List Token)) :
    (Reading.tokens d).commaSeparated (first :: second :: others) =
      first ++ ((Reading.tokens d).text ", " ++
        (Reading.tokens d).commaSeparated (second :: others)) :=
  List.append_assoc ..

/-- A list is written as the texts of its items with commas between them. -/
theorem spelled_commaSeparated (position : Nat) (items : List (List Token)) :
    spelled d aliasOf position ((Reading.tokens d).commaSeparated items) =
      ", ".intercalate (spelledEach d aliasOf position items) := by
  induction items generalizing position with
  | nil => rfl
  | cons first rest ih =>
    cases rest with
    | nil => exact String.intercalate_singleton.symm
    | cons second others =>
      rw [commaSeparated_cons_cons, spelled_append, spelled_append, spelled_readText,
        valueCount_readText, Nat.add_zero, ih, ← String.append_assoc]
      exact String.intercalate_cons_cons.symm

/-- The values of a list are those of its items. -/
theorem valueCount_commaSeparated (items : List (List Token)) :
    valueCount ((Reading.tokens d).commaSeparated items) = valueCount items.flatten := by
  induction items with
  | nil => rfl
  | cons first rest ih =>
    cases rest with
    | nil =>
      rw [List.flatten_singleton]
      rfl
    | cons second others =>
      rw [commaSeparated_cons_cons, valueCount_append, valueCount_append, valueCount_readText,
        Nat.zero_add, ih, ← valueCount_append]
      rfl

/-- Lists without values have none in a row. -/
theorem valueCount_flatten {items : List (List Token)}
    (hvalueless : ∀ item ∈ items, valueCount item = 0) : valueCount items.flatten = 0 := by
  induction items with
  | nil => rfl
  | cons first rest ih =>
    obtain ⟨hfirst, hrest⟩ := List.forall_mem_cons.mp hvalueless
    rw [List.flatten_cons, valueCount_append, hfirst, ih hrest]

end Token

namespace Node

variable {node : Node} {query : Query}

/-- The text of a query is that of the tokens of its node. -/
theorem sql_eq_spelled (hrender : node.render d = .ok query) :
    query.sql = Token.spelled d (node.aliasOf d) 0 (node.tokens d) := sql_of_render hrender

/-- What stands among the tokens of a node stands in its text. -/
theorem exists_sql_eq_of_within (hrender : node.render d = .ok query) {tokens : List Token}
    (hwithin : tokens <:+: node.tokens d) :
    ∃ before position behind,
      query.sql = before ++ Token.spelled d (node.aliasOf d) position tokens ++ behind := by
  obtain ⟨earlier, later, htokens⟩ := hwithin
  rw [sql_eq_spelled hrender, ← htokens, Token.spelled_append, Token.spelled_append]
  exact ⟨_, _, _, rfl⟩

end Node

end BoundSql
