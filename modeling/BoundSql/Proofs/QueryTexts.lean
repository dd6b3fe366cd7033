import BoundSql.Proofs.Recovery.Reduced
import BoundSql.Proofs.Recovery.Texts
import BoundSql.Proofs.WellFormed.Tree

/-!
# What is written as a query in parentheses

The text of a statement opens with one of a few words, which no expression opens with. Hence an
expression that is written as a query in parentheses is a query, perhaps inside of connectives with
a single operand (`Expr.exists_reduced_eq_subquery`).
-/

set_option autoImplicit false
set_option relaxedAutoImplicit false

namespace BoundSql

variable {d : Dialect}

/-! ### How texts open -/

/-- The words that a statement can open with. -/
def Statement.openings : List String :=
  ["WITH RECURSIVE ", "WITH ", "SELECT DISTINCT ", "SELECT ", "UPDATE ", "INSERT INTO ",
    "DELETE FROM "]

/-- Tokens that no statement opens with. -/
def Token.NotOpening (tokens : List Token) : Prop :=
  ∃ token rest, tokens = token :: rest ∧ ∀ opening ∈ Statement.openings, token ≠ .text opening

/-- What does not open a statement does not do so with more behind it. -/
theorem Token.NotOpening.append {tokens : List Token} (h : NotOpening tokens)
    (later : List Token) : NotOpening (tokens ++ later) := by
  obtain ⟨token, rest, rfl, hother⟩ := h
  exact ⟨token, rest ++ later, rfl, hother⟩

/-- What is read from a text that no statement opens with. -/
theorem Token.notOpening_text {characters : String} (hnonempty : characters ≠ "")
    (hother : characters ∉ Statement.openings) :
    NotOpening ((Reading.tokens d).text characters) := by
  refine ⟨.text characters, [], ?_, fun opening hopening hsame ↦ ?_⟩
  · simp [Reading.tokens, Token.ofText, hnonempty]
  · obtain rfl := Token.text.inj hsame
    exact hother hopening

/-- A parenthesis opens no statement. -/
theorem Token.notOpening_parenthesized (body : List Token) :
    NotOpening ((Reading.tokens d).parenthesized body) := by
  have hopen : NotOpening ((Reading.tokens d).text "(") := notOpening_text (by decide) (by decide)
  exact (hopen.append _).append _

/-- Tokens that open like a statement. -/
def Token.Opening (tokens : List Token) : Prop :=
  ∃ opening ∈ Statement.openings, ∃ rest, tokens = .text opening :: rest

/-- What opens a statement does so with more behind it. -/
theorem Token.Opening.append {tokens : List Token} (h : Opening tokens) (later : List Token) :
    Opening (tokens ++ later) := by
  obtain ⟨opening, hopening, rest, rfl⟩ := h
  exact ⟨opening, hopening, rest ++ later, rfl⟩

/-- A WITH list in front of a statement opens like one itself. -/
theorem Token.Opening.behind {tokens : List Token} (h : Opening tokens) (recursive : Bool)
    (definitions : List (List Token)) :
    Opening (Cte.readList (.tokens d) recursive definitions ++ tokens) := by
  cases definitions with
  | nil => exact h
  | cons definition others =>
    cases recursive with
    | false => exact ⟨"WITH ", by decide, _, rfl⟩
    | true => exact ⟨"WITH RECURSIVE ", by decide, _, rfl⟩

/-- A statement opens with one of the words. -/
theorem Statement.opening_read (statement : Statement) :
    Token.Opening (statement.read (.tokens d)) := by
  cases statement with
  | select statement =>
    obtain ⟨ctes, distinct, columns, sources, filter, grouping, having, ordering, limit, offset⟩ :=
      statement
    have hselect : Token.Opening ((Reading.tokens d).text
        (if distinct then "SELECT DISTINCT " else "SELECT ")) := by
      cases distinct with
      | false => exact ⟨"SELECT ", by decide, [], rfl⟩
      | true => exact ⟨"SELECT DISTINCT ", by decide, [], rfl⟩
    exact (((((((hselect.append _).behind _ _).append _).append _).append _).append _).append
      _).append _
  | update statement =>
    obtain ⟨ctes, table, columns, values, sources, filter, returning⟩ := statement
    have hupdate : Token.Opening ((Reading.tokens d).text "UPDATE ") :=
      ⟨"UPDATE ", by decide, [], rfl⟩
    exact ((((((hupdate.append _).append _).behind _ _).append _).append _).append _).append _
  | insert statement =>
    obtain ⟨ctes, table, columns, rows, conflict, returning⟩ := statement
    have hinsert : Token.Opening ((Reading.tokens d).text "INSERT INTO ") :=
      ⟨"INSERT INTO ", by decide, [], rfl⟩
    exact ((((((hinsert.append _).append _).behind _ _).append _).append _).append _).append _
  | delete statement =>
    obtain ⟨ctes, table, sources, filter, returning⟩ := statement
    have hdelete : Token.Opening ((Reading.tokens d).text "DELETE FROM ") :=
      ⟨"DELETE FROM ", by decide, [], rfl⟩
    exact ((((hdelete.append _).behind _ _).append _).append _).append _

/-- An expression does not open like a statement. -/
theorem Expr.notOpening_read : (expr : Expr) → expr.WellFormed d →
    Token.NotOpening (expr.read (.tokens d) true)
  | .column reference, _ => ⟨.mention reference.relation, _, rfl, fun _ _ ↦ nofun⟩
  | .literal value, _ => ⟨.value value, [], rfl, fun _ _ ↦ nofun⟩
  | .star, _ => Token.notOpening_text (by decide) (by decide)
  | .defaultValue, _ => Token.notOpening_text (by decide) (by decide)
  | .excluded name, _ => by
    have hopen : Token.NotOpening ((Reading.tokens d).text "EXCLUDED.") :=
      Token.notOpening_text (by decide) (by decide)
    exact hopen.append _
  | .unary _ _, _ => Token.notOpening_parenthesized _
  | .binary _ _ _, _ => Token.notOpening_parenthesized _
  | .connected _ [], hformed => absurd rfl hformed.1
  | .connected _ [only], hformed => Expr.notOpening_read only hformed.2.1
  | .connected _ (_ :: _ :: _), _ => Token.notOpening_parenthesized _
  | .call function _ _, hformed => by
    obtain ⟨hnonempty, hwordlike⟩ := BareWord.wordlike_of_allows_function hformed.1
    have hopen : Token.NotOpening ((Reading.tokens d).text function) := by
      refine Token.notOpening_text (fun hempty ↦ hnonempty ?_) fun hopening ↦ ?_
      · rw [hempty]
        rfl
      · -- Every word that a statement opens with ends in a blank.
        have hblank : ∀ opening ∈ Statement.openings,
            opening.toList.all Symbol.isWordlike = false := by decide
        rw [hblank function hopening] at hwordlike
        cases hwordlike
    exact hopen.append _
  | .collate operand _, hformed =>
    ((Expr.notOpening_read operand hformed.1).append _).append _
  | .subquery _, _ => Token.notOpening_parenthesized _
  | .inList _ _ _, _ => Token.notOpening_parenthesized _
  | .inQuery _ _ _, _ => Token.notOpening_parenthesized _
  | .between _ _ _ _, _ => Token.notOpening_parenthesized _
  | .cast _ _, _ => by
    have hopen : Token.NotOpening ((Reading.tokens d).text "CAST(") :=
      Token.notOpening_text (by decide) (by decide)
    exact (hopen.append _).append _
  | .caseWhen _ _, _ => by
    have hopen : Token.NotOpening ((Reading.tokens d).text "CASE") :=
      Token.notOpening_text (by decide) (by decide)
    exact ((hopen.append _).append _).append _
  | .existsQuery _, _ => Token.notOpening_parenthesized _

/-! ### Queries in parentheses -/

/-- What reduces to a query is read as this query in parentheses. -/
theorem Expr.read_of_reduced_eq_subquery {α : Type} (r : Reading α) (inside : Bool)
    {query : Statement} : (expr : Expr) → expr.reduced = .subquery query →
    expr.read r inside = r.parenthesized (query.read r)
  | .column reference, hreduced => by
    rw [Expr.reduced, Column.reduced] at hreduced
    split at hreduced <;> cases hreduced
  | .connected _ [only], hreduced => Expr.read_of_reduced_eq_subquery r inside only hreduced
  | .subquery query, hreduced => by
    obtain rfl := Expr.subquery.inj hreduced
    rfl

/-- Texts in parentheses are the same exactly if what stands in them is. -/
theorem Reading.parenthesized_inj {α : Type} {r : Reading α} {first second : List α} :
    r.parenthesized first = r.parenthesized second ↔ first = second := by
  unfold Reading.parenthesized
  rw [List.append_left_inj, List.append_right_inj]

/-- What opens in parentheses like no statement is not a query in parentheses. -/
theorem Token.NotOpening.parenthesized_ne {tokens : List Token} (h : NotOpening tokens)
    (query : Statement) : (Reading.tokens d).parenthesized tokens ≠
      (Reading.tokens d).parenthesized (query.read (.tokens d)) := by
  intro hsame
  obtain ⟨token, rest, rfl, hother⟩ := h
  obtain ⟨opening, hopening, later, hquery⟩ := query.opening_read (d := d)
  rw [Reading.parenthesized_inj, hquery] at hsame
  exact hother opening hopening (List.cons.inj hsame).1

/-- What opens with another text than a parenthesis is not in parentheses. -/
theorem Token.ne_parenthesized {tokens body : List Token} {characters : String}
    (hhead : tokens.head? = some (.text characters)) (hother : characters ≠ "(") :
    tokens ≠ (Reading.tokens d).parenthesized body := by
  rintro rfl
  have hopen : Token.text "(" = .text characters := Option.some.inj hhead
  exact hother (Token.text.inj hopen).symm

/-- What ends in a name is not in parentheses. -/
theorem Token.append_name_ne_parenthesized (earlier body : List Token) (supplied : String) :
    earlier ++ [.name supplied] ≠ (Reading.tokens d).parenthesized body := by
  intro hsame
  have hlast := congrArg List.getLast? hsame
  rw [List.getLast?_concat, Reading.parenthesized, List.getLast?_append] at hlast
  cases hlast

/-- An expression that is written as a query in parentheses reduces to a query. -/
theorem Expr.exists_reduced_eq_subquery {query : Statement} : (expr : Expr) → expr.WellFormed d →
    expr.read (.tokens d) true = (Reading.tokens d).parenthesized (query.read (.tokens d)) →
    ∃ source, expr.reduced = .subquery source
  | .column _, _, hread | .literal _, _, hread => nomatch hread
  | .star, _, hread => absurd hread (Token.ne_parenthesized rfl (by decide : "*" ≠ "("))
  | .defaultValue, _, hread =>
    absurd hread (Token.ne_parenthesized rfl (by decide : "DEFAULT" ≠ "("))
  | .excluded _, _, hread =>
    absurd hread (Token.ne_parenthesized rfl (by decide : "EXCLUDED." ≠ "("))
  | .unary op operand, hformed, hread => by
    have hopen : Token.NotOpening
        (if op.isPostfix then
          operand.read (.tokens d) true ++ (Reading.tokens d).text (" " ++ op.spelling)
        else (Reading.tokens d).text (op.spelling ++ " ") ++ operand.read (.tokens d) true) := by
      split
      · exact (Expr.notOpening_read operand hformed).append _
      · have hword : Token.NotOpening ((Reading.tokens d).text (op.spelling ++ " ")) := by
          cases op <;> exact Token.notOpening_text (by decide) (by decide)
        exact hword.append _
    exact absurd hread (hopen.parenthesized_ne query)
  | .binary _ left right, hformed, hread =>
    have hleft := Expr.notOpening_read left hformed.1
    absurd hread (((hleft.append _).append _).parenthesized_ne query)
  | .connected _ [], hformed, _ => absurd rfl hformed.1
  | .connected _ [only], hformed, hread => Expr.exists_reduced_eq_subquery only hformed.2.1 hread
  | .connected connective (first :: second :: rest), hformed, hread =>
    have hfirst := Expr.notOpening_read first hformed.2.1
    absurd hread (((hfirst.append _).append _).parenthesized_ne query)
  | .call function distinct arguments, hformed, hread => by
    have hallowed : BareWord.function.allows function = true := hformed.1
    have hnonempty : function ≠ "" := by
      rintro rfl
      revert hallowed
      decide
    have hother : function ≠ "(" := by
      rintro rfl
      revert hallowed
      decide
    refine absurd hread (Token.ne_parenthesized ?_ hother)
    simp [Expr.read, Reading.tokens, Token.ofText, hnonempty]
  | .collate operand collation, _, hread =>
    absurd hread (Token.append_name_ne_parenthesized _ _ collation)
  | .subquery source, _, _ => ⟨source, rfl⟩
  | .inList tested _ _, hformed, hread =>
    have htested := Expr.notOpening_read tested hformed.1
    absurd hread (((htested.append _).append _).parenthesized_ne query)
  | .inQuery tested _ _, hformed, hread =>
    have htested := Expr.notOpening_read tested hformed.1
    absurd hread (((htested.append _).append _).parenthesized_ne query)
  | .between tested _ _ _, hformed, hread =>
    have htested := Expr.notOpening_read tested hformed.1
    absurd hread (((((htested.append _).append _).append _).append _).parenthesized_ne query)
  | .cast operand typeName, _, hread =>
    absurd hread (Token.ne_parenthesized rfl (by decide : "CAST(" ≠ "("))
  | .caseWhen branches otherwise, _, hread =>
    absurd hread (Token.ne_parenthesized rfl (by decide : "CASE" ≠ "("))
  | .existsQuery source, _, hread =>
    have hopen : Token.NotOpening ((Reading.tokens d).text "EXISTS ") :=
      Token.notOpening_text (by decide) (by decide)
    absurd hread ((hopen.append _).parenthesized_ne query)

end BoundSql
