import BoundSql.Proofs.ExactAcceptance
import BoundSql.Proofs.PlainText.Basic
import BoundSql.Proofs.Reading.Spelling
import BoundSql.Proofs.Recovery.Reduced
import Mathlib.Data.List.Basic

/-!
# What is written as a wildcard

An expression is written as a wildcard if its text is `*`, or a quoted alias with `.*` behind it.
The wildcards of a tree are written so, and so is a connective whose only operand is. Nothing else
is, whatever quote the dialect has: the text ends in another character than a star, or in a name
between quotes, which stands behind a dot or a blank and not behind an alias
(`Expr.wildcardText_iff`).
-/

set_option autoImplicit false
set_option relaxedAutoImplicit false

namespace BoundSql

variable {d : Dialect} {aliasOf : Identity → String}

/-- A text that a database takes for all columns, or for all columns of a relation. -/
def WildcardText (d : Dialect) (aliasOf : Identity → String) (characters : String) : Prop :=
  characters = "*" ∨ ∃ relation, characters = d.enclose (aliasOf relation) ++ ".*"

/-- The text of an expression inside a statement, behind `position` values. -/
def Expr.spelled (d : Dialect) (aliasOf : Identity → String) (position : Nat) (expr : Expr) :
    String :=
  Token.spelled d aliasOf position (expr.read (.tokens d) true)

/-! ### How a text ends -/

theorem star_not_mem_marker (style : ParamStyle) (position : Nat) :
    '*' ∉ (style.marker position).toList := by
  cases style with
  | format => rw [ParamStyle.marker]; decide
  | qmark => rw [ParamStyle.marker]; decide
  | numeric =>
    rw [ParamStyle.marker, String.toList_append, List.mem_append, not_or]
    refine ⟨by decide, fun hmem ↦ ?_⟩
    have hdigit := Text.isDigit_of_mem_toString hmem
    revert hdigit
    decide

theorem marker_ne_nil (style : ParamStyle) (position : Nat) :
    (style.marker position).toList ≠ [] := by
  cases style with
  | format => rw [ParamStyle.marker]; decide
  | qmark => rw [ParamStyle.marker]; decide
  | numeric =>
    rw [ParamStyle.marker, String.toList_append]
    exact List.append_ne_nil_of_left_ne_nil (by decide) _

/-- What ends in a quoted name behind another character than a letter is not a quoted alias with
`.*` behind it. -/
theorem ne_qualified_star {earlier name letters : List Char} {lead quote : Char}
    (hlead : lead.isLower = false) (hname : quote ∉ name) (hnonempty : name ≠ [])
    (hlower : ∀ c ∈ letters, c.isLower = true) (hletters : letters ≠ []) :
    earlier ++ [lead, quote] ++ name ++ [quote] ≠ [quote] ++ letters ++ [quote, '.', '*'] := by
  intro hsame
  obtain ⟨front, last, rfl⟩ := (List.eq_nil_or_concat' name).resolve_left hnonempty
  -- Both texts end in the same two characters: the quote is a star, and the name ends in a dot.
  have hends : earlier ++ [lead, quote] ++ front ++ [last] ++ [quote] =
      [quote] ++ letters ++ [quote] ++ ['.'] ++ ['*'] := by
    simpa using hsame
  obtain ⟨hends, hstar⟩ := List.append_singleton_inj.mp hends
  obtain ⟨hends, hdot⟩ := List.append_singleton_inj.mp hends
  -- A quote stands in front of the dot, so the name is the dot alone, and the lead is a letter.
  rcases List.eq_nil_or_concat' front with rfl | ⟨rest, second, rfl⟩
  · have hfront : earlier ++ [lead] ++ [quote] = [quote] ++ letters ++ [quote] := by
      simpa using hends
    obtain ⟨hfront, -⟩ := List.append_singleton_inj.mp hfront
    obtain ⟨others, final, rfl⟩ := (List.eq_nil_or_concat' letters).resolve_left hletters
    rw [← List.append_assoc] at hfront
    obtain ⟨-, hsecond⟩ := List.append_singleton_inj.mp hfront
    have hfinal := hlower final (by simp)
    rw [← hsecond, hlead] at hfinal
    cases hfinal
  · rw [← List.append_assoc] at hends
    obtain ⟨-, hsecond⟩ := List.append_singleton_inj.mp hends
    exact hname (by simp [hsecond])

/-- Tokens that no wildcard ends with. -/
inductive Token.Closed (d : Dialect) : List Token → Prop where
  /-- The last one is a text, and its last character is not a star. -/
  | text (earlier : List Token) (characters : String) (last : Char) (hlast : last ≠ '*') :
    Closed d (earlier ++ [.text (characters.push last)])
  /-- The last one is a value. -/
  | value (earlier : List Token) (bound : Value) : Closed d (earlier ++ [.value bound])
  /-- The last one is a name, and it does not stand behind a letter. -/
  | name (earlier : List Token) (characters : String) (lead : Char) (hlead : lead.isLower = false)
    (supplied : String) (hname : d.Quotable supplied) :
    Closed d (earlier ++ [.text (characters.push lead), .name supplied])

/-- What is written for these tokens is no wildcard. -/
theorem Token.Closed.not_wildcardText {tokens : List Token} (hclosed : Closed d tokens)
    (haliases : ∀ relation, ∃ index, aliasOf relation = aliasWord index) (position : Nat) :
    ¬ WildcardText d aliasOf (Token.spelled d aliasOf position tokens) := by
  intro hwildcard
  have hstar : (Token.spelled d aliasOf position tokens).toList.getLast? = some '*' := by
    rcases hwildcard with hall | ⟨relation, hall⟩
    · rw [hall]
      rfl
    · rw [hall, String.toList_append, List.getLast?_append]
      rfl
  cases hclosed with
  | text earlier characters last hlast =>
    rw [spelled_append, String.toList_append, List.getLast?_append] at hstar
    have hsame : last = '*' := by simpa [spelled, Token.part, Part.spell] using hstar
    exact hlast hsame
  | value earlier bound =>
    obtain ⟨front, last, hmarker⟩ :=
      (List.eq_nil_or_concat' _).resolve_left (marker_ne_nil d.paramStyle
        (position + Token.valueCount earlier + 1))
    have hlast : last ≠ '*' := by
      rintro rfl
      exact star_not_mem_marker _ _ (hmarker ▸ List.mem_append_right front (by simp))
    rw [spelled_append, String.toList_append, List.getLast?_append] at hstar
    have hsame : last = '*' := by
      simpa [spelled, Token.part, Part.spell, hmarker] using hstar
    exact hlast hsame
  | name earlier characters lead hlead supplied hname =>
    have hlist : ∃ before : List Char, (Token.spelled d aliasOf position
        (earlier ++ [.text (characters.push lead), .name supplied])).toList =
          before ++ [lead, d.quote] ++ supplied.toList ++ [d.quote] := by
      refine ⟨(Token.spelled d aliasOf position earlier).toList ++ characters.toList, ?_⟩
      rw [spelled_append]
      simp [spelled, Token.part, Part.spell, Dialect.enclose]
    obtain ⟨before, hbefore⟩ := hlist
    rcases hwildcard with hall | ⟨relation, hall⟩
    · have hlength := congrArg List.length hbefore
      rw [hall] at hlength
      simp at hlength
      omega
    · obtain ⟨index, halias⟩ := haliases relation
      rw [hall, halias] at hbefore
      have hletters : (aliasWord index).toList ≠ [] := by
        rw [aliasWord, String.toList_ofList]
        exact aliasLetters_ne_nil index []
      have hnonempty : supplied.toList ≠ [] := fun hnil ↦
        hname.nonempty (String.toList_eq_nil_iff.mp hnil)
      refine ne_qualified_star hlead hname.quote_free hnonempty
        (fun c hc ↦ isLower_of_mem_aliasWord hc) hletters (hbefore.symm.trans ?_)
      simp [Dialect.enclose]

/-! ### Expressions -/

theorem Reading.tokens_text_push (characters : String) (last : Char) :
    (Reading.tokens d).text (characters.push last) = [.text (characters.push last)] := by
  have hnonempty : characters.push last ≠ "" := by
    intro hempty
    have hlist := congrArg String.toList hempty
    simp at hlist
  simp [Reading.tokens, Token.ofText, hnonempty]

/-- What is read from something in parentheses ends in a parenthesis. -/
theorem Token.closed_parenthesized (body : List Token) :
    Closed d ((Reading.tokens d).parenthesized body) :=
  Closed.text ((Reading.tokens d).text "(" ++ body) "" ')' (by decide)

/-- Unless it reduces to the wildcard, an expression does not end like one. -/
theorem Expr.closed_read : (expr : Expr) → expr.WellFormed d → expr.reduced ≠ .star →
    Token.Closed d (expr.read (.tokens d) true)
  | .column reference, hformed, hother => by
    have hproper : reference.isWildcard = false := by
      by_contra hwildcard
      rw [Bool.not_eq_false] at hwildcard
      exact hother (if_pos hwildcard)
    have hname : d.Quotable reference.name := by
      refine hformed.resolve_left fun hstar ↦ ?_
      simp [Column.isWildcard, hstar] at hproper
    have hclosed := Token.Closed.name (d := d) [.mention reference.relation] "" '.' rfl _ hname
    rw [Expr.read, Column.read, Column.readBare, hproper]
    exact hclosed
  | .literal value, _, _ => Token.Closed.value [] value
  | .star, _, hother => absurd rfl hother
  | .defaultValue, _, _ => Token.Closed.text [] "DEFAUL" 'T' (by decide)
  | .excluded name, hformed, _ => Token.Closed.name [] "EXCLUDED" '.' rfl name hformed
  | .unary _ _, _, _ => Token.closed_parenthesized _
  | .binary _ _ _, _, _ => Token.closed_parenthesized _
  | .connected _ [], hformed, _ => absurd rfl hformed.1
  | .connected _ [only], hformed, hother => Expr.closed_read only hformed.2.1 hother
  | .connected _ (_ :: _ :: _), _, _ => Token.closed_parenthesized _
  | .call function distinct arguments, _, _ => by
    rw [Expr.read, Reading.parenthesized, ← List.append_assoc]
    exact Token.Closed.text _ "" ')' (by decide)
  | .collate operand collation, hformed, _ => by
    rw [Expr.read, List.append_assoc]
    exact Token.Closed.name _ " COLLATE" ' ' rfl collation hformed.2
  | .subquery _, _, _ => Token.closed_parenthesized _
  | .inList _ _ _, _, _ => Token.closed_parenthesized _
  | .inQuery _ _ _, _, _ => Token.closed_parenthesized _
  | .between _ _ _ _, _, _ => Token.closed_parenthesized _
  | .cast operand typeName, _, _ => by
    have hbehind : " AS " ++ typeName ++ ")" = (" AS " ++ typeName).push ')' := by
      apply String.toList_inj.mp
      simp
    rw [Expr.read, hbehind, Reading.tokens_text_push]
    exact Token.Closed.text _ _ ')' (by decide)
  | .caseWhen branches otherwise, _, _ => by
    rw [Expr.read]
    exact Token.Closed.text _ " EN" 'D' (by decide)
  | .existsQuery _, _, _ => Token.closed_parenthesized _

/-- What reduces to the wildcard is read as the wildcard, or as that of a relation. -/
theorem Expr.read_of_reduced_eq_star {α : Type} (r : Reading α) :
    (expr : Expr) → expr.reduced = .star →
    expr.read r true = r.text "*" ∨
      ∃ relation, expr.read r true = r.mention relation ++ r.text "." ++ r.text "*"
  | .column reference, hstar => by
    have hwildcard : reference.isWildcard = true := by
      by_contra hproper
      rw [Expr.reduced, Column.reduced, if_neg hproper] at hstar
      cases hstar
    refine .inr ⟨reference.relation, ?_⟩
    rw [Expr.read, Column.read, Column.readBare, hwildcard]
    rfl
  | .star, _ => .inl rfl
  | .connected _ [only], hstar => Expr.read_of_reduced_eq_star r only hstar

/-- An expression is written as a wildcard exactly if its simplest form is the wildcard. -/
theorem Expr.wildcardText_iff {expr : Expr} (hformed : expr.WellFormed d)
    (haliases : ∀ relation, ∃ index, aliasOf relation = aliasWord index) (position : Nat) :
    WildcardText d aliasOf (expr.spelled d aliasOf position) ↔ expr.reduced = .star := by
  refine ⟨fun hwildcard ↦ ?_, fun hstar ↦ ?_⟩
  · by_contra hother
    exact (Expr.closed_read expr hformed hother).not_wildcardText haliases position hwildcard
  · rw [Expr.spelled]
    rcases Expr.read_of_reduced_eq_star (.tokens d) expr hstar with hread | ⟨relation, hread⟩
    · rw [hread]
      exact .inl rfl
    · rw [hread]
      refine .inr ⟨relation, ?_⟩
      apply String.toList_inj.mp
      simp [Token.spelled, Reading.tokens, Token.ofText, Token.part, Part.spell]

end BoundSql
