import BoundSql.Identifier
import BoundSql.Tree.Layout

/-!
# Accepted layouts

A layout is accepted by a dialect if no part of it fails and every name in it may be quoted.
Acceptance looks at a layout as a whole: it depends neither on the aliases handed out before nor on
the order in which the layout is gone through. The lemmas here take it apart along the combinators
from which layouts are built.
-/

set_option autoImplicit false
set_option relaxedAutoImplicit false

namespace BoundSql

namespace Layout

/-- No part of the layout fails, and the dialect quotes every name in it. -/
def Accepted (d : Dialect) : Layout → Prop
  | identifier name => d.nameFault? name = none
  | fail _ => False
  | seq first second => first.Accepted d ∧ second.Accepted d
  | scope body => body.Accepted d
  | frame prologue body front link =>
    prologue.Accepted d ∧ body.Accepted d ∧ front.Accepted d ∧ link.Accepted d
  | _ => True

variable {d : Dialect}

/-- A sequence is accepted exactly if both of its parts are. -/
@[simp]
theorem accepted_append (first second : Layout) :
    (first ++ second).Accepted d ↔ first.Accepted d ∧ second.Accepted d := Iff.rfl

@[simp]
theorem accepted_text (characters : String) : (text characters).Accepted d := trivial

@[simp]
theorem accepted_nothing : nothing.Accepted d := trivial

@[simp]
theorem accepted_fail (error : Refusal) : ¬ (fail error).Accepted d := id

@[simp]
theorem accepted_scope (body : Layout) : (scope body).Accepted d ↔ body.Accepted d := Iff.rfl

/-- A frame is accepted exactly if all of its four parts are, whatever the order they are met in. -/
@[simp]
theorem accepted_frame (prologue body front link : Layout) :
    (frame prologue body front link).Accepted d ↔
      prologue.Accepted d ∧ body.Accepted d ∧ front.Accepted d ∧ link.Accepted d := Iff.rfl

/-- A requirement is accepted exactly if there is no error. -/
@[simp]
theorem accepted_require (error : Option Refusal) :
    (require error).Accepted d ↔ error = none := by
  cases error <;> simp [require]

@[simp]
theorem accepted_atomic (body : Layout) : (atomic body).Accepted d ↔ body.Accepted d := by
  simp [atomic]

/-- A list is accepted exactly if each of its members is. -/
@[simp]
theorem accepted_separated (separator : String) (layouts : List Layout) :
    (separated separator layouts).Accepted d ↔ ∀ layout ∈ layouts, layout.Accepted d := by
  fun_induction separated separator layouts with
  | case1 => simp
  | case2 => simp
  | case3 first rest hrest ih => simp [ih]

@[simp]
theorem accepted_commaSeparated (layouts : List Layout) :
    (commaSeparated layouts).Accepted d ↔ ∀ layout ∈ layouts, layout.Accepted d :=
  accepted_separated ", " layouts

/-- A clause is accepted exactly if its body, if it has one, is. -/
@[simp]
theorem accepted_clause (keyword : String) (body : Option Layout) :
    (clause keyword body).Accepted d ↔ ∀ layout ∈ body, layout.Accepted d := by
  cases body <;> simp [clause]

/-- A list clause is accepted exactly if each of its members is. -/
@[simp]
theorem accepted_listClause (keyword : String) (layouts : List Layout) :
    (listClause keyword layouts).Accepted d ↔ ∀ layout ∈ layouts, layout.Accepted d := by
  unfold listClause
  split
  · simp_all
  · simp

@[simp]
theorem accepted_parenthesized (body : Layout) :
    (parenthesized body).Accepted d ↔ body.Accepted d := by
  simp [parenthesized]

end Layout

end BoundSql
