import BoundSql.Proofs.Scopes.Rendering

/-!
# Columns resolve to their own relations

A reader of a rendered text resolves the alias in front of a column to the innermost statement
around it that declares this alias. Where the target of an INSERT has an alias, every column in the
scope of the statements around it resolves to its own relation, at any depth and whether the
declaration stands before or behind the column, and no alias in the text is shared by two relations
(`Statement.columns_resolve`).

Two things carry the proof. An alias tells a relation that is met apart from every other
(`Node.aliasOf_inj`), so that no declaration can stand in the way of another. And the declarations
and references of the text are the listed relations and the columns of the tree
(`Statement.bareAll_outline`), so that a column in scope has a declaration.
-/

set_option autoImplicit false
set_option relaxedAutoImplicit false

namespace BoundSql

/-! ### Resolving an alias -/

namespace Mark

/-- The relation that an alias stands for where `scopes` are the declared relations of the
statements around, the innermost first. -/
def resolve (aliasOf : Identity → String) (scopes : List (List Identity)) (written : String) :
    Option Identity :=
  scopes.findSome? fun declarations ↦
    declarations.find? fun relation ↦ aliasOf relation == written

mutual

/-- The relation of a reference is declared by a statement around it, and its alias resolves to it;
in a statement this holds of every reference. -/
def Resolves (aliasOf : Identity → String) (scopes : List (List Identity)) : Mark → Prop
  | reference relation =>
    (∃ declarations ∈ scopes, relation ∈ declarations) ∧
      resolve aliasOf scopes (aliasOf relation) = some relation
  | statement inside => AllResolve aliasOf (declared inside :: scopes) inside
  | _ => True

/-- Every reference resolves to its own relation. -/
def AllResolve (aliasOf : Identity → String) (scopes : List (List Identity)) : List Mark → Prop
  | [] => True
  | first :: rest => first.Resolves aliasOf scopes ∧ AllResolve aliasOf scopes rest

end

variable {aliasOf : Identity → String} {scopes : List (List Identity)}

/-- Marks in a row resolve exactly if all of them do. -/
theorem allResolve_append {first second : List Mark} :
    AllResolve aliasOf scopes (first ++ second) ↔
      AllResolve aliasOf scopes first ∧ AllResolve aliasOf scopes second := by
  induction first with
  | nil => simp [AllResolve]
  | cons mark rest ih => simp [AllResolve, ih, and_assoc]

mutual

/-- Resolving a mark does not look at its text. -/
theorem allResolve_bare (scopes : List (List Identity)) : (mark : Mark) →
    (AllResolve aliasOf scopes mark.bare ↔ mark.Resolves aliasOf scopes)
  | token _ => by simp [bare, AllResolve, Resolves]
  | definition _ => by simp [bare, AllResolve]
  | declaration _ => by simp [bare, AllResolve]
  | reference _ => by simp [bare, AllResolve]
  | statement inside => by
    simp only [bare, AllResolve, Resolves, and_true, declared_bareAll]
    exact allResolve_bareAll (declared inside :: scopes) inside

/-- Whether references resolve does not depend on the text between them. -/
theorem allResolve_bareAll (scopes : List (List Identity)) : (marks : List Mark) →
    (AllResolve aliasOf scopes (bareAll marks) ↔ AllResolve aliasOf scopes marks)
  | [] => by simp [bareAll]
  | first :: rest => by
    rw [bareAll, allResolve_append, allResolve_bare scopes first, allResolve_bareAll scopes rest,
      AllResolve]

end

/-- An alias of one relation resolves to this relation wherever it is declared. -/
theorem resolve_eq_some {relation : Identity}
    (hdeclared : ∃ declarations ∈ scopes, relation ∈ declarations)
    (hown : ∀ other, aliasOf relation = aliasOf other → relation = other) :
    resolve aliasOf scopes (aliasOf relation) = some relation := by
  obtain ⟨declarations, hscope, hrelation⟩ := hdeclared
  have hfound : (resolve aliasOf scopes (aliasOf relation)).isSome := by
    rw [resolve, List.findSome?_isSome_iff]
    refine ⟨declarations, hscope, ?_⟩
    rw [List.find?_isSome]
    exact ⟨relation, hrelation, by simp⟩
  obtain ⟨other, hother⟩ := Option.isSome_iff_exists.mp hfound
  have hsame : aliasOf other = aliasOf relation := by
    obtain ⟨visible, -, hvisible⟩ := List.exists_of_findSome?_eq_some hother
    simpa using List.find?_some hvisible
  rw [hother, hown other hsame.symm]

end Mark

/-! ### Columns in scope -/

namespace Occurrence

variable {d : Dialect} {aliasOf : Identity → String}

/-- What an occurrence declares is the relation that it lists, if it lists one. -/
theorem declared_marks (haliases : d.aliasesInsert = true) (occurrence : Occurrence) :
    Mark.declared (occurrence.marks d) = occurrence.listed?.toList := by
  cases occurrence <;> simp [marks, haliases, Mark.declared, Mark.declared?, listed?]

/-- Where every target has an alias, a statement declares what it lists. -/
theorem declared_marksAll (haliases : d.aliasesInsert = true) (inside : List Occurrence) :
    Mark.declared (marksAll d inside) = listed inside := by
  induction inside with
  | nil => rfl
  | cons first rest ih =>
    rw [marksAll, Mark.declared_append, ih, declared_marks haliases, listed, listed,
      List.filterMap_cons]
    cases first.listed? <;> rfl

mutual

/-- The marks of an occurrence in scope resolve, if no two of the relations referred to share an
alias. -/
theorem resolves_of_inScope (haliases : d.aliasesInsert = true) (scopes : List (List Identity)) :
    (occurrence : Occurrence) → occurrence.InScope scopes →
    (∀ relation, .reference relation ∈ Mark.flatAll (occurrence.marks d) →
      ∀ other, aliasOf relation = aliasOf other → relation = other) →
    Mark.AllResolve aliasOf scopes (occurrence.marks d)
  | definition _ _, _, _ => by simp [marks, Mark.AllResolve, Mark.Resolves]
  | table _, _, _ => by simp [marks, Mark.AllResolve, Mark.Resolves]
  | insertTarget _, _, _ => by simp [marks, haliases, Mark.AllResolve, Mark.Resolves]
  | item _, _, _ => by simp [marks, Mark.AllResolve, Mark.Resolves]
  | column relation, hscope, hown => by
    have hrelation := hown relation (by simp [marks, Mark.flatAll, Mark.flat])
    simp only [InScope] at hscope
    simp only [marks, Mark.AllResolve, Mark.Resolves, and_true]
    exact ⟨hscope, Mark.resolve_eq_some hscope hrelation⟩
  | statement inside, hscope, hown => by
    simp only [InScope] at hscope
    simp only [marks, Mark.AllResolve, Mark.Resolves, and_true, declared_marksAll haliases]
    refine allResolve_of_allInScope haliases (listed inside :: scopes) inside hscope ?_
    intro relation hreference
    exact hown relation (by simpa [marks, Mark.flatAll, Mark.flat] using hreference)

/-- Columns in scope resolve if no other relation has the alias of theirs. -/
theorem allResolve_of_allInScope (haliases : d.aliasesInsert = true)
    (scopes : List (List Identity)) : (occurrences : List Occurrence) →
    AllInScope scopes occurrences →
    (∀ relation, .reference relation ∈ Mark.flatAll (marksAll d occurrences) →
      ∀ other, aliasOf relation = aliasOf other → relation = other) →
    Mark.AllResolve aliasOf scopes (marksAll d occurrences)
  | [], _, _ => trivial
  | first :: rest, hscope, hown => by
    simp only [AllInScope] at hscope
    simp only [marksAll, Mark.flatAll_append, List.mem_append] at hown
    rw [marksAll, Mark.allResolve_append]
    refine ⟨resolves_of_inScope haliases scopes first hscope.1 fun relation hreference ↦ ?_,
      allResolve_of_allInScope haliases scopes rest hscope.2 fun relation hreference ↦ ?_⟩
    · exact hown relation (.inl hreference)
    · exact hown relation (.inr hreference)

end

end Occurrence

/-! ### Rendered statements -/

/-- Where the target of an INSERT has an alias, every column in the scope of the statements around
it resolves to its own relation. The text is what its outline spells, the outline shows the columns
and the listed relations of the tree, the alias of every reference resolves to the relation of the
column, and no two relations in the text have the same alias. -/
theorem Statement.columns_resolve {d : Dialect} {statement : Statement} {query : Query}
    (haliases : d.aliasesInsert = true) (hscope : statement.ColumnsInScope)
    (hrender : (Node.statement statement).render d = .ok query) :
    let aliasOf := (Node.statement statement).aliasOf d
    let outline := (Node.statement statement).outline d
    query.sql =
        Part.spell d.paramStyle 0
          (((Mark.flatAll outline).flatMap Mark.tokens).map (Token.part d aliasOf)) ∧
      Mark.bareAll outline = Occurrence.marksAll d statement.occurrences ∧
      Mark.AllResolve aliasOf [] outline ∧
      ∀ first ∈ Mark.flatAll outline, ∀ second ∈ Mark.flatAll outline,
        ∀ relation ∈ first.relation?, ∀ other ∈ second.relation?,
          aliasOf relation = aliasOf other → relation = other := by
  intro aliasOf outline
  have haccepted : (statement.layout d).Accepted d := Node.accepted_of_render hrender
  have hown : ∀ mark ∈ Mark.flatAll outline, ∀ relation ∈ mark.relation?, ∀ other,
      aliasOf relation = aliasOf other → relation = other := by
    intro mark hmark relation hrelation
    exact Node.aliasOf_inj (Node.mem_meetingOrder_of_mark haccepted hmark hrelation)
  have hskeleton : Mark.bareAll outline = Occurrence.marksAll d statement.occurrences :=
    Statement.bareAll_outline haccepted
  have hresolve : Mark.AllResolve aliasOf [] (Occurrence.marksAll d statement.occurrences) := by
    refine Occurrence.allResolve_of_allInScope haliases [] _ hscope fun relation hreference ↦ ?_
    rw [← hskeleton, Mark.mem_flatAll_bareAll rfl] at hreference
    exact hown _ hreference relation rfl
  refine ⟨Node.sql_eq_spell_outline hrender, hskeleton, ?_, ?_⟩
  · rwa [← hskeleton, Mark.allResolve_bareAll] at hresolve
  · intro first hfirst _ _ relation hrelation other _ hsame
    exact hown first hfirst relation hrelation other hsame

/-- In `repricing` the target and the common table expression are referred to before they are
declared, and a nested query refers to the target. -/
theorem columns_resolve_repricing :
    ∃ statement, repricing "goods" "price" = .statement statement ∧ statement.ColumnsInScope ∧
      Mark.AllResolve ((repricing "goods" "price").aliasOf .postgres) []
        ((repricing "goods" "price").outline .postgres) := by
  refine ⟨_, rfl, by decide, ?_⟩
  exact (Statement.columns_resolve rfl (by decide) render_repricing).2.2.1

end BoundSql
