import BoundSql.Proofs.ExactAcceptance
import BoundSql.Proofs.Recovery.ReaderLaws
import BoundSql.Proofs.Recovery.Reduced

/-!
# Expressions are uniquely readable
-/

set_option autoImplicit false
set_option relaxedAutoImplicit false

namespace BoundSql

open BoundSql.Symbol Reader

variable {d : Dialect} {aliasOf : Identity → String}

/-! ### The symbols of an expression -/

namespace Reading

/-- A list is read as its first operand and the ones behind separators. -/
theorem symbols_separated {separator : String} (hseparator : separator ≠ " %% ")
    (texts : Expr → List Symbol) (first : Expr) (later : List Expr) :
    (symbols d aliasOf).separated separator ((first :: later).map texts) =
      texts first ++ separatedTail texts separator later := by
  induction later generalizing first with
  | nil => simp [separated, separatedTail]
  | cons second later ih =>
    have hlater := ih second
    simp only [List.map_cons] at hlater ⊢
    simp only [separated, hlater, symbols_text hseparator]
    simp [separatedTail]

end Reading

namespace Expr

/-- Expressions are well formed exactly if each of them is. -/
theorem allWellFormed_iff {items : List Expr} :
    AllWellFormed d items ↔ ∀ item ∈ items, item.WellFormed d := by
  induction items with
  | nil => simp [AllWellFormed]
  | cons first rest ih => simp [AllWellFormed, ih]

end Expr

/-! ### Each form of expression is read back -/

namespace Reader

variable {bound : Nat}

/-- A column is read back without its relation. -/
theorem reads_column (column : Column) (inside : Bool) :
    Reads (operand (bound + 1)) (column.read (.symbols d aliasOf) inside) column.reduced := by
  refine reads_of_primary fun rest hends ↦ ?_
  obtain ⟨-, -, hdot⟩ := hends.not_continued
  have hname (name : String) : Reader.column name rest = some (.column ⟨default, name⟩, rest) := by
    rw [Reader.column, hdot]
  cases hwildcard : column.isWildcard with
  | true =>
    cases inside with
    | false =>
      simp only [Column.read, Column.readBare, Column.reduced, hwildcard]
      rfl
    | true =>
      simp only [Column.read, Column.readBare, Column.reduced, hwildcard]
      rfl
  | false =>
    cases inside with
    | false =>
      simp only [Column.read, Column.readBare, Column.reduced, hwildcard]
      exact hname column.name
    | true =>
      simp only [Column.read, Column.readBare, Column.reduced, hwildcard]
      rfl

end Reader

/-- A CASE is read as this word and its branches. -/
theorem Expr.symbols_caseWhen (inside : Bool) (branches : List (Expr × Expr))
    (otherwise : Option Expr) :
    (Expr.caseWhen branches otherwise).read (.symbols d aliasOf) inside =
      chars "CASE" ++ branchTail (Expr.read (.symbols d aliasOf) inside) otherwise branches := by
  rw [Expr.read, Reading.symbols_text (by decide), List.append_assoc, List.append_assoc]
  congr 1
  induction branches with
  | nil =>
    cases otherwise with
    | none => rfl
    | some last =>
      simp [branchTail, Expr.readBranches, Expr.read?, Reading.clause, Reading.symbols_text]
  | cons branch later ih =>
    obtain ⟨condition, result⟩ := branch
    simp [Expr.readBranches, Reading.symbols_text, branchTail, ← ih]

/-! ### Expressions are read back -/

namespace Expr

/-- The reader with this bound reads the expression back in its reduced form. -/
def ReadsBack (d : Dialect) (aliasOf : Identity → String) (inside : Bool) (bound : Nat)
    (expr : Expr) : Prop :=
  Reads (operand bound) (expr.read (.symbols d aliasOf) inside) expr.reduced

section Forms

variable {inside : Bool} {bound : Nat}

theorem readsBack_defaultValue : ReadsBack d aliasOf inside (bound + 1) .defaultValue := by
  refine reads_of_primary fun rest hends ↦ ?_
  obtain ⟨hword, hopen, -⟩ := hends.not_continued
  have hprimary := @primary_word (operand bound) bound "DEFAULT".toList (by decide) (by decide)
    rest hword
  exact hprimary.trans (by simp [worded, hopen, reduced])

theorem readsBack_excluded (column : String) :
    ReadsBack d aliasOf inside (bound + 1) (.excluded column) := by
  refine reads_of_primary fun rest _ ↦ ?_
  have hprimary := @primary_word (operand bound) bound "EXCLUDED.".toList (by decide) (by decide)
    (.quoted column :: rest) rfl
  have hworded : worded (operand bound) bound "EXCLUDED.".toList (.quoted column :: rest) =
      some (.excluded column, rest) := by
    simp [worded, expect, behind]
  exact hprimary.trans hworded

/-- An operator in front of an operand, or behind it, is read back with the operand. -/
theorem ReadsBack.unary (op : UnaryOp) {operand : Expr}
    (hoperand : ReadsBack d aliasOf inside bound operand) :
    ReadsBack d aliasOf inside (bound + 1) (.unary op operand) := by
  refine reads_of_primary fun rest _ ↦ ?_
  rw [Expr.read, Reading.symbols_parenthesized, primary_parenthesized]
  cases op with
  | not => exact group_not hoperand rest
  | neg => exact group_neg hoperand rest
  | isNull =>
    rw [if_pos (by decide), List.append_assoc]
    exact group_test .isNull (by decide) hoperand rest
  | isNotNull =>
    rw [if_pos (by decide), List.append_assoc]
    exact group_test .isNotNull (by decide) hoperand rest

/-- An operator is read back with both of its operands. -/
theorem ReadsBack.binary (op : BinaryOp) {left right : Expr}
    (hleft : ReadsBack d aliasOf inside bound left)
    (hright : ReadsBack d aliasOf inside bound right) :
    ReadsBack d aliasOf inside (bound + 1) (.binary op left right) := by
  refine reads_of_primary fun rest _ ↦ ?_
  rw [Expr.read, Reading.symbols_parenthesized, primary_parenthesized, Reading.symbols_operator,
    List.append_assoc, List.append_assoc]
  exact group_operator op hleft hright rest

/-- A connective is read back with all of its operands, of which there are two or more. -/
theorem ReadsBack.connected (connective : Connective) {first second : Expr} {later : List Expr}
    (hfirst : ReadsBack d aliasOf inside bound first)
    (hlater : ∀ item ∈ second :: later, ReadsBack d aliasOf inside bound item)
    (hlength : later.length < bound) :
    ReadsBack d aliasOf inside (bound + 1)
      (.connected connective (first :: second :: later)) := by
  refine reads_of_primary fun rest _ ↦ ?_
  have hgroup := group_connective hlater connective hfirst hlength rest
  have hseparated := @Reading.symbols_separated d aliasOf (" " ++ connective.spelling ++ " ")
    (by cases connective <;> decide) (Expr.read (.symbols d aliasOf) inside) first
    (second :: later)
  simp only [Expr.read, readEach_eq_map, List.map_cons] at hseparated ⊢
  rw [Reading.symbols_parenthesized, primary_parenthesized, hseparated]
  simpa [reduced, reducedEach_eq_map, separatedTail, Joint.spelling] using hgroup

/-- A collation is read back behind its operand. -/
theorem ReadsBack.collate {operand : Expr} (collation : String)
    (hoperand : ReadsBack d aliasOf inside bound operand) :
    ReadsBack d aliasOf inside bound (.collate operand collation) := by
  intro rest _
  have hcollated := hoperand (chars " COLLATE " ++ .quoted collation :: rest) (.inl rfl)
  rw [collated_chars_append] at hcollated
  rw [Expr.read, Reading.symbols_text (by decide), List.append_assoc, List.append_assoc]
  exact hcollated

/-- A lookup in a list is read back. -/
theorem ReadsBack.inList {tested first : Expr} {later : List Expr} (negated : Bool)
    (htested : ReadsBack d aliasOf inside bound tested)
    (hitems : ∀ item ∈ first :: later, ReadsBack d aliasOf inside bound item)
    (hlength : later.length < bound) :
    ReadsBack d aliasOf inside (bound + 1) (.inList tested negated (first :: later)) := by
  refine reads_of_primary fun rest _ ↦ ?_
  have hgroup := group_membership hitems negated htested hlength rest
  have hseparated := @Reading.symbols_separated d aliasOf ", " (by decide)
    (Expr.read (.symbols d aliasOf) inside) first later
  rw [Expr.read, Reading.symbols_parenthesized, primary_parenthesized, readEach_eq_map,
    Reading.commaSeparated, hseparated, List.append_assoc, List.append_assoc,
    Reading.symbols_parenthesized]
  cases negated <;>
    simpa [Reading.symbols_text, reduced, reducedEach_eq_map, Joint.spelling, chars] using hgroup

/-- A comparison with two bounds is read back. -/
theorem ReadsBack.between {tested low high : Expr} (negated : Bool)
    (htested : ReadsBack d aliasOf inside bound tested)
    (hlow : ReadsBack d aliasOf inside bound low)
    (hhigh : ReadsBack d aliasOf inside bound high) :
    ReadsBack d aliasOf inside (bound + 1) (.between tested negated low high) := by
  refine reads_of_primary fun rest _ ↦ ?_
  have hgroup := group_range negated htested hlow hhigh rest
  rw [Expr.read, Reading.symbols_parenthesized, primary_parenthesized]
  cases negated <;> simpa [Reading.symbols_text, Joint.spelling, reduced] using hgroup

/-- A cast is read back with the name of its type. -/
theorem ReadsBack.cast {operand : Expr} {typeName : String}
    (htype : BareWord.type.allows typeName = true)
    (hoperand : ReadsBack d aliasOf inside bound operand) :
    ReadsBack d aliasOf inside (bound + 1) (.cast operand typeName) := by
  refine reads_of_primary fun rest _ ↦ ?_
  have hprimary := @primary_word (Reader.operand bound) bound "CAST".toList (by decide) (by decide)
    (chars "(" ++ (operand.read (.symbols d aliasOf) inside ++
      (chars " AS " ++ (chars typeName ++ (chars ")" ++ rest))))) rfl
  rw [worded_chars_append, call_cast htype hoperand] at hprimary
  have hother : " AS " ++ typeName ++ ")" ≠ " %% " := by
    intro hsame
    have hlist := congrArg String.toList hsame
    simp at hlist
  rw [Expr.read, Reading.symbols_text (by decide), Reading.symbols_text hother, chars_append,
    chars_append]
  simpa [chars, reduced] using hprimary

/-- A call is read back with its arguments, if there are any. -/
theorem readsBack_call {function : String} (hfunction : BareWord.function.allows function = true)
    (distinct : Bool) {arguments : List Expr}
    (hitems : ∀ item ∈ arguments, ReadsBack d aliasOf inside bound item)
    (hlength : arguments.length ≤ bound) :
    ReadsBack d aliasOf inside (bound + 1) (.call function distinct arguments) := by
  refine reads_of_primary fun rest _ ↦ ?_
  obtain ⟨hne, hwordlike⟩ := BareWord.wordlike_of_allows_function hfunction
  have hother : function ≠ " %% " := by
    rintro rfl
    exact absurd hwordlike (by decide)
  have hprimary (input : List Symbol) :
      primary (operand bound) bound (chars function ++ (chars "(" ++ input)) =
        Reader.call (operand bound) bound function.toList input :=
    (primary_word hne hwordlike rfl).trans (worded_chars_append function.toList input)
  rw [Expr.read, Reading.symbols_text hother, List.append_assoc, Reading.symbols_parenthesized,
    hprimary, readEach_eq_map, Reading.symbols_text (by decide)]
  cases arguments with
  | nil =>
    have hnothing : (Reading.symbols d aliasOf).commaSeparated
        (List.map (Expr.read (.symbols d aliasOf) inside) []) = [] := rfl
    rw [hnothing]
    cases distinct with
    | false => simpa [reduced, reducedEach] using call_nothing function.toList rest
    | true => simpa [reduced, reducedEach] using call_distinct_nothing function.toList rest
  | cons first later =>
    have hseparated := @Reading.symbols_separated d aliasOf ", " (by decide)
      (Expr.read (.symbols d aliasOf) inside) first later
    rw [Reading.commaSeparated, hseparated]
    cases distinct with
    | false =>
      have hcall := call_arguments hitems function.toList hlength rest
      simpa [reduced, reducedEach_eq_map] using hcall
    | true =>
      have hcall := call_distinct hitems function.toList hlength rest
      simpa [reduced, reducedEach_eq_map] using hcall

/-- A CASE is read back with its branches and what stands behind ELSE. -/
theorem readsBack_caseWhen {branches : List (Expr × Expr)} {otherwise : Option Expr}
    (hbranches : ∀ branch ∈ branches, ReadsBack d aliasOf inside bound branch.1 ∧
      ReadsBack d aliasOf inside bound branch.2)
    (hotherwise : ∀ expr ∈ otherwise, ReadsBack d aliasOf inside bound expr)
    (hlength : branches.length < bound) :
    ReadsBack d aliasOf inside (bound + 1) (.caseWhen branches otherwise) := by
  refine reads_of_primary fun rest _ ↦ ?_
  have hlisted := branches_branchTail hbranches hotherwise hlength rest
  obtain ⟨hword, hopen⟩ := branchTail_not_continued (Expr.read (.symbols d aliasOf) inside)
    otherwise branches rest
  have hprimary := @primary_word (operand bound) bound "CASE".toList (by decide) (by decide) _ hword
  rw [symbols_caseWhen, List.append_assoc]
  refine hprimary.trans ?_
  simp [worded, hopen, hlisted, reduced, reducedBranches_eq_map, reduced?_eq_map]

end Forms

theorem length_lt_sizeOf {α : Type} [SizeOf α] (items : List α) : items.length < sizeOf items := by
  induction items with
  | nil => simp
  | cons first rest ih =>
    simp only [List.length_cons, List.cons.sizeOf_spec]
    omega

/-- The branches of a CASE are well formed exactly if each condition and each result is. -/
theorem branchesWellFormed_iff {branches : List (Expr × Expr)} :
    BranchesWellFormed d branches ↔
      ∀ branch ∈ branches, branch.1.WellFormed d ∧ branch.2.WellFormed d := by
  induction branches with
  | nil => simp [BranchesWellFormed]
  | cons first rest ih => simp [BranchesWellFormed, ih, and_assoc]

/-- A well-formed expression without statements is read back in its reduced form, whatever stands
behind it. -/
theorem readsBack_of_sizeOf_lt (inside : Bool) (expr : Expr) (hfree : expr.StatementFree)
    (hformed : expr.WellFormed d) (bound : Nat) (hbound : sizeOf expr < bound) :
    ReadsBack d aliasOf inside bound expr := by
  have hinner (inner : Expr) (hfree : inner.StatementFree) (hformed : inner.WellFormed d)
      (hsmaller : sizeOf inner < sizeOf expr) (other : Nat) (hother : sizeOf inner < other) :
      ReadsBack d aliasOf inside other inner :=
    readsBack_of_sizeOf_lt inside inner hfree hformed other hother
  have hitems (items : List Expr) (hfree : AllStatementFree items)
      (hformed : AllWellFormed d items) (hsmaller : sizeOf items < sizeOf expr) (other : Nat)
      (hother : sizeOf items < other) : ∀ item ∈ items, ReadsBack d aliasOf inside other item := by
    intro item hitem
    have hsize := List.sizeOf_lt_of_mem hitem
    exact hinner item (allStatementFree_iff.mp hfree item hitem)
      (allWellFormed_iff.mp hformed item hitem) (by omega) other (by omega)
  obtain ⟨bound, rfl⟩ := Nat.exists_eq_add_one_of_ne_zero (Nat.ne_zero_of_lt hbound)
  cases expr with
  | column reference => exact reads_column reference inside
  | literal value => exact reads_of_primary fun rest _ ↦ rfl
  | star => exact reads_of_primary fun rest _ ↦ rfl
  | defaultValue => exact readsBack_defaultValue
  | excluded column => exact readsBack_excluded column
  | unary op operand =>
    simp only [unary.sizeOf_spec] at hinner hbound
    exact (hinner operand hfree hformed (by omega) bound (by omega)).unary op
  | binary op left right =>
    simp only [binary.sizeOf_spec] at hinner hbound
    exact (hinner left hfree.1 hformed.1 (by omega) bound (by omega)).binary op
      (hinner right hfree.2 hformed.2 (by omega) bound (by omega))
  | connected connective operands =>
    obtain ⟨hne, hformed⟩ := hformed
    simp only [connected.sizeOf_spec] at hinner hitems hbound
    match operands with
    | [] => exact absurd rfl hne
    | [only] =>
      simp only [List.cons.sizeOf_spec] at hinner hbound
      exact hinner only hfree.1 hformed.1 (by omega) (bound + 1) (by omega)
    | first :: second :: later =>
      have hlength := length_lt_sizeOf later
      have hall := hitems _ hfree hformed (by omega) bound (by omega)
      obtain ⟨hfirst, hlater⟩ := List.forall_mem_cons.mp hall
      simp only [List.cons.sizeOf_spec] at hbound
      exact hfirst.connected connective hlater (by omega)
  | call function distinct arguments =>
    simp only [call.sizeOf_spec] at hitems hbound
    have hlength := length_lt_sizeOf arguments
    exact readsBack_call hformed.1 distinct
      (hitems arguments hfree hformed.2 (by omega) bound (by omega)) (by omega)
  | collate operand collation =>
    simp only [collate.sizeOf_spec] at hinner hbound
    exact (hinner operand hfree hformed.1 (by omega) (bound + 1) (by omega)).collate collation
  | subquery query => exact hfree.elim
  | inList tested negated candidates =>
    obtain ⟨htestedFormed, hne, hformed⟩ := hformed
    simp only [inList.sizeOf_spec] at hinner hitems hbound
    have htested := hinner tested hfree.1 htestedFormed (by omega) bound (by omega)
    have hall := hitems candidates hfree.2 hformed (by omega) bound (by omega)
    cases candidates with
    | nil => exact absurd rfl hne
    | cons first later =>
      have hlength := length_lt_sizeOf later
      simp only [List.cons.sizeOf_spec] at hbound
      exact htested.inList negated hall (by omega)
  | inQuery tested negated query => exact hfree.elim
  | between tested negated low high =>
    simp only [between.sizeOf_spec] at hinner hbound
    exact (hinner tested hfree.1 hformed.1 (by omega) bound (by omega)).between negated
      (hinner low hfree.2.1 hformed.2.1 (by omega) bound (by omega))
      (hinner high hfree.2.2 hformed.2.2 (by omega) bound (by omega))
  | cast operand typeName =>
    simp only [cast.sizeOf_spec] at hinner hbound
    exact (hinner operand hfree hformed.1 (by omega) bound (by omega)).cast hformed.2
  | caseWhen branches otherwise =>
    obtain ⟨hbranchesFree, hotherwiseFree⟩ := hfree
    obtain ⟨-, hbranchesFormed, hotherwiseFormed⟩ := hformed
    simp only [caseWhen.sizeOf_spec] at hinner hbound
    have hlength := length_lt_sizeOf branches
    refine readsBack_caseWhen (fun branch hbranch ↦ ?_) (fun result hresult ↦ ?_) (by omega)
    · have hsize := List.sizeOf_lt_of_mem hbranch
      have hparts : sizeOf branch = 1 + sizeOf branch.1 + sizeOf branch.2 := rfl
      have hbranchFree := branchesStatementFree_iff.mp hbranchesFree branch hbranch
      have hbranchFormed := branchesWellFormed_iff.mp hbranchesFormed branch hbranch
      exact ⟨hinner branch.1 hbranchFree.1 hbranchFormed.1 (by omega) bound (by omega),
        hinner branch.2 hbranchFree.2 hbranchFormed.2 (by omega) bound (by omega)⟩
    · obtain rfl := Option.mem_def.mp hresult
      simp only [Option.some.sizeOf_spec] at hinner hbound
      exact hinner result hotherwiseFree hotherwiseFormed (by omega) bound (by omega)
  | existsQuery query => exact hfree.elim
termination_by sizeOf expr
decreasing_by exact hsmaller

/-- What is rendered from an expression alone depends on its reduced form only. -/
theorem render_eq_of_reduced_eq {first second : Expr} (hsame : first.reduced = second.reduced)
    {query other : Query} (hrender : (Node.expr first).render d = .ok query)
    (hother : (Node.expr second).render d = .ok other) : query = other := by
  have hread {α : Type} (r : Reading α) : (Node.expr first).read r = (Node.expr second).read r := by
    change first.read r false = second.read r false
    rw [← read_reduced r first, hsame, read_reduced r second]
  have hparts : (Node.expr first).parts d = (Node.expr second).parts d := by
    have haliases : (Node.expr first).aliasOf d = (Node.expr second).aliasOf d := by
      funext relation
      rw [Node.aliasOf, Node.aliasOf, Node.meetingOrder, Node.meetingOrder, hread]
    rw [Node.parts, Node.parts, Node.tokens, Node.tokens, hread, haliases]
  obtain ⟨sql, params⟩ := query
  obtain ⟨otherSql, otherParams⟩ := other
  have hsql := Node.sql_of_render hrender
  have hparams := Node.params_of_render hrender
  rw [hparts] at hsql hparams
  rw [Query.mk.injEq]
  exact ⟨hsql.trans (Node.sql_of_render hother).symm,
    hparams.trans (Node.params_of_render hother).symm⟩

/-- An expression that is rendered alone is well formed, and its symbols are those of the tree. -/
theorem exists_run_of_render {expr : Expr} {query : Query}
    (hrender : (Node.expr expr).render d = .ok query) :
    ∃ after : RenderState, (expr.layout d).run d {} = .ok () after ∧
      query = after.output.toQuery d.paramStyle ∧ expr.WellFormed d ∧
        (expr.layout d).writtenSymbols d {} after =
          expr.read (.symbols d after.context.roster.aliasOf) false := by
  obtain ⟨after, hrun, hquery⟩ := Node.run_of_render hrender
  have hformed := (Node.accepted_layout_iff _).mp (Node.accepted_of_render hrender)
  exact ⟨after, hrun, hquery, hformed, Expr.read_layout Reading.symbols_fits false expr hformed⟩

/-- Expressions are uniquely readable: two expressions without statements are rendered to the same
text with the same values exactly if they have the same reduced form. -/
theorem render_eq_iff_reduced_eq (hquote : d.quote = '"' ∨ d.quote = '\x60')
    {first second : Expr} (hfirst : first.StatementFree) (hsecond : second.StatementFree)
    {query other : Query} (hrender : (Node.expr first).render d = .ok query)
    (hother : (Node.expr second).render d = .ok other) :
    query = other ↔ first.reduced = second.reduced := by
  refine ⟨fun hsame ↦ ?_, fun hsame ↦ render_eq_of_reduced_eq hsame hrender hother⟩
  obtain ⟨after, hrun, hquery, hformed, hread⟩ := exists_run_of_render hrender
  obtain ⟨otherAfter, hotherRun, hotherQuery, hotherFormed, hotherRead⟩ :=
    exists_run_of_render hother
  have hsymbols := (Layout.toQuery_eq_iff_writtenSymbols_eq hquote ((Node.expr first).plain_layout)
    ((Node.expr second).plain_layout) hrun hotherRun).mp (by rw [← hquery, hsame, hotherQuery])
  change (first.layout d).writtenSymbols d {} after =
    (second.layout d).writtenSymbols d {} otherAfter at hsymbols
  rw [hread, hotherRead] at hsymbols
  -- Both are read back from the same symbols by a reader with a bound above both sizes.
  have hback := @readsBack_of_sizeOf_lt d after.context.roster.aliasOf false first hfirst hformed
    (sizeOf first + sizeOf second + 1) (by omega) [] trivial
  have hotherBack := @readsBack_of_sizeOf_lt d otherAfter.context.roster.aliasOf false second
    hsecond hotherFormed (sizeOf first + sizeOf second + 1) (by omega) [] trivial
  rw [collated_eq_self rfl] at hback hotherBack
  rw [hsymbols, hotherBack] at hback
  exact (Prod.mk.inj (Option.some.inj hback)).1.symm

end Expr

/-- The test whether a price lies between two bounds, of which the upper one is under a
collation. -/
def bargain (goods : Identity) : Expr :=
  .between (.column ⟨goods, "price"⟩) false (.unary .neg (.literal (.int 5)))
    (.collate (.excluded "limit") "C")

/-- The query of `bargain`. -/
def bargained : Query where
  sql := "(\"price\" BETWEEN (- $1) AND EXCLUDED.\"limit\" COLLATE \"C\")"
  params := [.int 5]

/-- A price of other goods under a connective of its own gives the same query, and so the same
reduced form. -/
theorem reduced_bargain :
    (Node.expr (bargain ⟨0⟩)).render .postgres = .ok bargained ∧
      (Node.expr (.connected .and [bargain ⟨3⟩])).render .postgres = .ok bargained ∧
      (bargain ⟨0⟩).reduced = (Expr.connected .and [bargain ⟨3⟩]).reduced := by
  have hfree (goods : Identity) : (bargain goods).StatementFree := ⟨trivial, trivial, trivial⟩
  have hrender : (Node.expr (bargain ⟨0⟩)).render .postgres = .ok bargained := by
    decide +kernel
  have hother : (Node.expr (.connected .and [bargain ⟨3⟩])).render .postgres = .ok bargained := by
    decide +kernel
  have hotherFree : (Expr.connected .and [bargain ⟨3⟩]).StatementFree := ⟨hfree _, trivial⟩
  exact ⟨hrender, hother,
    (Expr.render_eq_iff_reduced_eq (.inl rfl) (hfree _) hotherFree hrender hother).mp rfl⟩

end BoundSql
