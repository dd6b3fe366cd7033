import BoundSql.Proofs.AliasWords
import BoundSql.Proofs.Recovery.Expressions
import BoundSql.Proofs.Recovery.JoinTrees

/-!
# Join trees are readable up to CROSS JOINs

Which join trees can be told apart by what is rendered from them: `Node.RendersAlike` compares two
nodes that are rendered from one state. Where every relation has an alias already, nodes are
rendered alike exactly if they have the same symbols (`Node.rendersAlike_iff`). The symbols of a
join tree are those of its leftmost leaf and of its links, and each link can be read back from them
(`JoinLink.forall₂_alike_of_read_eq`), since a condition ends where the next link begins. So two
join trees are rendered alike exactly if their regrouped trees have the same joins
(`RowSource.rendersAlike_iff_sameJoins_regrouped`).
-/

set_option autoImplicit false
set_option relaxedAutoImplicit false

namespace BoundSql

open BoundSql.Symbol Reader

variable {d : Dialect} {before : RenderState}

/-! ### Nodes that are rendered alike -/

/-- From this state both nodes are rendered, and what has been written then is the same query. -/
def Node.RendersAlike (d : Dialect) (before : RenderState) (first second : Node) : Prop :=
  ∃ after otherAfter : RenderState, (first.renderer d).run before = .ok () after ∧
    (second.renderer d).run before = .ok () otherAfter ∧
      after.output.toQuery d.paramStyle = otherAfter.output.toQuery d.paramStyle

/-- A well-formed node renders like itself. -/
theorem Node.rendersAlike_self (hquote : d.quote.isLower = false) {node : Node}
    (hformed : node.WellFormed d) : node.RendersAlike d before node := by
  obtain ⟨after, hrun⟩ :=
    Layout.exists_run_eq_ok ((accepted_layout_iff node).mpr hformed) (.inl hquote) before
  exact ⟨after, after, hrun, hrun, rfl⟩

/-- From this state both expressions are rendered, and what has been written then is the same
query. -/
def Expr.RendersAlike (d : Dialect) (before : RenderState) (first second : Expr) : Prop :=
  (Node.expr first).RendersAlike d before (.expr second)

/-- Where all relations have their aliases already, these are the aliases that are written. -/
theorem Layout.writtenSymbols_of_listed {layout : Layout} {after : RenderState}
    (hrun : layout.run d before = .ok () after)
    (hlisted : ∀ relation ∈ layout.read (.meetings d) before.context.insideStatement,
      relation ∈ before.context.roster.members) :
    layout.writtenSymbols d before after =
      layout.read (.symbols d before.context.roster.aliasOf) before.context.insideStatement := by
  have hroster : after.context.roster = before.context.roster := by
    rw [(completes_of_run hrun).context_eq]
    exact Roster.visitAll_eq_self hlisted
  rw [writtenSymbols, hroster]

section Listed

variable (hquote : d.quote = '"' ∨ d.quote = '\x60')
include hquote

/-- Where all relations have their aliases already, nodes are rendered alike exactly if they have
the same symbols. How the nodes are read may depend on their being well formed. -/
theorem Node.rendersAlike_iff {first second : Node}
    (read otherRead : ∀ {α : Type}, Reading α → List α)
    (hread : first.WellFormed d → ∀ {α : Type} {r : Reading α}, r.Fits d →
      (first.layout d).read r before.context.insideStatement = read r)
    (hotherRead : second.WellFormed d → ∀ {α : Type} {r : Reading α}, r.Fits d →
      (second.layout d).read r before.context.insideStatement = otherRead r)
    (hfirst : ∀ relation ∈ read (.meetings d), relation ∈ before.context.roster.members)
    (hsecond : ∀ relation ∈ otherRead (.meetings d), relation ∈ before.context.roster.members) :
    first.RendersAlike d before second ↔ first.WellFormed d ∧ second.WellFormed d ∧
      read (.symbols d before.context.roster.aliasOf) =
        otherRead (.symbols d before.context.roster.aliasOf) := by
  have hsame {after otherAfter : RenderState} (hrun : (first.renderer d).run before = .ok () after)
      (hotherRun : (second.renderer d).run before = .ok () otherAfter)
      (hformed : first.WellFormed d) (hotherFormed : second.WellFormed d) :
      after.output.toQuery d.paramStyle = otherAfter.output.toQuery d.paramStyle ↔
        read (.symbols d before.context.roster.aliasOf) =
          otherRead (.symbols d before.context.roster.aliasOf) := by
    rw [← hread hformed (Reading.meetings_fits d)] at hfirst
    rw [← hotherRead hotherFormed (Reading.meetings_fits d)] at hsecond
    rw [← hread hformed Reading.symbols_fits, ← hotherRead hotherFormed Reading.symbols_fits,
      ← Layout.writtenSymbols_of_listed hrun hfirst,
      ← Layout.writtenSymbols_of_listed hotherRun hsecond]
    exact Layout.toQuery_eq_iff_writtenSymbols_eq hquote first.plain_layout second.plain_layout
      hrun hotherRun
  constructor
  · rintro ⟨after, otherAfter, hrun, hotherRun, hquery⟩
    have hformed := (accepted_layout_iff _).mp (Layout.completes_of_run hrun).accepted
    have hotherFormed := (accepted_layout_iff _).mp (Layout.completes_of_run hotherRun).accepted
    exact ⟨hformed, hotherFormed, (hsame hrun hotherRun hformed hotherFormed).mp hquery⟩
  · rintro ⟨hformed, hotherFormed, hsymbols⟩
    have hlower : d.quote.isLower = false := by
      rcases hquote with h | h <;> rw [h] <;> decide
    obtain ⟨after, hrun⟩ := Layout.exists_run_eq_ok ((accepted_layout_iff first).mpr hformed)
      (.inl hlower) before
    obtain ⟨otherAfter, hotherRun⟩ := Layout.exists_run_eq_ok
      ((accepted_layout_iff second).mpr hotherFormed) (.inl hlower) before
    exact ⟨after, otherAfter, hrun, hotherRun,
      (hsame hrun hotherRun hformed hotherFormed).mpr hsymbols⟩

variable (hinside : before.context.insideStatement = true)
include hinside

/-- Expressions about relations that have been met render alike exactly if they are read as the same
symbols. -/
theorem Expr.rendersAlike_iff {first second : Expr}
    (hfirst : ∀ relation ∈ first.read (.meetings d) true,
      relation ∈ before.context.roster.members)
    (hsecond : ∀ relation ∈ second.read (.meetings d) true,
      relation ∈ before.context.roster.members) :
    first.RendersAlike d before second ↔
      first.WellFormed d ∧ second.WellFormed d ∧
        first.read (.symbols d before.context.roster.aliasOf) true =
          second.read (.symbols d before.context.roster.aliasOf) true := by
  have hread {expr : Expr} (hformed : expr.WellFormed d) {α : Type} {r : Reading α}
      (hfits : r.Fits d) :
      (expr.layout d).read r before.context.insideStatement = expr.read r true := by
    rw [hinside]
    exact Expr.read_layout hfits true expr hformed
  exact Node.rendersAlike_iff hquote (fun r ↦ first.read r true) (fun r ↦ second.read r true)
    hread hread hfirst hsecond

/-- Sources of relations that have been met render alike exactly if they are read as the same
symbols. -/
theorem RowSource.rendersAlike_iff {first second : RowSource}
    (hfirst : ∀ relation ∈ first.read (.meetings d) true,
      relation ∈ before.context.roster.members)
    (hsecond : ∀ relation ∈ second.read (.meetings d) true,
      relation ∈ before.context.roster.members) :
    (Node.source first).RendersAlike d before (.source second) ↔
      first.WellFormed d ∧ second.WellFormed d ∧
        first.read (.symbols d before.context.roster.aliasOf) true =
          second.read (.symbols d before.context.roster.aliasOf) true := by
  have hread {source : RowSource} (hformed : source.WellFormed d) {α : Type} {r : Reading α}
      (hfits : r.Fits d) :
      (source.layout d).read r before.context.insideStatement = source.read r true := by
    rw [hinside]
    exact RowSource.read_layout hfits true source hformed
  exact Node.rendersAlike_iff hquote (fun r ↦ first.read r true) (fun r ↦ second.read r true)
    hread hread hfirst hsecond

end Listed

/-! ### Tables and conditions in front of other symbols -/

namespace Symbol

/-- Texts that diverge differ, whatever stands behind them. -/
theorem chars_append_ne {first second : String} (rest otherRest : List Symbol)
    (hdiverge : Diverge first second) :
    chars first ++ rest ≠ chars second ++ otherRest := by
  intro hsame
  have hfound := expect_chars_append first rest
  rw [hsame, expect_chars_append_eq_none first second otherRest hdiverge] at hfound
  cases hfound

end Symbol

section Leaves

variable {roster : Roster} {rest otherRest : List Symbol}

/-- A table is known from its symbols, and so is where they end. -/
theorem Table.eq_of_read_append_eq {table other : Table} (hlisted : table.id ∈ roster.members)
    (hsame : table.read (.symbols d roster.aliasOf) ++ rest =
      other.read (.symbols d roster.aliasOf) ++ otherRest) : table = other ∧ rest = otherRest := by
  obtain ⟨id, name, schema⟩ := table
  obtain ⟨otherId, otherName, otherSchema⟩ := other
  have hlead : (Reading.symbols d roster.aliasOf).text d.aliasLead = chars d.aliasLead := by
    refine Reading.symbols_text ?_
    unfold Dialect.aliasLead
    split <;> decide
  have hdot : Diverge "." d.aliasLead := by
    unfold Dialect.aliasLead
    split <;> decide
  simp only [Table.read, Table.readName, Reading.symbols_fits.tableAlias_eq, hlead,
    Reading.symbols_name, Reading.symbols_mention,
    Reading.symbols_text (show "." ≠ " %% " by decide), List.append_assoc] at hsame
  have hparts : schema = otherSchema ∧ name = otherName ∧
      roster.aliasOf id = roster.aliasOf otherId ∧ rest = otherRest := by
    -- Behind the first name stands a dot if it is a schema, and the alias otherwise.
    cases schema with
    | none =>
      cases otherSchema with
      | none => simpa using hsame
      | some otherSchema => exact absurd (List.cons.inj hsame).2.symm (chars_append_ne _ _ hdot)
    | some schema =>
      cases otherSchema with
      | none => exact absurd (List.cons.inj hsame).2 (chars_append_ne _ _ hdot)
      | some otherSchema => simpa using hsame
  obtain ⟨rfl, rfl, haliases, hrest⟩ := hparts
  obtain rfl := (Roster.aliasOf_inj hlisted).mp haliases
  exact ⟨rfl, hrest⟩

/-- The symbols continue no expression in front of them. -/
def Closes (rest : List Symbol) : Prop := Ends rest ∧ expect " COLLATE " rest = none

/-- Conditions end where something stands that continues no expression. -/
theorem Expr.eq_of_read_append_eq {aliasOf : Identity → String} {first second : Expr}
    (hfirst : first.StatementFree ∧ first.WellFormed d)
    (hsecond : second.StatementFree ∧ second.WellFormed d) (hrest : Closes rest)
    (hotherRest : Closes otherRest)
    (hsame : first.read (.symbols d aliasOf) true ++ rest =
      second.read (.symbols d aliasOf) true ++ otherRest) :
    first.read (.symbols d aliasOf) true = second.read (.symbols d aliasOf) true ∧
      rest = otherRest := by
  have hback := @Expr.readsBack_of_sizeOf_lt d aliasOf true first hfirst.1 hfirst.2
    (sizeOf first + sizeOf second + 1) (by omega) rest hrest.1
  have hotherBack := @Expr.readsBack_of_sizeOf_lt d aliasOf true second hsecond.1 hsecond.2
    (sizeOf first + sizeOf second + 1) (by omega) otherRest hotherRest.1
  rw [collated_eq_self hrest.2] at hback
  rw [← hsame, collated_eq_self hotherRest.2, hback] at hotherBack
  obtain rfl := (Prod.mk.inj (Option.some.inj hotherBack)).2
  exact ⟨List.append_cancel_right hsame, rfl⟩

end Leaves

/-! ### Links in front of other links -/

/-- A table that is listed. -/
def Table.Listed (roster : Roster) (table : Table) : Prop := table.id ∈ roster.members

/-- A well-formed condition without statements of which all relations are listed. -/
structure Expr.Readable (d : Dialect) (roster : Roster) (condition : Expr) : Prop where
  statementFree : condition.StatementFree
  wellFormed : condition.WellFormed d
  listed : ∀ relation ∈ condition.read (.meetings d) true, relation ∈ roster.members

namespace JoinLink

/-- The name of a join, as it stands in front of the right side. -/
theorem diverge_joined {kind other : JoinKind} (hne : kind ≠ other) :
    Diverge (" " ++ kind.spelling ++ " ") (" " ++ other.spelling ++ " ") := by
  cases kind <;> cases other <;> first | exact absurd rfl hne | decide

/-- The keyword of a join cannot be taken for ON. -/
theorem diverge_joined_on (kind : JoinKind) : Diverge (" " ++ kind.spelling ++ " ") " ON " := by
  cases kind <;> decide

/-- The keyword of a join ends the condition in front of it. -/
theorem delimits_joined (kind : JoinKind) : Delimits (" " ++ kind.spelling ++ " ") := by
  cases kind <;> decide

section Links

variable {roster : Roster}

/-- A joined source is read behind the keyword of its join. -/
theorem read_joined (kind : JoinKind) (leaf : RowSource) :
    (joined kind leaf).read (.symbols d roster.aliasOf) true =
      chars (" " ++ kind.spelling ++ " ") ++ leaf.read (.symbols d roster.aliasOf) true := by
  rw [read, Reading.symbols_text (by cases kind <;> decide)]

/-- A condition is read behind ON. -/
theorem read_on (condition : Expr) :
    (on condition).read (.symbols d roster.aliasOf) true =
      chars " ON " ++ condition.read (.symbols d roster.aliasOf) true := by
  rw [read, Reading.symbols_text (by decide)]

/-- Links continue no expression in front of them. -/
theorem closes_flatMap_read (links : List JoinLink) :
    Closes (links.flatMap (read (.symbols d roster.aliasOf) true)) := by
  have hcloses {characters : String} (hdelimits : Delimits characters) (rest : List Symbol) :
      Closes (chars characters ++ rest) :=
    ⟨hdelimits.ends rest, expect_chars_append_eq_none _ _ rest hdelimits.2⟩
  cases links with
  | nil => exact ⟨trivial, rfl⟩
  | cons link later =>
    cases link with
    | joined kind leaf =>
      rw [List.flatMap_cons, read_joined, List.append_assoc]
      exact hcloses (delimits_joined kind) _
    | on condition =>
      rw [List.flatMap_cons, read_on, List.append_assoc]
      exact hcloses (by decide) _

variable {alike : Expr → Expr → Prop}

/-- A link is known from its symbols, and so is where they end. -/
theorem alike_of_read_append_eq
    (halike : ∀ first second : Expr, first.Readable d roster → second.Readable d roster →
      first.read (.symbols d roster.aliasOf) true = second.read (.symbols d roster.aliasOf) true →
        alike first second)
    {link other : JoinLink} (hlink : link.BuiltFrom (Table.Listed roster) (Expr.Readable d roster))
    (hother : other.BuiltFrom (Table.Listed roster) (Expr.Readable d roster))
    {rest otherRest : List Symbol} (hrest : Closes rest) (hotherRest : Closes otherRest)
    (hsame : link.read (.symbols d roster.aliasOf) true ++ rest =
      other.read (.symbols d roster.aliasOf) true ++ otherRest) :
    Alike alike link other ∧ rest = otherRest := by
  cases link with
  | joined kind leaf =>
    cases other with
    | joined otherKind otherLeaf =>
      obtain ⟨table, rfl, hlisted⟩ := hlink
      obtain ⟨otherTable, rfl, -⟩ := hother
      rw [read_joined, read_joined, List.append_assoc, List.append_assoc] at hsame
      by_cases hkind : kind = otherKind
      · subst hkind
        obtain ⟨rfl, hlater⟩ := Table.eq_of_read_append_eq hlisted (List.append_cancel_left hsame)
        exact ⟨.joined kind (.table table), hlater⟩
      · exact absurd hsame (chars_append_ne _ _ (diverge_joined hkind))
    | on condition =>
      rw [read_joined, read_on, List.append_assoc, List.append_assoc] at hsame
      exact absurd hsame (chars_append_ne _ _ (diverge_joined_on kind))
  | on condition =>
    cases other with
    | joined kind leaf =>
      rw [read_joined, read_on, List.append_assoc, List.append_assoc] at hsame
      exact absurd hsame.symm (chars_append_ne _ _ (diverge_joined_on kind))
    | on otherCondition =>
      rw [read_on, read_on, List.append_assoc, List.append_assoc] at hsame
      obtain ⟨hconditions, hlater⟩ := Expr.eq_of_read_append_eq
        ⟨hlink.statementFree, hlink.wellFormed⟩ ⟨hother.statementFree, hother.wellFormed⟩ hrest
        hotherRest (List.append_cancel_left hsame)
      exact ⟨.on (halike _ _ hlink hother hconditions), hlater⟩

/-- Every link of a chain of joins has text. -/
theorem read_ne_nil (link : JoinLink) : link.read (.symbols d roster.aliasOf) true ≠ [] := by
  cases link with
  | joined kind leaf =>
    rw [read_joined]
    cases kind <;> exact List.cons_ne_nil _ _
  | on condition =>
    rw [read_on]
    exact List.cons_ne_nil _ _

/-- Links are known from their symbols. -/
theorem forall₂_alike_of_read_eq
    (halike : ∀ first second : Expr, first.Readable d roster → second.Readable d roster →
      first.read (.symbols d roster.aliasOf) true = second.read (.symbols d roster.aliasOf) true →
        alike first second)
    {links otherLinks : List JoinLink}
    (hlinks : ∀ link ∈ links, link.BuiltFrom (Table.Listed roster) (Expr.Readable d roster))
    (hotherLinks : ∀ link ∈ otherLinks,
      link.BuiltFrom (Table.Listed roster) (Expr.Readable d roster))
    (hsame : links.flatMap (read (.symbols d roster.aliasOf) true) =
      otherLinks.flatMap (read (.symbols d roster.aliasOf) true)) :
    List.Forall₂ (Alike alike) links otherLinks := by
  induction links generalizing otherLinks with
  | nil =>
    cases otherLinks with
    | nil => exact .nil
    | cons other later =>
      exact absurd (List.append_eq_nil_iff.mp hsame.symm).1 other.read_ne_nil
  | cons link later ih =>
    cases otherLinks with
    | nil => exact absurd (List.append_eq_nil_iff.mp hsame).1 link.read_ne_nil
    | cons other otherLater =>
      obtain ⟨hlink, hlater⟩ := List.forall_mem_cons.mp hlinks
      obtain ⟨hother, hotherLater⟩ := List.forall_mem_cons.mp hotherLinks
      obtain ⟨hmatch, hrest⟩ := alike_of_read_append_eq halike hlink hother
        (closes_flatMap_read later) (closes_flatMap_read otherLater) hsame
      exact .cons hmatch (ih hlater hotherLater hrest)

end Links

end JoinLink

/-! ### Join trees -/

namespace RowSource

/-- A join tree of which all relations are listed can be read back. -/
theorem builtFrom_readable {roster : Roster} : (source : RowSource) → source.JoinsTables →
    source.WellFormed d →
      (∀ relation ∈ source.read (.meetings d) true, relation ∈ roster.members) →
        source.BuiltFrom (Table.Listed roster) (Expr.Readable d roster)
  | table source, _, _, hlisted => hlisted source.id (by simp [RowSource.read, Table.read,
      Reading.meetings])
  | join kind left right condition, hjoins, hformed, hlisted => by
    simp only [RowSource.read, List.mem_append, or_imp, forall_and] at hlisted
    obtain ⟨⟨⟨hleftListed, -⟩, hrightListed⟩, hconditionListed⟩ := hlisted
    refine ⟨builtFrom_readable left hjoins.1 hformed.1 hleftListed,
      builtFrom_readable right hjoins.2.1 hformed.2.1 hrightListed, fun expr hexpr ↦ ?_⟩
    obtain rfl := Option.mem_def.mp hexpr
    exact ⟨hjoins.2.2 expr rfl, hformed.2.2.2, fun relation hrelation ↦
      hconditionListed relation (List.mem_append_right _ hrelation)⟩

/-- Trees with the same joins have the same symbols, if conditions that are alike have them. -/
theorem SameJoins.read_eq {alike : Expr → Expr → Prop} {relations : List Identity}
    {aliasOf : Identity → String}
    (halike : ∀ condition other : Expr, alike condition other →
      (∀ relation ∈ condition.read (.meetings d) true, relation ∈ relations) →
        (∀ relation ∈ other.read (.meetings d) true, relation ∈ relations) →
          condition.read (.symbols d aliasOf) true = other.read (.symbols d aliasOf) true)
    {first second : RowSource} (hsame : first.SameJoins alike second)
    (hfirst : ∀ relation ∈ first.read (.meetings d) true, relation ∈ relations)
    (hsecond : ∀ relation ∈ second.read (.meetings d) true, relation ∈ relations) :
    first.read (.symbols d aliasOf) true = second.read (.symbols d aliasOf) true := by
  induction hsame with
  | table source => rfl
  | join kind _ _ hcondition hleft hright =>
    simp only [RowSource.read, List.mem_append, or_imp, forall_and] at hfirst hsecond
    rw [RowSource.read, RowSource.read, hleft hfirst.1.1.1 hsecond.1.1.1,
      hright hfirst.1.2 hsecond.1.2]
    cases hcondition with
    | none => rfl
    | some hconditions =>
      have hlater := halike _ _ hconditions
        (fun relation hrelation ↦ hfirst.2 relation (List.mem_append_right _ hrelation))
        (fun relation hrelation ↦ hsecond.2 relation (List.mem_append_right _ hrelation))
      rw [Expr.read?, Expr.read?, hlater]

/-- Trees with the same symbols have the same joins, once they are regrouped. -/
theorem sameJoins_regrouped_of_read_eq {roster : Roster} {alike : Expr → Expr → Prop}
    (halike : ∀ condition other : Expr, condition.Readable d roster → other.Readable d roster →
      condition.read (.symbols d roster.aliasOf) true =
        other.read (.symbols d roster.aliasOf) true → alike condition other)
    {first second : RowSource}
    (hfirst : first.BuiltFrom (Table.Listed roster) (Expr.Readable d roster))
    (hsecond : second.BuiltFrom (Table.Listed roster) (Expr.Readable d roster))
    (hformed : first.WellFormed d) (hotherFormed : second.WellFormed d)
    (hsame : first.read (.symbols d roster.aliasOf) true =
      second.read (.symbols d roster.aliasOf) true) :
    first.regrouped.SameJoins alike second.regrouped := by
  obtain ⟨table, hhead, hlisted⟩ := first.head_eq_table hfirst
  obtain ⟨otherTable, hotherHead, -⟩ := second.head_eq_table hsecond
  rw [first.read_eq_head_append_links, second.read_eq_head_append_links, hhead, hotherHead] at hsame
  obtain ⟨rfl, hlater⟩ := Table.eq_of_read_append_eq hlisted hsame
  have hlinks := JoinLink.forall₂_alike_of_read_eq halike (first.builtFrom_of_mem_links hfirst)
    (second.builtFrom_of_mem_links hsecond) hlater
  have hassembled := sameJoins_assemble hlinks (.table table) .nil
  have hfirstTree := assemble_links first hformed [] []
  have hsecondTree := assemble_links second hotherFormed [] []
  rw [hhead, List.append_nil] at hfirstTree
  rw [hotherHead, List.append_nil] at hsecondTree
  rwa [hfirstTree, hsecondTree] at hassembled

/-- Inside a statement, from a state that has an alias for every relation, two join trees are
rendered alike exactly if both can be rendered and have the same joins once every join on the right
side of a CROSS JOIN is moved out. Trees without such joins have the same joins themselves. -/
theorem rendersAlike_iff_sameJoins_regrouped (hquote : d.quote = '"' ∨ d.quote = '\x60')
    (hinside : before.context.insideStatement = true) {first second : RowSource}
    (hfirst : first.JoinsTables) (hsecond : second.JoinsTables)
    (hlisted : ∀ relation ∈ first.read (.meetings d) true ++ second.read (.meetings d) true,
      relation ∈ before.context.roster.members) :
    ((Node.source first).RendersAlike d before (.source second) ↔
        first.WellFormed d ∧ second.WellFormed d ∧
          first.regrouped.SameJoins (Expr.RendersAlike d before) second.regrouped) ∧
      (first.CrossesLeaves → second.CrossesLeaves →
        (Node.source first).RendersAlike d before (.source second) →
          first.SameJoins (Expr.RendersAlike d before) second) := by
  simp only [List.mem_append, or_imp, forall_and] at hlisted
  obtain ⟨hfirstListed, hsecondListed⟩ := hlisted
  have hsymbols := rendersAlike_iff hquote hinside hfirstListed hsecondListed
  have hregrouped (hformed : first.WellFormed d) (hotherFormed : second.WellFormed d) :
      first.read (.symbols d before.context.roster.aliasOf) true =
          second.read (.symbols d before.context.roster.aliasOf) true ↔
        first.regrouped.SameJoins (Expr.RendersAlike d before) second.regrouped := by
    constructor
    · refine sameJoins_regrouped_of_read_eq (fun condition other hcondition hother hsame ↦ ?_)
        (builtFrom_readable first hfirst hformed hfirstListed)
        (builtFrom_readable second hsecond hotherFormed hsecondListed) hformed hotherFormed
      exact (Expr.rendersAlike_iff hquote hinside hcondition.listed hother.listed).mpr
        ⟨hcondition.wellFormed, hother.wellFormed, hsame⟩
    · intro hsame
      rw [← read_regrouped _ _ first, ← read_regrouped _ _ second]
      refine hsame.read_eq (fun condition other halike hcondition hother ↦ ?_)
        (by rwa [read_regrouped]) (by rwa [read_regrouped])
      exact ((Expr.rendersAlike_iff hquote hinside hcondition hother).mp halike).2.2
  constructor
  · rw [hsymbols]
    exact and_congr_right fun hformed ↦ and_congr_right fun hotherFormed ↦
      hregrouped hformed hotherFormed
  · intro hleaves hotherLeaves halike
    obtain ⟨hformed, hotherFormed, hsame⟩ := hsymbols.mp halike
    rw [← regrouped_eq_self first hleaves, ← regrouped_eq_self second hotherLeaves]
    exact (hregrouped hformed hotherFormed).mp hsame

end RowSource

/-! ### Goods, prices and offers -/

/-- The condition that a price and an offer are the same. -/
def offerMatches : Expr := .binary .eq (.column ⟨⟨1⟩, "price"⟩) (.column ⟨⟨2⟩, "price"⟩)

/-- A CROSS JOIN on the left side of a RIGHT JOIN: an offer without a price is beside no goods. -/
def crossedThenOuter : RowSource :=
  .join .right
    (.join .cross (.table ⟨⟨0⟩, "goods", none⟩) (.table ⟨⟨1⟩, "prices", none⟩) none)
    (.table ⟨⟨2⟩, "offers", none⟩) (some offerMatches)

/-- A RIGHT JOIN on the right side of a CROSS JOIN: an offer without a price is beside all goods. -/
def crossedWithOuter : RowSource :=
  .join .cross (.table ⟨⟨0⟩, "goods", none⟩)
    (.join .right (.table ⟨⟨1⟩, "prices", none⟩) (.table ⟨⟨2⟩, "offers", none⟩)
      (some offerMatches))
    none

/-- A CROSS JOIN on the right side of a RIGHT JOIN. -/
def outerWithCrossed : RowSource :=
  .join .right (.table ⟨⟨0⟩, "goods", none⟩)
    (.join .cross (.table ⟨⟨1⟩, "prices", none⟩) (.table ⟨⟨2⟩, "offers", none⟩) none)
    (some offerMatches)

/-- Inside of a statement, when goods, prices and offers have been met. -/
def offering : RenderState where
  context := { roster := Roster.empty.visitAll [⟨0⟩, ⟨1⟩, ⟨2⟩], depth := 1 }

theorem statementFree_of_mem_offerMatches : ∀ expr ∈ some offerMatches, expr.StatementFree := by
  rintro expr ⟨⟩
  exact ⟨trivial, trivial⟩

theorem joinsTables_crossedThenOuter : crossedThenOuter.JoinsTables :=
  ⟨⟨trivial, trivial, nofun⟩, trivial, statementFree_of_mem_offerMatches⟩

theorem joinsTables_crossedWithOuter : crossedWithOuter.JoinsTables :=
  ⟨trivial, ⟨trivial, trivial, statementFree_of_mem_offerMatches⟩, nofun⟩

theorem joinsTables_outerWithCrossed : outerWithCrossed.JoinsTables :=
  ⟨trivial, ⟨trivial, trivial, nofun⟩, statementFree_of_mem_offerMatches⟩

/-- The RIGHT JOIN on the right side of the CROSS JOIN is moved out. The two trees are rendered
alike, and the CROSS JOIN on the right side of the RIGHT JOIN is told apart from both. -/
theorem rendersAlike_crossedThenOuter :
    (Node.source crossedThenOuter).RendersAlike .postgres offering (.source crossedWithOuter) ∧
      ¬ (Node.source crossedThenOuter).RendersAlike .postgres offering
        (.source outerWithCrossed) := by
  have hformed {source : RowSource}
      (hrender : ((Node.source source).render .postgres).isOk = true) :
      source.WellFormed .postgres := by
    cases hquery : (Node.source source).render .postgres with
    | error error =>
      rw [hquery] at hrender
      cases hrender
    | ok query => exact (Node.accepted_layout_iff _).mp (Node.accepted_of_render hquery)
  have hfirst : crossedThenOuter.WellFormed .postgres := hformed (by decide +kernel)
  have hsecond : crossedWithOuter.WellFormed .postgres := hformed (by decide +kernel)
  have hmatches : offerMatches.RendersAlike .postgres offering offerMatches :=
    Node.rendersAlike_self (by decide) hfirst.2.2.2
  constructor
  · refine (RowSource.rendersAlike_iff_sameJoins_regrouped (.inl rfl) (by decide)
      joinsTables_crossedThenOuter joinsTables_crossedWithOuter (by decide)).1.mpr
        ⟨hfirst, hsecond, ?_⟩
    exact .join .right (.join .cross (.table _) (.table _) .none) (.table _) (.some hmatches)
  · intro halike
    have hleaves : crossedThenOuter.CrossesLeaves :=
      ⟨⟨trivial, trivial, fun _ ↦ rfl⟩, trivial, nofun⟩
    have hotherLeaves : outerWithCrossed.CrossesLeaves :=
      ⟨trivial, ⟨trivial, trivial, fun _ ↦ rfl⟩, nofun⟩
    have hsame := (RowSource.rendersAlike_iff_sameJoins_regrouped (.inl rfl) (by decide)
      joinsTables_crossedThenOuter joinsTables_outerWithCrossed (by decide)).2 hleaves hotherLeaves
        halike
    cases hsame with
    | join _ hleft _ _ => cases hleft

/-- What is written for both trees. -/
def offered : Query where
  sql := "\"goods\" AS \"a\" CROSS JOIN \"prices\" AS \"b\" RIGHT JOIN \"offers\" AS \"c\" " ++
    "ON (\"b\".\"price\" = \"c\".\"price\")"
  params := []

/-- The query that a completed run has written. -/
def queryOf : EStateM.Result Refusal RenderState Unit → Option Query
  | .ok _ after => some (after.output.toQuery Dialect.postgres.paramStyle)
  | .error _ _ => none

/-- The RIGHT JOIN on the right side of the CROSS JOIN is written as if the CROSS JOIN were on its
left side, although the two trees do not have the same joins. -/
theorem crossedWithOuter_renders_as_crossedThenOuter :
    offering.context.insideStatement = true ∧ crossedThenOuter.JoinsTables ∧
      crossedWithOuter.JoinsTables ∧
      (∀ relation ∈ crossedThenOuter.read (.meetings .postgres) true ++
          crossedWithOuter.read (.meetings .postgres) true,
        relation ∈ offering.context.roster.members) ∧
      (∃ after otherAfter : RenderState,
        ((Node.source crossedThenOuter).renderer .postgres).run offering = .ok () after ∧
          ((Node.source crossedWithOuter).renderer .postgres).run offering = .ok () otherAfter ∧
            after.output.toQuery Dialect.postgres.paramStyle = offered ∧
              otherAfter.output.toQuery Dialect.postgres.paramStyle = offered) ∧
      ∀ alike : Expr → Expr → Prop, ¬ crossedThenOuter.SameJoins alike crossedWithOuter := by
  have hrun {source : RowSource}
      (hquery : queryOf (((Node.source source).renderer .postgres).run offering) = some offered) :
      ∃ after : RenderState, ((Node.source source).renderer .postgres).run offering = .ok () after ∧
        after.output.toQuery Dialect.postgres.paramStyle = offered := by
    cases hrun : ((Node.source source).renderer .postgres).run offering with
    | ok done after =>
      rw [hrun] at hquery
      exact ⟨after, rfl, Option.some.inj hquery⟩
    | error error after =>
      rw [hrun] at hquery
      cases hquery
  obtain ⟨after, hcompletes, hquery⟩ := @hrun crossedThenOuter (by decide +kernel)
  obtain ⟨otherAfter, hotherCompletes, hotherQuery⟩ := @hrun crossedWithOuter (by decide +kernel)
  refine ⟨by decide, joinsTables_crossedThenOuter, joinsTables_crossedWithOuter, by decide,
    ⟨after, otherAfter, hcompletes, hotherCompletes, hquery, hotherQuery⟩, fun alike hsame ↦ ?_⟩
  cases hsame

end BoundSql
