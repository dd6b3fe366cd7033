import BoundSql.Proofs.Percent.Run
import BoundSql.Proofs.QuotedText.Tokens

/-!
# What a driver with format placeholders sees

A driver for which placeholders are written `%s` reads a text sign by sign: a doubled percent sign
is a percent sign, and every other percent sign has to begin a placeholder (`FormatSign.scan`). Read
so, a text rendered with format placeholders is the text that the same switches give with question
marks (`Node.format_reads_as_qmark`): no percent sign is left over, there are as many placeholders
as parameters, and the driver sees the plain text with the same parameters.
-/

set_option autoImplicit false
set_option relaxedAutoImplicit false

namespace BoundSql

/-! ### Reading signs -/

/-- A sign of a text as a driver with format placeholders reads it. -/
inductive FormatSign where
  /-- A character that stands for itself. -/
  | character (c : Char)
  /-- A doubled percent sign. -/
  | percent
  /-- A placeholder. -/
  | placeholder
deriving DecidableEq

namespace FormatSign

/-- The sign in a text with question marks for placeholders. -/
def plain : FormatSign → Char
  | character c => c
  | percent => '%'
  | placeholder => '?'

/-- The signs of a text from left to right, unless a percent sign has neither a second one nor an
`s` behind it. -/
def scan : List Char → Option (List FormatSign)
  | [] => some []
  | [c] => if c = '%' then none else some [character c]
  | first :: second :: rest =>
    if first ≠ '%' then (scan (second :: rest)).map (character first :: ·)
    else if second = '%' then (scan rest).map (percent :: ·)
    else if second = 's' then (scan rest).map (placeholder :: ·)
    else none

/-- A character that is no percent sign stands for itself. -/
theorem scan_cons_of_ne {c : Char} (hc : c ≠ '%') (rest : List Char) :
    scan (c :: rest) = (scan rest).map (character c :: ·) := by
  cases rest <;> simp [scan, hc]

/-- Two percent signs are read as one. -/
theorem scan_percent (rest : List Char) :
    scan ('%' :: '%' :: rest) = (scan rest).map (percent :: ·) := by
  simp [scan]

/-- A percent sign and an s are read as a placeholder. -/
theorem scan_placeholder (rest : List Char) :
    scan ('%' :: 's' :: rest) = (scan rest).map (placeholder :: ·) := by
  simp [scan]

/-- The text reads as `signs`, whatever stands behind it. -/
def Reads (characters : List Char) (signs : List FormatSign) : Prop :=
  ∀ rest, scan (characters ++ rest) = (scan rest).map (signs ++ ·)

/-- A text that reads as signs is scanned to them. -/
theorem Reads.scan_eq {characters : List Char} {signs : List FormatSign}
    (hreads : Reads characters signs) : scan characters = some signs := by
  have hend := hreads []
  rwa [List.append_nil, scan, Option.map_some, List.append_nil] at hend

theorem reads_nil : Reads [] [] := fun rest ↦ by simp

/-- Two texts are read one after the other. -/
theorem Reads.append {first second : List Char} {signs later : List FormatSign}
    (hfirst : Reads first signs) (hsecond : Reads second later) :
    Reads (first ++ second) (signs ++ later) := by
  intro rest
  rw [List.append_assoc, hfirst, hsecond, Option.map_map]
  congr 1
  funext read
  simp

/-- Text without percent signs stands for itself. -/
theorem reads_of_percent_free {characters : List Char} (hfree : '%' ∉ characters) :
    Reads characters (characters.map character) := by
  induction characters with
  | nil => exact reads_nil
  | cons c later ih =>
    intro rest
    rw [List.mem_cons, not_or] at hfree
    rw [List.cons_append, scan_cons_of_ne (Ne.symm hfree.1), ih hfree.2, Option.map_map]
    rfl

/-- A driver reads the first text as the second, with this many placeholders. -/
def Shows (written : String) (placeholders : Nat) (seen : String) : Prop :=
  ∃ signs, Reads written.toList signs ∧ signs.count placeholder = placeholders ∧
    signs.map plain = seen.toList

/-- Two texts show one after the other, and their placeholders add up. -/
theorem Shows.append {written later seen more : String} {placeholders others : Nat}
    (hfirst : Shows written placeholders seen) (hlater : Shows later others more) :
    Shows (written ++ later) (placeholders + others) (seen ++ more) := by
  obtain ⟨signs, hreads, hcount, hplain⟩ := hfirst
  obtain ⟨rest, hrest, hothers, hmore⟩ := hlater
  refine ⟨signs ++ rest, ?_, ?_, ?_⟩
  · rw [String.toList_append]
    exact hreads.append hrest
  · rw [List.count_append, hcount, hothers]
  · rw [List.map_append, hplain, hmore, String.toList_append]

/-- A text without percent signs shows as itself. -/
theorem shows_of_percent_free {written : String} (hfree : '%' ∉ written.toList) :
    Shows written 0 written := by
  refine ⟨written.toList.map character, reads_of_percent_free hfree, ?_, ?_⟩
  · rw [List.count_eq_zero]
    simp
  · simp [plain, Function.comp_def]

/-- The operator `%` is seen between its blanks. -/
theorem shows_percent : Shows " %% " 0 " % " := by
  refine ⟨[character ' ', percent, character ' '], fun rest ↦ ?_, rfl, rfl⟩
  change scan (' ' :: '%' :: '%' :: ' ' :: rest) = _
  rw [scan_cons_of_ne (by decide), scan_percent, scan_cons_of_ne (by decide)]
  simp [Option.map_map, Function.comp_def]

/-- A placeholder shows as a question mark. -/
theorem shows_placeholder : Shows "%s" 1 "?" :=
  ⟨[placeholder], scan_placeholder, rfl, rfl⟩

end FormatSign

/-! ### Reading tokens -/

/-- Plain text has no percent sign. -/
theorem percent_not_mem_of_isPlainText {characters : List Char}
    (hplain : Text.isPlainText characters = true) : '%' ∉ characters := by
  intro hpercent
  rw [Text.isPlainText, Bool.and_eq_true, List.all_eq_true] at hplain
  exact absurd (hplain.1 '%' hpercent) (by decide)

/-- Between quotes other than a percent sign, a name is seen as it is written. -/
theorem shows_enclose {d : Dialect} {supplied : String} (hquote : d.quote ≠ '%')
    (hfree : '%' ∉ supplied.toList) (name : String) :
    FormatSign.Shows (d.enclose supplied) 0 ((d.withQmarks name).enclose supplied) := by
  have hsame : (d.withQmarks name).enclose supplied = d.enclose supplied := rfl
  rw [hsame]
  apply FormatSign.shows_of_percent_free
  simp [Dialect.enclose, hfree, hquote.symm]

variable {d : Dialect} {name : String}

/-- A text that is written with and without doubled percent signs has none. -/
theorem percent_not_mem_of_writes (hformat : d.paramStyle = .format) {characters : String}
    (hwrites : d.Writes characters) (hother : (d.withQmarks name).Writes characters) :
    '%' ∉ characters.toList := by
  rcases hwrites with hplain | hdoubled
  · exact percent_not_mem_of_isPlainText hplain
  rcases hother with hplain | hsingle
  · exact percent_not_mem_of_isPlainText hplain
  rw [hdoubled] at hsingle
  simp only [Dialect.operator, Dialect.withQmarks, hformat, ParamStyle.doublesPercent] at hsingle
  exact absurd hsingle (by decide)

/-- The second part is the first one as a driver sees it. -/
inductive Part.Shows : Part → Part → Prop
  /-- A text without placeholders. -/
  | text {written seen : String} (hshows : FormatSign.Shows written 0 seen) :
    Shows (.text written) (.text seen)
  /-- The same value. -/
  | value (bound : Value) : Shows (.value bound) (.value bound)

/-- A text is seen with single percent signs, and a name or an alias as it is written. -/
theorem Token.Undoubles.shows_part (hformat : d.paramStyle = .format) (hquote : d.quote ≠ '%')
    {aliasOf : Identity → String} (haliases : ∀ relation, '%' ∉ (aliasOf relation).toList)
    {token other : Token} (htokens : Token.Undoubles token other) (hwritten : token.Written d)
    (hother : other.Written (d.withQmarks name)) :
    (token.part d aliasOf).Shows (other.part (d.withQmarks name) aliasOf) := by
  cases htokens with
  | percent => exact .text FormatSign.shows_percent
  | same =>
    cases token with
    | text characters =>
      have hfree := percent_not_mem_of_writes hformat hwritten hother
      exact .text (FormatSign.shows_of_percent_free hfree)
    | value bound => exact .value bound
    | name supplied =>
      have hfree := (Dialect.nameFault?_eq_none_iff.mp hwritten).percent_free hformat
      exact .text (shows_enclose hquote hfree name)
    | mention relation => exact .text (shows_enclose hquote (haliases relation) name)

/-- Tokens show part by part as what is written where placeholders are question marks. -/
theorem shows_parts (hformat : d.paramStyle = .format) (hquote : d.quote ≠ '%')
    {aliasOf : Identity → String} (haliases : ∀ relation, '%' ∉ (aliasOf relation).toList)
    {tokens others : List Token} (htokens : List.Forall₂ Token.Undoubles tokens others)
    (hwritten : ∀ token ∈ tokens, token.Written d)
    (hothers : ∀ token ∈ others, token.Written (d.withQmarks name)) :
    List.Forall₂ Part.Shows (tokens.map (Token.part d aliasOf))
      (others.map (Token.part (d.withQmarks name) aliasOf)) := by
  induction htokens with
  | nil => exact .nil
  | cons htoken hrest ih =>
    obtain ⟨hfirst, hlater⟩ := List.forall_mem_cons.mp hwritten
    obtain ⟨hsecond, hmore⟩ := List.forall_mem_cons.mp hothers
    exact .cons (htoken.shows_part hformat hquote haliases hfirst hsecond) (ih hlater hmore)

/-- The parts of a text are seen with one placeholder for each value. -/
theorem Part.shows_spell {parts others : List Part} (hparts : List.Forall₂ Part.Shows parts others)
    (position : Nat) :
    FormatSign.Shows (spell .format position parts) (values parts).length
      (spell .qmark position others) := by
  induction hparts generalizing position with
  | nil => exact FormatSign.shows_of_percent_free List.not_mem_nil
  | cons hpart hrest ih =>
    cases hpart with
    | text hshows => simpa only [spell, values, Nat.zero_add] using hshows.append (ih position)
    | value bound =>
      have hlater := FormatSign.shows_placeholder.append (ih (position + 1))
      rwa [Nat.add_comm 1] at hlater

/-- Parts bind the values that they show. -/
theorem Part.values_eq_of_shows {parts others : List Part}
    (hparts : List.Forall₂ Part.Shows parts others) : values others = values parts := by
  induction hparts with
  | nil => rfl
  | cons hpart hrest ih => cases hpart <;> simp [values, ih]

/-! ### Rendered texts -/

/-- No alias has a percent sign. -/
theorem percent_not_mem_aliasWord (index : Nat) : '%' ∉ (aliasWord index).toList := by
  intro hpercent
  exact absurd (isLower_of_mem_aliasWord hpercent) (by decide)

namespace Node

variable {node : Node} {query : Query}

theorem render_of_run {after : RenderState} (hrun : (node.layout d).run d {} = .ok () after) :
    node.render d = .ok (after.output.toQuery d.paramStyle) := by
  have hrenderer : (node.renderer d).run {} = .ok () after := hrun
  rw [render, hrenderer]

/-- With question marks for placeholders the same node is rendered with the same aliases. -/
theorem exists_render_withQmarks (hrender : node.render d = .ok query) (name : String) :
    ∃ other, node.render (d.withQmarks name) = .ok other ∧
      node.aliasOf (d.withQmarks name) = node.aliasOf d := by
  obtain ⟨after, hrun, -⟩ := run_of_render hrender
  obtain ⟨ended, hended, hcontext⟩ := (node.undoubles_layout name).exists_run name hrun {} rfl
  refine ⟨_, render_of_run hended, ?_⟩
  rw [← roster_aliasOf_of_run hended, ← roster_aliasOf_of_run hrun, hcontext]

end Node

/-- What a driver with format placeholders sees is the plain text: the same switches with question
marks for placeholders render the node with the same parameters, in the text every percent sign has
an `s` or a second one behind it, there are as many placeholders as parameters, and the signs of the
text are the characters of the plain text. -/
theorem Node.format_reads_as_qmark {d : Dialect} {node : Node} {query : Query}
    (hformat : d.paramStyle = .format) (hquote : d.quote ≠ '%')
    (hrender : node.render d = .ok query) (name : String) :
    ∃ other, node.render (d.withQmarks name) = .ok other ∧ other.params = query.params ∧
      ∃ signs, FormatSign.scan query.sql.toList = some signs ∧
        signs.count .placeholder = query.params.length ∧
        signs.map FormatSign.plain = other.sql.toList := by
  obtain ⟨other, hother, haliases⟩ := exists_render_withQmarks hrender name
  have haccepted := accepted_of_render hrender
  have htokens : List.Forall₂ Token.Undoubles (node.tokens d)
      (node.tokens (d.withQmarks name)) := by
    have hlayouts := (node.undoubles_layout name).tokens name haccepted false
    rwa [node.read_layout (Reading.tokens_fits _) haccepted,
      node.read_layout (Reading.tokens_fits _) (accepted_of_render hother)] at hlayouts
  have hparts : List.Forall₂ Part.Shows (node.parts d) (node.parts (d.withQmarks name)) := by
    rw [parts, parts, haliases]
    exact shows_parts hformat hquote (fun _ ↦ percent_not_mem_aliasWord _) htokens
      (written_of_render hrender) (written_of_render hother)
  obtain ⟨signs, hreads, hcount, hplain⟩ := Part.shows_spell hparts 0
  rw [← hformat, ← sql_of_render hrender] at hreads
  rw [← params_of_render hrender] at hcount
  refine ⟨other, hother, ?_, signs, hreads.scan_eq, hcount, ?_⟩
  · rw [params_of_render hother, params_of_render hrender, Part.values_eq_of_shows hparts]
  · rw [hplain, sql_of_render hother]
    rfl

/-- The goods whose price leaves a remainder. -/
def remainder : Node :=
  let goods : Table := ⟨⟨0⟩, "goods", none⟩
  .statement
    (.select
      (goods.selectAll.filtered
        (.binary .eq (.binary .mod (.column (goods.column "price")) (.literal (.int 3)))
          (.literal (.int 1)))))

theorem format_reads_as_qmark_remainder :
    let query : Query :=
      ⟨"SELECT * FROM \"goods\" AS \"a\" WHERE ((\"a\".\"price\" %% %s) = %s)", [.int 3, .int 1]⟩
    remainder.render .generic = .ok query ∧
      ∃ other, remainder.render (Dialect.generic.withQmarks "plain") = .ok other ∧
        other.params = query.params ∧
        ∃ signs, FormatSign.scan query.sql.toList = some signs ∧
          signs.count .placeholder = 2 ∧ signs.map FormatSign.plain = other.sql.toList := by
  intro query
  have hrender : remainder.render .generic = .ok query := by
    decide +kernel
  exact ⟨hrender, Node.format_reads_as_qmark rfl (by decide) hrender "plain"⟩

end BoundSql
