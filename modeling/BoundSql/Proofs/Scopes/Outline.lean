import BoundSql.Proofs.Reading.Basic
import BoundSql.Proofs.Scopes.Occurrences

/-!
# The outline of a text

`Layout.outline` lists the parts of a text from left to right and says of every alias what it is
written for: a declaration behind a source of rows or a target, or a reference in front of a column.
The parts of a statement stay together as one mark. Without its statements an outline is the text
itself (`Layout.flatMap_tokens_outline`), and every relation in it is one that the layout meets
(`Layout.mem_meetings_of_mark`). Without its text it is the skeleton of the layout, which holds what
the outline says about relations and nothing else.
-/

set_option autoImplicit false
set_option relaxedAutoImplicit false

namespace BoundSql

/-- A part of a text, with what it is written for. -/
inductive Mark where
  /-- A part that declares no alias and refers to none. -/
  | token (written : Token)
  /-- The place at which a WITH list begins to define a relation. Nothing is written there. -/
  | definition (relation : Identity)
  /-- The alias behind a source of rows or a target. -/
  | declaration (relation : Identity)
  /-- The alias in front of a column. -/
  | reference (relation : Identity)
  /-- A statement with the parts of its text. -/
  | statement (inside : List Mark)

namespace Mark

/-- What a mark writes by itself. -/
def tokens : Mark → List Token
  | token written => [written]
  | declaration relation | reference relation => [.mention relation]
  | definition _ | statement _ => []

mutual

/-- The marks of a text from left to right, those inside of statements in place of the
statements. -/
def flat : Mark → List Mark
  | statement inside => flatAll inside
  | token written => [token written]
  | definition relation => [definition relation]
  | declaration relation => [declaration relation]
  | reference relation => [reference relation]

/-- The marks of several texts, one after the other. -/
def flatAll : List Mark → List Mark
  | [] => []
  | first :: rest => first.flat ++ flatAll rest

end

mutual

/-- The mark without text: nothing is left of a token. -/
def bare : Mark → List Mark
  | token _ => []
  | definition relation => [definition relation]
  | declaration relation => [declaration relation]
  | reference relation => [reference relation]
  | statement inside => [statement (bareAll inside)]

/-- The marks without text. -/
def bareAll : List Mark → List Mark
  | [] => []
  | first :: rest => first.bare ++ bareAll rest

end

/-- The relation whose alias the mark declares, if it declares one. -/
def declared? : Mark → Option Identity
  | declaration relation => some relation
  | _ => none

/-- The relations whose aliases a statement declares, those of nested statements left out. -/
def declared (inside : List Mark) : List Identity := inside.filterMap declared?

/-- Two texts in one list are flattened one after the other. -/
@[simp]
theorem flatAll_append (first second : List Mark) :
    flatAll (first ++ second) = flatAll first ++ flatAll second := by
  induction first with
  | nil => rfl
  | cons mark rest ih => simp [flatAll, ih]

/-- The text is taken out of two lists separately. -/
@[simp]
theorem bareAll_append (first second : List Mark) :
    bareAll (first ++ second) = bareAll first ++ bareAll second := by
  induction first with
  | nil => rfl
  | cons mark rest ih => simp [bareAll, ih]

theorem flatAll_map_token (written : List Token) :
    flatAll (written.map token) = written.map token := by
  induction written with
  | nil => rfl
  | cons first rest ih => simp [flatAll, flat, ih]

/-- Nothing is left of text alone. -/
theorem bareAll_map_token (written : List Token) : bareAll (written.map token) = [] := by
  induction written with
  | nil => rfl
  | cons first rest ih => simp [bareAll, bare, ih]

/-- Text alone is written as it is. -/
theorem flatMap_tokens_map_token (written : List Token) :
    (written.map token).flatMap tokens = written := by
  induction written with
  | nil => rfl
  | cons first rest ih => simp [tokens, ih]

/-! ### Marks without text -/

/-- What two lists declare is declared one after the other. -/
theorem declared_append (first second : List Mark) :
    declared (first ++ second) = declared first ++ declared second := List.filterMap_append

/-- Taking the text out takes no declaration away. -/
theorem declared_bareAll (marks : List Mark) : declared (bareAll marks) = declared marks := by
  induction marks with
  | nil => rfl
  | cons first rest ih =>
    rw [bareAll, declared_append, ih]
    cases first <;> rfl

/-- Tells whether the mark is a part of the text and nothing else. -/
def isToken : Mark → Bool
  | token _ => true
  | _ => false

mutual

/-- Taking the text out of a mark keeps what else it holds. -/
theorem flatAll_bare : (mark : Mark) → flatAll mark.bare = mark.flat.filter fun part ↦ !part.isToken
  | token _ => rfl
  | definition _ => rfl
  | declaration _ => rfl
  | reference _ => rfl
  | statement inside => by
    simp only [bare, flatAll, flat, List.append_nil]
    exact flatAll_bareAll inside

/-- Taking the text out of statements is taking the text out of what they hold. -/
theorem flatAll_bareAll : (marks : List Mark) →
    flatAll (bareAll marks) = (flatAll marks).filter fun part ↦ !part.isToken
  | [] => rfl
  | first :: rest => by
    rw [bareAll, flatAll_append, flatAll_bare first, flatAll_bareAll rest, flatAll,
      List.filter_append]

end

/-- What an outline says about relations is said by its skeleton. -/
theorem mem_flatAll_bareAll {mark : Mark} {marks : List Mark} (hmark : mark.isToken = false) :
    mark ∈ flatAll (bareAll marks) ↔ mark ∈ flatAll marks := by
  rw [flatAll_bareAll, List.mem_filter, hmark]
  simp

end Mark

namespace Layout

/-- The parts of the text of a layout, with or without a statement around. An alias without a text
in front of it is the name of a common table expression. -/
def outline (inside : Bool) : Layout → List Mark
  | nothing => []
  | text characters => (Token.ofText characters).map .token
  | placeholder bound => [.token (.value bound)]
  | identifier name => [.token (.name name)]
  | visit relation => [.definition relation]
  | relationAlias lead relation =>
    if lead = "" then [.token (.mention relation)]
    else (Token.ofText lead).map .token ++ [.declaration relation]
  | qualifier relation =>
    if inside then .reference relation :: (Token.ofText ".").map .token else []
  | fail _ => []
  | seq first second => first.outline inside ++ second.outline inside
  | scope body => [.statement (body.outline true)]
  | frame prologue body front link =>
    prologue.outline inside ++ front.outline inside ++ link.outline inside ++ body.outline inside

/-- The outline of a layout without text. -/
def skeleton (inside : Bool) (layout : Layout) : List Mark := Mark.bareAll (layout.outline inside)

/-- An outline writes the tokens of its layout. -/
theorem flatMap_tokens_outline (d : Dialect) (inside : Bool) (layout : Layout) :
    (Mark.flatAll (layout.outline inside)).flatMap Mark.tokens =
      layout.read (.tokens d) inside := by
  induction layout generalizing inside with
  | text characters =>
    rw [outline, Mark.flatAll_map_token, Mark.flatMap_tokens_map_token]
    rfl
  | relationAlias lead relation =>
    by_cases hlead : lead = ""
    · simp [outline, hlead, Mark.flatAll, Mark.flat, Mark.tokens, read, Reading.tokens,
        Token.ofText]
    · simp only [outline, if_neg hlead, Mark.flatAll_append, Mark.flatAll_map_token,
        List.flatMap_append, Mark.flatMap_tokens_map_token]
      rfl
  | qualifier relation => cases inside <;> rfl
  | seq first second hfirst hsecond =>
    simp only [outline, Mark.flatAll_append, List.flatMap_append, hfirst, hsecond, read]
  | scope body hbody =>
    simp only [outline, Mark.flatAll, Mark.flat, List.append_nil, hbody, read]
  | frame prologue body front link hprologue hbody hfront hlink =>
    simp only [outline, Mark.flatAll_append, List.flatMap_append, hprologue, hbody, hfront, hlink,
      read_frame_of_writing (r := .tokens d) rfl]
  | _ => rfl

end Layout

/-! ### Relations in an outline -/

/-- The relation of which a mark speaks, if there is one. -/
def Mark.relation? : Mark → Option Identity
  | token (.mention relation) | definition relation | declaration relation | reference relation =>
    some relation
  | _ => none

theorem Mark.not_mem_map_token_ofText {mark : Mark} {relation : Identity}
    (hrelation : mark.relation? = some relation) (characters : String) :
    mark ∉ (Token.ofText characters).map token := by
  intro hmark
  unfold Token.ofText at hmark
  split at hmark
  · cases hmark
  · obtain rfl := List.mem_singleton.mp hmark
    cases hrelation

/-- A layout meets every relation in its outline. -/
theorem Layout.mem_meetings_of_mark {d : Dialect} {inside : Bool} {layout : Layout} {mark : Mark}
    {relation : Identity} (hmark : mark ∈ Mark.flatAll (layout.outline inside))
    (hrelation : mark.relation? = some relation) :
    relation ∈ layout.read (.meetings d) inside := by
  induction layout generalizing inside with
  | nothing => cases hmark
  | fail error => cases hmark
  | text characters =>
    rw [outline, Mark.flatAll_map_token] at hmark
    exact absurd hmark (Mark.not_mem_map_token_ofText hrelation characters)
  | placeholder bound =>
    obtain rfl := List.mem_singleton.mp hmark
    cases hrelation
  | identifier name =>
    obtain rfl := List.mem_singleton.mp hmark
    cases hrelation
  | visit met =>
    obtain rfl := List.mem_singleton.mp hmark
    obtain rfl := Option.some.inj hrelation
    exact List.mem_singleton_self _
  | relationAlias lead met =>
    by_cases hlead : lead = ""
    · simp only [outline, if_pos hlead] at hmark
      obtain rfl := List.mem_singleton.mp hmark
      obtain rfl := Option.some.inj hrelation
      exact List.mem_singleton_self _
    · simp only [outline, if_neg hlead, Mark.flatAll_append, Mark.flatAll_map_token,
        List.mem_append] at hmark
      rcases hmark with hmark | hmark
      · exact absurd hmark (Mark.not_mem_map_token_ofText hrelation lead)
      · obtain rfl := List.mem_singleton.mp hmark
        obtain rfl := Option.some.inj hrelation
        exact List.mem_singleton_self _
  | qualifier met =>
    cases inside with
    | false => cases hmark
    | true =>
      simp only [outline, if_true, Mark.flatAll, Mark.flatAll_map_token, Mark.flat,
        List.singleton_append, List.mem_cons] at hmark
      rcases hmark with rfl | hmark
      · obtain rfl := Option.some.inj hrelation
        exact List.mem_singleton_self _
      · exact absurd hmark (Mark.not_mem_map_token_ofText hrelation ".")
  | seq first second hfirst hsecond =>
    simp only [outline, Mark.flatAll_append, List.mem_append] at hmark
    exact List.mem_append.mpr (hmark.imp hfirst hsecond)
  | scope body hbody =>
    simp only [outline, Mark.flatAll, Mark.flat, List.append_nil] at hmark
    exact hbody hmark
  | frame prologue body front link hprologue hbody hfront hlink =>
    rw [read_frame_of_meeting (r := .meetings d) rfl]
    simp only [outline, Mark.flatAll_append, List.mem_append] at hmark ⊢
    rcases hmark with ((hmark | hmark) | hmark) | hmark
    · exact .inl (.inl (.inl (hprologue hmark)))
    · exact .inl (.inr (hfront hmark))
    · exact .inr (hlink hmark)
    · exact .inl (.inl (.inr (hbody hmark)))

end BoundSql
