import BoundSql.Proofs.QuotedText.Tokens

/-!
# Parameters follow the text

The parameters of a query are the values of its tree in the order of the text, whatever the dialect
(`Node.params_follow_text`). A driver that looks for placeholders outside of quotes finds as many of
them as there are parameters, and the `k`-th one from the left is the placeholder of the `k`-th
parameter: no other text looks like a placeholder, and no digit stands behind a numbered one.
-/

set_option autoImplicit false
set_option relaxedAutoImplicit false

namespace BoundSql

/-! ### Finding placeholders -/

namespace ParamStyle

/-- The placeholders `%s` of a text. A doubled percent sign is a percent sign. -/
def findFormat : List Char → List String
  | [] => []
  | [_] => []
  | first :: second :: rest =>
    if first = '%' ∧ second = 's' then "%s" :: findFormat rest
    else if first = '%' ∧ second = '%' then findFormat rest
    else findFormat (second :: rest)

/-- The placeholders `?` of a text. -/
def findQmark : List Char → List String
  | [] => []
  | c :: rest => if c = '?' then "?" :: findQmark rest else findQmark rest

/-- The placeholders of a text that are a dollar sign with all digits behind it. -/
def findNumeric : List Char → List String
  | [] => []
  | c :: rest =>
    let digits := rest.takeWhile Char.isDigit
    if c = '$' ∧ digits ≠ [] then String.ofList (c :: digits) :: findNumeric rest
    else findNumeric rest

/-- The placeholders of a text outside of quotes, from left to right. -/
def find : ParamStyle → List Char → List String
  | format => findFormat
  | qmark => findQmark
  | numeric => findNumeric

/-- Tells whether the text may stand behind a placeholder: it does not go on with a digit. -/
def mayFollow (characters : List Char) : Bool := !characters.head?.any Char.isDigit

/-- A plain character begins no placeholder of any style. -/
theorem isPlain_ne {c : Char} (hc : Text.isPlain c = true) : c ≠ '%' ∧ c ≠ '?' ∧ c ≠ '$' := by
  refine ⟨?_, ?_, ?_⟩ <;> rintro rfl <;> revert hc <;> decide

theorem findFormat_cons_of_ne {c : Char} (hc : c ≠ '%') (rest : List Char) :
    findFormat (c :: rest) = findFormat rest := by
  cases rest <;> simp [findFormat, hc]

/-- No placeholder is found at a plain character. -/
theorem find_cons_of_isPlain (style : ParamStyle) {c : Char} (hc : Text.isPlain c = true)
    (rest : List Char) : style.find (c :: rest) = style.find rest := by
  obtain ⟨hpercent, hquestion, hdollar⟩ := isPlain_ne hc
  cases style with
  | format => exact findFormat_cons_of_ne hpercent rest
  | qmark => simp [find, findQmark, hquestion]
  | numeric => simp [find, findNumeric, hdollar]

/-- No placeholder is found in plain text. -/
theorem find_append_of_all_isPlain (style : ParamStyle) {characters : List Char}
    (hplain : characters.all Text.isPlain = true) (rest : List Char) :
    style.find (characters ++ rest) = style.find rest := by
  induction characters with
  | nil => rfl
  | cons c later ih =>
    rw [List.all_cons, Bool.and_eq_true] at hplain
    rw [List.cons_append, find_cons_of_isPlain style hplain.1, ih hplain.2]

/-- A placeholder is found where it is written, unless a digit stands behind it. -/
theorem find_marker_append (style : ParamStyle) (position : Nat) {rest : List Char}
    (hrest : mayFollow rest = true) :
    style.find ((style.marker position).toList ++ rest) =
      style.marker position :: style.find rest := by
  cases style with
  | format =>
    rw [marker]
    change findFormat ('%' :: 's' :: rest) = "%s" :: findFormat rest
    simp [findFormat]
  | qmark =>
    rw [marker]
    change findQmark ('?' :: rest) = "?" :: findQmark rest
    simp [findQmark]
  | numeric =>
    have hdigits : ∀ c ∈ (toString position).toList, c.isDigit = true :=
      fun c hc ↦ Text.isDigit_of_mem_toString hc
    have hne : (toString position).toList ≠ [] := by
      rw [Nat.toString_eq_repr, Nat.toList_repr]
      exact Nat.toDigits_ne_nil
    -- The digits behind the dollar sign end where the placeholder ends.
    have hstop : rest.takeWhile Char.isDigit = [] := by
      cases rest with
      | nil => rfl
      | cons c later => simp_all [mayFollow]
    have htaken : ((toString position).toList ++ rest).takeWhile Char.isDigit =
        (toString position).toList := by
      rw [List.takeWhile_append_of_pos hdigits, hstop, List.append_nil]
    have hplain : (toString position).toList.all Text.isPlain = true :=
      Text.all_isPlain_toString position
    have hskipped := find_append_of_all_isPlain .numeric hplain rest
    simp only [find] at hskipped ⊢
    rw [marker, String.toList_append, List.append_assoc]
    change findNumeric ('$' :: ((toString position).toList ++ rest)) = _
    rw [findNumeric]
    have hmarker :
        String.ofList ('$' :: (toString position).toList) = "$" ++ toString position := by
      apply String.toList_inj.mp
      simp
    simp only [htaken, hne, ne_eq, not_false_eq_true, and_self, if_true, hskipped, hmarker]

/-- No placeholder is found in a text that a dialect writes outside of quotes. -/
theorem find_append_of_writes {d : Dialect} {characters : String}
    (hwrites : d.Writes characters) (rest : List Char) :
    d.paramStyle.find (characters.toList ++ rest) = d.paramStyle.find rest := by
  rcases hwrites with hplain | rfl
  · rw [Text.isPlainText, Bool.and_eq_true] at hplain
    exact find_append_of_all_isPlain d.paramStyle hplain.1 rest
  · unfold Dialect.operator
    cases d.paramStyle with
    | format =>
      change findFormat (' ' :: '%' :: '%' :: ' ' :: rest) = findFormat rest
      rw [findFormat_cons_of_ne (by decide), findFormat]
      simp [findFormat_cons_of_ne]
    | qmark => rfl
    | numeric => rfl

/-- What may follow a placeholder may follow it with more behind. -/
theorem mayFollow_append {characters later : List Char}
    (hcharacters : mayFollow characters = true) (hlater : mayFollow later = true) :
    mayFollow (characters ++ later) = true := by
  cases characters with
  | nil => exact hlater
  | cons c rest => exact hcharacters

/-- A placeholder may follow another one. -/
theorem mayFollow_marker (style : ParamStyle) (position : Nat) :
    mayFollow (style.marker position).toList = true := by
  cases style with
  | format => rw [marker]; decide
  | qmark => rw [marker]; decide
  | numeric => rw [marker, String.toList_append]; rfl

/-- Text that the dialect writes may follow a placeholder. -/
theorem mayFollow_of_writes {d : Dialect} {characters : String} (hwrites : d.Writes characters) :
    mayFollow characters.toList = true := by
  rcases hwrites with hplain | rfl
  · rw [Text.isPlainText, Bool.and_eq_true] at hplain
    exact hplain.2
  · unfold Dialect.operator
    split <;> decide

end ParamStyle

/-! ### Finding the placeholders of a query -/

/-- The first piece outside of quotes may stand behind a placeholder. -/
def Segment.MayFollow (segments : List Segment) : Prop :=
  ∃ first later, outside segments = first :: later ∧ ParamStyle.mayFollow first = true

theorem Segment.mayFollow_bare_cons {characters : List Char} {rest : List Segment}
    (hcharacters : ParamStyle.mayFollow characters = true) (hrest : MayFollow rest) :
    MayFollow (bare characters :: rest) := by
  obtain ⟨first, later, hlater, hfirst⟩ := hrest
  exact ⟨characters ++ first, later, by rw [outside, hlater]; rfl,
    ParamStyle.mayFollow_append hcharacters hfirst⟩

/-- What is found in a bare segment is found in front of what is found behind it. -/
theorem Segment.flatMap_find_bare_cons {style : ParamStyle} {characters : List Char}
    {rest : List Segment} (found : List String) (hrest : MayFollow rest)
    (hfind : ∀ later, ParamStyle.mayFollow later = true →
      style.find (characters ++ later) = found ++ style.find later) :
    (outside (bare characters :: rest)).flatMap style.find =
      found ++ (outside rest).flatMap style.find := by
  obtain ⟨first, later, hlater, hfirst⟩ := hrest
  rw [outside, hlater, List.modifyHead_cons, List.flatMap_cons, List.flatMap_cons,
    hfind first hfirst, List.append_assoc]

namespace Token

variable {d : Dialect} (aliasOf : Identity → String)

/-- All that is written outside of quotes may follow a placeholder. -/
theorem mayFollow_segments (position : Nat) {tokens : List Token}
    (hwritten : ∀ token ∈ tokens, token.Written d) :
    Segment.MayFollow (segments d aliasOf position tokens) := by
  induction tokens generalizing position with
  | nil => exact ⟨[], [], rfl, rfl⟩
  | cons token rest ih =>
    obtain ⟨htoken, hrest⟩ := List.forall_mem_cons.mp hwritten
    cases token with
    | text characters =>
      exact Segment.mayFollow_bare_cons (ParamStyle.mayFollow_of_writes htoken) (ih position hrest)
    | value bound =>
      exact Segment.mayFollow_bare_cons (ParamStyle.mayFollow_marker _ _) (ih (position + 1) hrest)
    | name supplied => exact ⟨[], _, rfl, rfl⟩
    | mention relation => exact ⟨[], _, rfl, rfl⟩

/-- Outside of quotes stand the placeholders of the values, numbered from left to right, and no
others. -/
theorem flatMap_find_segments (position : Nat) {tokens : List Token}
    (hwritten : ∀ token ∈ tokens, token.Written d) :
    (Segment.outside (segments d aliasOf position tokens)).flatMap d.paramStyle.find =
      (List.range' (position + 1) (tokens.flatMap literals).length).map d.paramStyle.marker := by
  induction tokens generalizing position with
  | nil => cases hstyle : d.paramStyle <;> rfl
  | cons token rest ih =>
    obtain ⟨htoken, hrest⟩ := List.forall_mem_cons.mp hwritten
    cases token with
    | text characters =>
      rw [segments, Segment.flatMap_find_bare_cons [] (mayFollow_segments _ _ hrest)
        fun later _ ↦ ParamStyle.find_append_of_writes htoken later, ih position hrest]
      rfl
    | value bound =>
      rw [segments, Segment.flatMap_find_bare_cons [d.paramStyle.marker (position + 1)]
        (mayFollow_segments _ _ hrest) fun later hlater ↦
          d.paramStyle.find_marker_append (position + 1) hlater, ih (position + 1) hrest]
      rfl
    | name supplied =>
      have hlater := ih position hrest
      rw [segments, Segment.outside, List.flatMap_cons, hlater]
      cases d.paramStyle <;> rfl
    | mention relation =>
      have hlater := ih position hrest
      rw [segments, Segment.outside, List.flatMap_cons, hlater]
      cases d.paramStyle <;> rfl

end Token

/-- The placeholders found in the text of a query outside of quotes, from left to right. -/
def Query.placeholders (d : Dialect) (query : Query) : List String :=
  (Text.outsideQuotes d.quote query.sql.toList).flatMap d.paramStyle.find

namespace Node

variable {d : Dialect} {node : Node} {query : Query}

/-- Parameters follow the text: they are the values of the tree from left to right under every
dialect that renders it, and the placeholders found in the text are those of the parameters, in
the same order. -/
theorem params_follow_text (hrender : node.render d = .ok query) :
    query.params = node.read .literals ∧
      (∀ (other : Dialect) (otherQuery : Query), node.render other = .ok otherQuery →
        otherQuery.params = query.params) ∧
      (d.quote = '"' ∨ d.quote = '\x60' →
        query.placeholders d =
          (List.range query.params.length).map fun k ↦ d.paramStyle.marker (k + 1)) := by
  have hparams := params_eq_literals_of_render hrender
  refine ⟨hparams, fun other otherQuery hother ↦ ?_, fun hquote ↦ ?_⟩
  · rw [hparams, params_eq_literals_of_render hother]
  · have hfree := quote_not_mem_segments_of_render hquote hrender
    have hfound := Token.flatMap_find_segments (node.aliasOf d) 0 (written_of_render hrender)
    rw [Query.placeholders, toList_sql_of_render hrender, Segment.outsideQuotes_textOf hfree,
      segments, hfound, hparams, read_literals (accepted_of_render hrender),
      List.range'_eq_map_range, List.map_map]
    apply List.map_congr_left
    intro k _
    simp [Nat.add_comm]

end Node

/-- The UPDATE carries `$1` to `$4` in the order of its four values. -/
theorem params_follow_text_repricing :
    (repricing "goods" "price").render .postgres = .ok (repriced "goods" "price") ∧
      (repriced "goods" "price").params = (repricing "goods" "price").read .literals ∧
      (repriced "goods" "price").placeholders .postgres = ["$1", "$2", "$3", "$4"] := by
  obtain ⟨hparams, -, hplaceholders⟩ := Node.params_follow_text render_repricing
  refine ⟨render_repricing, hparams, ?_⟩
  rw [hplaceholders (.inl rfl)]
  decide

end BoundSql
