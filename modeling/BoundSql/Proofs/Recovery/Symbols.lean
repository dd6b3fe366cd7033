import BoundSql.Proofs.ParameterOrder

/-!
# The symbols of a text

A text with its values is a run of symbols: plain characters, values and quoted names. A reader who
knows the dialect gets the symbols back from the text and the values, since no plain character is a
quote or looks like a placeholder (`Symbol.eq_of_spell_eq`). The symbols of a tree are a reading of
it (`Reading.symbols`), in which an operator is the same under every dialect.
-/

set_option autoImplicit false
set_option relaxedAutoImplicit false

namespace BoundSql

/-- A plain character, a value or a quoted name. -/
inductive Symbol where
  /-- A character outside of quotes. -/
  | character (c : Char)
  /-- A value, for which a placeholder stands in the text. -/
  | value (bound : Value)
  /-- A name between quotes. -/
  | quoted (name : String)
deriving DecidableEq

namespace Symbol

/-- The symbols of a text without quotes and placeholders. -/
def chars (characters : String) : List Symbol := characters.toList.map character

/-- The value of a symbol. -/
def values : Symbol → List Value
  | value bound => [bound]
  | _ => []

/-- What a dialect writes for a symbol with `position` values before it. -/
def form (d : Dialect) (position : Nat) : Symbol → List Char
  | character c => if c = '%' ∧ d.paramStyle.doublesPercent = true then ['%', '%'] else [c]
  | value _ => (d.paramStyle.marker (position + 1)).toList
  | quoted name => d.quote :: name.toList ++ [d.quote]

/-- What a dialect writes for a run of symbols with `position` values before it. -/
def spell (d : Dialect) : Nat → List Symbol → List Char
  | _, [] => []
  | position, symbol :: rest =>
    symbol.form d position ++ spell d (position + symbol.values.length) rest

/-- The character is one that is written outside of quotes, and the name holds no quote. -/
def Written (d : Dialect) : Symbol → Prop
  | character c => Text.isPlain c = true ∨ c = '%'
  | value _ => True
  | quoted name => d.quote ∉ name.toList

theorem chars_append (first second : String) :
    chars (first ++ second) = chars first ++ chars second := by
  simp [chars]

/-! ### Symbols are told apart by what is written for them -/

section Recovery

variable {d : Dialect} {position : Nat} {rest otherRest : List Char}

/-- Every symbol is written with at least one character. -/
theorem form_ne_nil (symbol : Symbol) : symbol.form d position ≠ [] := by
  cases symbol with
  | character c =>
    simp only [form]
    split <;> simp
  | value bound =>
    simp only [form]
    cases d.paramStyle <;> simp [ParamStyle.marker]
  | quoted name => simp [form]

/-- A character is never written like a placeholder. -/
theorem form_character_append_ne_value {c : Char} (hwritten : (character c).Written d)
    (bound : Value) :
    (character c).form d position ++ rest ≠ (value bound).form d position ++ otherRest := by
  have hdistinct : c ≠ '?' ∧ c ≠ '$' := by
    rcases hwritten with hplain | rfl
    · exact (ParamStyle.isPlain_ne hplain).2
    · decide
  intro hsame
  cases hstyle : d.paramStyle with
  | format =>
    by_cases hc : c = '%' <;>
      simp [form, hstyle, ParamStyle.marker, ParamStyle.doublesPercent, hc] at hsame
  | qmark =>
    simp [form, hstyle, ParamStyle.marker, ParamStyle.doublesPercent] at hsame
    exact hdistinct.1 hsame.1
  | numeric =>
    simp [form, hstyle, ParamStyle.marker, ParamStyle.doublesPercent] at hsame
    exact hdistinct.2 hsame.1

/-- Characters that are written alike are the same. -/
theorem eq_of_form_character_append_eq {c other : Char}
    (hsame : (character c).form d position ++ rest =
      (character other).form d position ++ otherRest) : c = other ∧ rest = otherRest := by
  have hcharacter : c = other := by
    simp only [form] at hsame
    split at hsame <;> split at hsame <;> grind
  subst hcharacter
  exact ⟨rfl, List.append_cancel_left hsame⟩

variable (hquote : d.quote = '"' ∨ d.quote = '\x60')
include hquote

/-- A character is never written like a name between quotes. -/
theorem form_character_append_ne_quoted {c : Char} (hwritten : (character c).Written d)
    (name : String) :
    (character c).form d position ++ rest ≠ (quoted name).form d position ++ otherRest := by
  have hdistinct : c ≠ d.quote := by
    rintro rfl
    rcases hwritten with hplain | hpercent
    · rw [Dialect.isPlain_quote hquote] at hplain
      cases hplain
    · rcases hquote with h | h <;> rw [h] at hpercent <;> revert hpercent <;> decide
  intro hsame
  by_cases hc : c = '%' ∧ d.paramStyle.doublesPercent = true
  · simp only [form, if_pos hc, List.cons_append, List.cons.injEq] at hsame
    exact hdistinct (hc.1.trans hsame.1)
  · simp only [form, if_neg hc, List.cons_append, List.cons.injEq] at hsame
    exact hdistinct hsame.1

/-- A placeholder is never written like a name between quotes. -/
theorem form_value_append_ne_quoted (bound : Value) (name : String) :
    (value bound).form d position ++ rest ≠ (quoted name).form d position ++ otherRest := by
  intro hsame
  have hfree := Dialect.quote_not_mem_marker hquote d.paramStyle (position + 1)
  cases hmarker : (d.paramStyle.marker (position + 1)).toList with
  | nil => exact absurd hmarker (@form_ne_nil d position (value bound))
  | cons c later =>
    simp only [form, hmarker, List.cons_append, List.cons.injEq] at hsame
    rw [hmarker, ← hsame.1] at hfree
    exact hfree List.mem_cons_self

omit hquote in
/-- A quoted name ends at the first quote behind it. -/
theorem eq_of_form_quoted_append_eq {name other : String} (hname : d.quote ∉ name.toList)
    (hother : d.quote ∉ other.toList)
    (hsame : (quoted name).form d position ++ rest = (quoted other).form d position ++ otherRest) :
    name = other ∧ rest = otherRest := by
  simp only [form, List.cons_append, List.append_assoc, List.cons.injEq, true_and,
    List.nil_append] at hsame
  have hsplit := congrArg (List.splitOn d.quote) hsame
  rw [List.splitOn_append_cons_self_of_not_mem hname,
    List.splitOn_append_cons_self_of_not_mem hother] at hsplit
  have hnames : name = other := String.toList_inj.mp (List.cons.inj hsplit).1
  subst hnames
  exact ⟨rfl, (List.cons.inj (List.append_cancel_left hsame)).2⟩

/-- The symbols can be got back from the text and the values. -/
theorem eq_of_spell_eq {first second : List Symbol} (hfirst : ∀ symbol ∈ first, symbol.Written d)
    (hsecond : ∀ symbol ∈ second, symbol.Written d)
    (htext : spell d position first = spell d position second)
    (hvalues : first.flatMap values = second.flatMap values) : first = second := by
  induction first generalizing second position with
  | nil =>
    cases second with
    | nil => rfl
    | cons symbol rest =>
      exact absurd (List.append_eq_nil_iff.mp htext.symm).1 (form_ne_nil symbol)
  | cons symbol rest ih =>
    cases second with
    | nil => exact absurd (List.append_eq_nil_iff.mp htext).1 (form_ne_nil symbol)
    | cons other otherRest =>
      rw [List.forall_mem_cons] at hfirst hsecond
      simp only [spell] at htext
      cases symbol with
      | character c =>
        cases other with
        | character b =>
          obtain ⟨rfl, hlater⟩ := eq_of_form_character_append_eq htext
          rw [ih hfirst.2 hsecond.2 hlater hvalues]
        | value bound => exact absurd htext (form_character_append_ne_value hfirst.1 bound)
        | quoted name => exact absurd htext (form_character_append_ne_quoted hquote hfirst.1 name)
      | value bound =>
        cases other with
        | character b => exact absurd htext.symm (form_character_append_ne_value hsecond.1 bound)
        | value other =>
          obtain ⟨rfl, hlater⟩ := List.cons.inj hvalues
          rw [ih hfirst.2 hsecond.2 (List.append_cancel_left htext) hlater]
        | quoted name => exact absurd htext (form_value_append_ne_quoted hquote bound name)
      | quoted name =>
        cases other with
        | character b =>
          exact absurd htext.symm (form_character_append_ne_quoted hquote hsecond.1 name)
        | value bound => exact absurd htext.symm (form_value_append_ne_quoted hquote bound name)
        | quoted other =>
          obtain ⟨rfl, hlater⟩ := eq_of_form_quoted_append_eq hfirst.1 hsecond.1 htext
          rw [ih hfirst.2 hsecond.2 hlater hvalues]

end Recovery

end Symbol

/-! ### The symbols of a tree -/

/-- The text with the spelling of the operator `%` as it is where percent signs are not doubled. -/
def Text.singlePercent (characters : String) : String :=
  if characters = " %% " then " % " else characters

/-- The symbols of a token, once every relation has an alias. -/
def Token.symbols (aliasOf : Identity → String) : Token → List Symbol
  | text characters => Symbol.chars (Text.singlePercent characters)
  | value bound => [.value bound]
  | name supplied => [.quoted supplied]
  | mention relation => [.quoted (aliasOf relation)]

/-- The symbols in the order of the text. -/
def Reading.symbols (d : Dialect) (aliasOf : Identity → String) : Reading Symbol :=
  (tokens d).flatMap (Token.symbols aliasOf)

section Spelling

variable {d : Dialect} {aliasOf : Identity → String}

/-- A text without percent signs has none to undouble. -/
theorem Text.singlePercent_of_isPlainText {characters : String}
    (hplain : isPlainText characters.toList = true) : singlePercent characters = characters := by
  refine if_neg ?_
  rintro rfl
  revert hplain
  decide

/-- Operators are the same under every dialect. -/
theorem Dialect.singlePercent_operator (op : BinaryOp) :
    Text.singlePercent (" " ++ d.operator op ++ " ") = " " ++ op.spelling ++ " " := by
  cases op with
  | mod => cases hstyle : d.paramStyle.doublesPercent <;> simp [operator, hstyle] <;> rfl
  | _ => rfl

/-- The reading of symbols fits the dialect that they are symbols of. -/
theorem Reading.symbols_fits : (symbols d aliasOf).Fits d := (tokens_fits d).flatMap _

namespace Symbol

/-- Where no percent sign is doubled, characters are written as they stand. -/
theorem spell_characters_append {characters : List Char}
    (hsingle : '%' ∈ characters → d.paramStyle.doublesPercent = false) (position : Nat)
    (rest : List Symbol) :
    spell d position (characters.map character ++ rest) =
      characters ++ spell d position rest := by
  induction characters with
  | nil => rfl
  | cons c later ih =>
    have hform : (character c).form d position = [c] := by
      refine if_neg ?_
      rintro ⟨rfl, hdoubled⟩
      rw [hsingle List.mem_cons_self] at hdoubled
      cases hdoubled
    have hlater := ih fun hmem ↦ hsingle (List.mem_cons_of_mem c hmem)
    simp [spell, hform, values, hlater]

/-- A text that may be written is spelled with its percent signs doubled again. -/
theorem spell_singlePercent_append {characters : String} (hwrites : d.Writes characters)
    (position : Nat) (rest : List Symbol) :
    spell d position (chars (Text.singlePercent characters) ++ rest) =
      characters.toList ++ spell d position rest := by
  rcases hwrites with hplain | rfl
  · have hfree : '%' ∉ characters.toList := by
      intro hmem
      rw [Text.isPlainText, Bool.and_eq_true] at hplain
      exact (ParamStyle.isPlain_ne (List.all_eq_true.mp hplain.1 '%' hmem)).1 rfl
    rw [Text.singlePercent_of_isPlainText hplain]
    exact spell_characters_append (fun hmem ↦ absurd hmem hfree) position rest
  · rw [Dialect.singlePercent_operator]
    cases hstyle : d.paramStyle.doublesPercent <;>
      simp [Dialect.operator, BinaryOp.spelling, chars, spell, form, hstyle, values]

end Symbol

/-- What is written for tokens is what is written for their symbols. -/
theorem Token.toList_spell_symbols (position : Nat) {tokens : List Token}
    (hwritten : ∀ token ∈ tokens, token.Written d) :
    (Part.spell d.paramStyle position (tokens.map (part d aliasOf))).toList =
      Symbol.spell d position (tokens.flatMap (symbols aliasOf)) := by
  induction tokens generalizing position with
  | nil => rfl
  | cons token rest ih =>
    obtain ⟨htoken, hrest⟩ := List.forall_mem_cons.mp hwritten
    rw [List.flatMap_cons, List.map_cons]
    cases token with
    | text characters =>
      rw [symbols, Symbol.spell_singlePercent_append htoken, ← ih position hrest]
      simp [part, Part.spell]
    | value bound =>
      have hlater := ih (position + 1) hrest
      simp [part, Part.spell, symbols, Symbol.spell, Symbol.form, Symbol.values, hlater]
    | name supplied =>
      have hlater := ih position hrest
      simp [part, Part.spell, symbols, Symbol.spell, Symbol.form, Symbol.values, Dialect.enclose,
        hlater]
    | mention relation =>
      have hlater := ih position hrest
      simp [part, Part.spell, symbols, Symbol.spell, Symbol.form, Symbol.values, Dialect.enclose,
        hlater]

/-- The values among the symbols of tokens are those of the tokens, in order. -/
theorem Token.values_symbols (tokens : List Token) :
    Part.values (tokens.map (part d aliasOf)) =
      (tokens.flatMap (symbols aliasOf)).flatMap Symbol.values := by
  have hchars (characters : String) : (Symbol.chars characters).flatMap Symbol.values = [] := by
    simp [Symbol.chars, Symbol.values, List.flatMap_map]
  induction tokens with
  | nil => rfl
  | cons token rest ih =>
    cases token <;> simp [part, Part.values, symbols, Symbol.values, hchars, ih]

/-- The symbols of a token that may be written may be written. -/
theorem Token.written_symbols (haliases : ∀ relation, d.quote ∉ (aliasOf relation).toList)
    {token : Token} (htoken : token.Written d) :
    ∀ symbol ∈ token.symbols aliasOf, symbol.Written d := by
  cases token with
  | text characters =>
    rw [symbols, Symbol.chars, List.forall_mem_map]
    intro c hc
    rcases htoken with hplain | rfl
    · rw [Text.singlePercent_of_isPlainText hplain] at hc
      rw [Text.isPlainText, Bool.and_eq_true] at hplain
      exact .inl (List.all_eq_true.mp hplain.1 c hc)
    · rw [Dialect.singlePercent_operator] at hc
      have hspelled : (" " ++ BinaryOp.mod.spelling ++ " ").toList.all
          (fun c ↦ Text.isPlain c || decide (c = '%')) = true := by decide
      have hplain := List.all_eq_true.mp hspelled c hc
      rwa [Bool.or_eq_true, decide_eq_true_eq] at hplain
  | value bound => exact List.forall_mem_singleton.mpr trivial
  | name supplied =>
    exact List.forall_mem_singleton.mpr (Dialect.quote_not_mem_of_nameFault?_eq_none htoken)
  | mention relation => exact List.forall_mem_singleton.mpr (haliases relation)

namespace Reading

open BoundSql.Symbol

theorem symbols_text_eq (characters : String) :
    (symbols d aliasOf).text characters = chars (Text.singlePercent characters) := by
  change (Token.ofText characters).flatMap (Token.symbols aliasOf) = _
  unfold Token.ofText
  split
  · rename_i hempty
    rw [hempty]
    rfl
  · simp [Token.symbols]

/-- A text other than the doubled operator is read character by character. -/
theorem symbols_text {characters : String} (hother : characters ≠ " %% ") :
    (symbols d aliasOf).text characters = chars characters := by
  rw [symbols_text_eq, Text.singlePercent, if_neg hother]

/-- An operator is read as its spelling with a single percent sign, whatever the dialect doubles. -/
theorem symbols_operator (op : BinaryOp) :
    (symbols d aliasOf).operator op = chars (" " ++ op.spelling ++ " ") := by
  rw [symbols_fits.operator_eq, symbols_text_eq, Dialect.singlePercent_operator]

theorem symbols_name (supplied : String) :
    (symbols d aliasOf).name supplied = [.quoted supplied] := rfl

theorem symbols_mention (relation : Identity) :
    (symbols d aliasOf).mention relation = [.quoted (aliasOf relation)] := rfl

/-- What stands in parentheses is read between them, whatever stands behind it. -/
theorem symbols_parenthesized (body : List Symbol) (rest : List Symbol) :
    (symbols d aliasOf).parenthesized body ++ rest =
      chars "(" ++ (body ++ (chars ")" ++ rest)) := by
  simp [parenthesized, symbols_text]

end Reading

end Spelling

/-! ### The symbols of a completed run -/

/-- What the parts pushed onto a piece add to its query. -/
theorem Piece.toQuery_pushParts (style : ParamStyle) (piece : Piece) (later : List Part) :
    (piece.pushParts later).toQuery style =
      ⟨(piece.toQuery style).sql ++ Part.spell style piece.values.length later,
        piece.values ++ Part.values later⟩ := by
  unfold toQuery
  rw [spell_parts_pushParts, Part.spell_append, values_pushParts, Nat.zero_add]
  rfl

namespace Layout

variable {d : Dialect} {layout other : Layout} {before after otherAfter : RenderState}

/-- The symbols of the tokens of a layout are the symbols of the layout. -/
theorem flatMap_symbols_read_tokens (layout : Layout) (aliasOf : Identity → String)
    (inside : Bool) :
    (layout.read (.tokens d) inside).flatMap (Token.symbols aliasOf) =
      layout.read (.symbols d aliasOf) inside :=
  (layout.read_flatMap (.tokens d) (Token.symbols aliasOf) inside).symm

/-- The symbols that a completed run has written. -/
def writtenSymbols (d : Dialect) (layout : Layout) (before after : RenderState) : List Symbol :=
  layout.read (.symbols d after.context.roster.aliasOf) before.context.insideStatement

/-- What a completed run adds to the query is spelled from the symbols that it has written. -/
theorem toQuery_of_run (hplain : layout.Plain d) (hrun : layout.run d before = .ok () after) :
    (after.output.toQuery d.paramStyle).sql.toList =
        (before.output.toQuery d.paramStyle).sql.toList ++
          Symbol.spell d before.output.values.length (layout.writtenSymbols d before after) ∧
      (after.output.toQuery d.paramStyle).params =
        before.output.values ++ (layout.writtenSymbols d before after).flatMap Symbol.values := by
  have hcompletes := completes_of_run hrun
  have hwritten := hplain.written hcompletes.accepted before.context.insideStatement
  rw [hcompletes.output_at_end, Piece.toQuery_pushParts, writtenSymbols,
    ← flatMap_symbols_read_tokens, String.toList_append, Token.toList_spell_symbols _ hwritten,
    Token.values_symbols]
  exact ⟨rfl, rfl⟩

/-- A layout of plain texts writes only symbols that may be written. -/
theorem written_of_mem_writtenSymbols (hquote : d.quote = '"' ∨ d.quote = '\x60')
    (hplain : layout.Plain d) (hrun : layout.run d before = .ok () after) :
    ∀ symbol ∈ layout.writtenSymbols d before after, symbol.Written d := by
  intro symbol hsymbol
  rw [writtenSymbols, ← flatMap_symbols_read_tokens, List.mem_flatMap] at hsymbol
  obtain ⟨token, htoken, hmem⟩ := hsymbol
  have haliases (relation : Identity) :
      d.quote ∉ (after.context.roster.aliasOf relation).toList :=
    Dialect.quote_not_mem_aliasWord hquote _
  exact Token.written_symbols haliases
    (hplain.written (completes_of_run hrun).accepted _ token htoken) symbol hmem

/-- From one state, layouts are written alike exactly if they have the same symbols. -/
theorem toQuery_eq_iff_writtenSymbols_eq (hquote : d.quote = '"' ∨ d.quote = '\x60')
    (hplain : layout.Plain d) (hotherPlain : other.Plain d)
    (hrun : layout.run d before = .ok () after)
    (hotherRun : other.run d before = .ok () otherAfter) :
    after.output.toQuery d.paramStyle = otherAfter.output.toQuery d.paramStyle ↔
      layout.writtenSymbols d before after = other.writtenSymbols d before otherAfter := by
  obtain ⟨hsql, hparams⟩ := toQuery_of_run hplain hrun
  obtain ⟨hotherSql, hotherParams⟩ := toQuery_of_run hotherPlain hotherRun
  constructor
  · intro hsame
    rw [hsame, hotherSql] at hsql
    rw [hsame, hotherParams] at hparams
    exact Symbol.eq_of_spell_eq hquote (written_of_mem_writtenSymbols hquote hplain hrun)
      (written_of_mem_writtenSymbols hquote hotherPlain hotherRun)
      (List.append_cancel_left hsql).symm (List.append_cancel_left hparams).symm
  · intro hsame
    rw [hsame, ← hotherSql] at hsql
    rw [hsame, ← hotherParams] at hparams
    have heta (query : Query) : query = ⟨query.sql, query.params⟩ := rfl
    rw [heta (after.output.toQuery _), hparams, String.toList_inj.mp hsql]

end Layout

end BoundSql
