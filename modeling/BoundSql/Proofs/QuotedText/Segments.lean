/-!
# Texts with quotes

A text in which some characters stand between quotes is split at the quotes. `Text.outsideQuotes`
are the pieces outside of all quotes, `Text.betweenQuotes` are the pieces between an opening quote
and the next quote, and `Text.blankQuoted` takes out everything between quotes. A text that was put
together from segments without quotes of their own is taken apart into the same segments
(`Segment.outsideQuotes_textOf`, `Segment.betweenQuotes_textOf`, `Segment.blankQuoted_textOf`).
-/

set_option autoImplicit false
set_option relaxedAutoImplicit false

namespace BoundSql

/-! ### Taking a text apart -/

namespace Text

section EveryOther

variable {α : Type}

/-- The first entry of a list, the third, the fifth, and so on. -/
def everyOther : List α → List α
  | [] => []
  | [last] => [last]
  | first :: _ :: rest => first :: everyOther rest

theorem everyOther_cons (first : α) (rest : List α) :
    everyOther (first :: rest) = first :: everyOther rest.tail := by
  cases rest <;> rfl

theorem everyOther_modifyHead (f : α → α) (entries : List α) :
    everyOther (entries.modifyHead f) = (everyOther entries).modifyHead f := by
  cases entries with
  | nil => rfl
  | cons first rest => simp [everyOther_cons]

end EveryOther

/-- The pieces of a text outside of quotes. -/
def outsideQuotes (quote : Char) (characters : List Char) : List (List Char) :=
  everyOther (characters.splitOn quote)

/-- The pieces of a text between quotes. -/
def betweenQuotes (quote : Char) (characters : List Char) : List (List Char) :=
  everyOther (characters.splitOn quote).tail

/-- The text with everything between quotes taken out. The quotes stay; `inside` tells whether one
has been opened. -/
def blankQuoted (quote : Char) : Bool → List Char → List Char
  | _, [] => []
  | inside, c :: rest =>
    if c = quote then c :: blankQuoted quote (!inside) rest
    else if inside then blankQuoted quote inside rest
    else c :: blankQuoted quote inside rest

variable {quote : Char} {characters : List Char}

theorem splitOn_append_of_not_mem (hquote : quote ∉ characters) (later : List Char) :
    (characters ++ later).splitOn quote =
      (later.splitOn quote).modifyHead (characters ++ ·) := by
  induction characters with
  | nil =>
    rw [List.nil_append]
    cases later.splitOn quote <;> rfl
  | cons c rest ih =>
    rw [List.mem_cons, not_or] at hquote
    have hc : (c == quote) = false := beq_eq_false_iff_ne.mpr fun h ↦ hquote.1 h.symm
    rw [List.cons_append, List.splitOn_cons_eq_if_modifyHead, ih hquote.2, hc]
    cases later.splitOn quote <;> rfl

theorem splitOn_enclosed (hquote : quote ∉ characters) (later : List Char) :
    (quote :: characters ++ quote :: later).splitOn quote =
      [] :: characters :: later.splitOn quote := by
  have hopened : ([] ++ quote :: (characters ++ quote :: later)).splitOn quote =
      [] :: (characters ++ quote :: later).splitOn quote :=
    List.splitOn_append_cons_self_of_not_mem List.not_mem_nil _
  rw [List.splitOn_append_cons_self_of_not_mem hquote] at hopened
  exact hopened

theorem blankQuoted_append_of_not_mem (hquote : quote ∉ characters) (later : List Char) :
    blankQuoted quote false (characters ++ later) =
      characters ++ blankQuoted quote false later := by
  induction characters with
  | nil => rfl
  | cons c rest ih =>
    rw [List.mem_cons, not_or] at hquote
    simp [blankQuoted, Ne.symm hquote.1, ih hquote.2]

theorem blankQuoted_enclosed (hquote : quote ∉ characters) (later : List Char) :
    blankQuoted quote false (quote :: characters ++ quote :: later) =
      quote :: quote :: blankQuoted quote false later := by
  have hclosed : blankQuoted quote true (characters ++ quote :: later) =
      quote :: blankQuoted quote false later := by
    induction characters with
    | nil => simp [blankQuoted]
    | cons c rest ih =>
      rw [List.mem_cons, not_or] at hquote
      simp [blankQuoted, Ne.symm hquote.1, ih hquote.2]
  simp only [List.cons_append, blankQuoted, if_pos, Bool.not_false, hclosed]

end Text

/-! ### Putting a text together -/

/-- A run of characters, without or with quotes around it. -/
inductive Segment where
  /-- Characters outside of quotes. -/
  | bare (characters : List Char)
  /-- Characters between quotes. -/
  | quoted (characters : List Char)
deriving DecidableEq

namespace Segment

/-- The characters of a segment without its quotes. -/
def characters : Segment → List Char
  | bare characters => characters
  | quoted characters => characters

/-- A segment as it is written. -/
def spell (quote : Char) : Segment → List Char
  | bare characters => characters
  | quoted characters => quote :: characters ++ [quote]

/-- Segments as they are written, one after the other. -/
def textOf (quote : Char) (segments : List Segment) : List Char := segments.flatMap (spell quote)

/-- The characters between the quotes of a segment, if it has any. -/
def between : Segment → List (List Char)
  | bare _ => []
  | quoted characters => [characters]

/-- A segment without what stands between its quotes. -/
def blank : Segment → Segment
  | bare characters => bare characters
  | quoted _ => quoted []

/-- The pieces outside of quotes: neighbouring bare segments are one piece. -/
def outside : List Segment → List (List Char)
  | [] => [[]]
  | bare characters :: rest => (outside rest).modifyHead (characters ++ ·)
  | quoted _ :: rest => [] :: outside rest

variable {quote : Char} {segments : List Segment}

theorem textOf_bare_cons (characters : List Char) (rest : List Segment) :
    textOf quote (bare characters :: rest) = characters ++ textOf quote rest := rfl

theorem textOf_quoted_cons (characters : List Char) (rest : List Segment) :
    textOf quote (quoted characters :: rest) =
      quote :: characters ++ quote :: textOf quote rest := by
  simp [textOf, spell]

section Free

variable (hfree : ∀ segment ∈ segments, quote ∉ segment.characters)
include hfree

/-- Quotes come in pairs, one for each quoted segment. -/
theorem count_textOf :
    (textOf quote segments).count quote = 2 * (segments.flatMap between).length := by
  induction segments with
  | nil => rfl
  | cons segment rest ih =>
    obtain ⟨hsegment, hrest⟩ := List.forall_mem_cons.mp hfree
    cases segment with
    | bare characters =>
      have hcount : characters.count quote = 0 := List.count_eq_zero_of_not_mem hsegment
      rw [textOf_bare_cons, List.count_append, hcount, ih hrest]
      simp [between]
    | quoted characters =>
      have hcount : characters.count quote = 0 := List.count_eq_zero_of_not_mem hsegment
      rw [textOf_quoted_cons, List.cons_append, List.count_cons_self, List.count_append, hcount,
        List.count_cons_self, ih hrest]
      simp only [List.flatMap_cons, between, List.singleton_append, List.length_cons]
      omega

theorem outsideQuotes_textOf :
    Text.outsideQuotes quote (textOf quote segments) = outside segments := by
  induction segments with
  | nil => rfl
  | cons segment rest ih =>
    obtain ⟨hsegment, hrest⟩ := List.forall_mem_cons.mp hfree
    have hlater := ih hrest
    unfold Text.outsideQuotes at hlater ⊢
    cases segment with
    | bare characters =>
      change quote ∉ characters at hsegment
      rw [textOf_bare_cons, Text.splitOn_append_of_not_mem hsegment, Text.everyOther_modifyHead,
        hlater, outside]
    | quoted characters =>
      change quote ∉ characters at hsegment
      rw [textOf_quoted_cons, Text.splitOn_enclosed hsegment, outside, ← hlater]
      rfl

theorem betweenQuotes_textOf :
    Text.betweenQuotes quote (textOf quote segments) = segments.flatMap between := by
  induction segments with
  | nil => rfl
  | cons segment rest ih =>
    obtain ⟨hsegment, hrest⟩ := List.forall_mem_cons.mp hfree
    have hlater := ih hrest
    unfold Text.betweenQuotes at hlater ⊢
    cases segment with
    | bare characters =>
      change quote ∉ characters at hsegment
      rw [textOf_bare_cons, Text.splitOn_append_of_not_mem hsegment, List.tail_modifyHead, hlater]
      rfl
    | quoted characters =>
      change quote ∉ characters at hsegment
      rw [textOf_quoted_cons, Text.splitOn_enclosed hsegment, List.tail_cons,
        Text.everyOther_cons, hlater]
      rfl

theorem blankQuoted_textOf :
    Text.blankQuoted quote false (textOf quote segments) =
      textOf quote (segments.map blank) := by
  induction segments with
  | nil => rfl
  | cons segment rest ih =>
    obtain ⟨hsegment, hrest⟩ := List.forall_mem_cons.mp hfree
    cases segment with
    | bare characters =>
      change quote ∉ characters at hsegment
      rw [textOf_bare_cons, Text.blankQuoted_append_of_not_mem hsegment, ih hrest]
      rfl
    | quoted characters =>
      change quote ∉ characters at hsegment
      rw [textOf_quoted_cons, Text.blankQuoted_enclosed hsegment, ih hrest]
      rfl

end Free

end Segment

end BoundSql
