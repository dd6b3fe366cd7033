import BoundSql.Proofs.Recovery.Reader

/-!
# What the reader reads

A reader reads an expression from its symbols if it takes exactly these, with all collations behind
them, wherever something stands that ends an expression (`Reader.Reads`). For each form of
expression there is a law: if the parts are read from their symbols, then the whole is read from the
symbols of the parts with the texts of the form between them.
-/

set_option autoImplicit false
set_option relaxedAutoImplicit false

namespace BoundSql

namespace Reader

open BoundSql.Symbol

/-! ### What ends an expression -/

/-- The symbols do not continue a bare word or a name in front of them. -/
def Ends : List Symbol → Prop
  | [] => True
  | .character c :: _ => c = ' ' ∨ c = ',' ∨ c = ')'
  | _ => False

/-- A text that ends the expression in front of it and is no collation. -/
def Delimits (characters : String) : Prop :=
  (characters.toList.head? ∈ [some ' ', some ',', some ')']) ∧ Diverge " COLLATE " characters

instance (characters : String) : Decidable (Delimits characters) :=
  inferInstanceAs (Decidable (_ ∧ _))

theorem Delimits.ends {characters : String} (hdelimits : Delimits characters)
    (rest : List Symbol) : Ends (chars characters ++ rest) := by
  obtain ⟨hhead, -⟩ := hdelimits
  unfold chars
  cases hcharacters : characters.toList with
  | nil => simp [hcharacters] at hhead
  | cons c later => simpa [hcharacters, Ends] using hhead

/-- Where no collation stands, an expression is left as it is. -/
theorem collated_eq_self {expr : Expr} {input : List Symbol}
    (hnone : expect " COLLATE " input = none) : collated expr input = (expr, input) := by
  rw [collated]
  split
  · rename_i hsome
    rw [hnone] at hsome
    cases hsome
  · rfl

theorem Delimits.collated_eq {characters : String} (hdelimits : Delimits characters) (expr : Expr)
    (rest : List Symbol) :
    collated expr (chars characters ++ rest) = (expr, chars characters ++ rest) :=
  collated_eq_self (expect_chars_append_eq_none _ _ rest hdelimits.2)

/-- A collation is taken over, and the next one is looked for. -/
theorem collated_chars_append (expr : Expr) (name : String) (rest : List Symbol) :
    collated expr (chars " COLLATE " ++ .quoted name :: rest) =
      collated (.collate expr name) rest := by
  rw [collated]
  split
  · rename_i hsome
    rw [expect_chars_append] at hsome
    obtain ⟨rfl, rfl⟩ := List.cons.inj (Option.some.inj hsome) |>.imp Symbol.quoted.inj id
    rfl
  · rename_i hnone
    exact absurd (expect_chars_append " COLLATE " _) (hnone name rest)

/-! ### What the readers read -/

/-- The reader reads an expression from its symbols, with all collations behind them. -/
def Reads (read : List Symbol → Option (Expr × List Symbol)) (symbols : List Symbol)
    (expr : Expr) : Prop :=
  ∀ rest, Ends rest → read (symbols ++ rest) = some (collated expr rest)

section Readers

variable {read : List Symbol → Option (Expr × List Symbol)}

/-- An expression is read up to a text that ends it. -/
theorem Reads.before {symbols : List Symbol} {expr : Expr} (hreads : Reads read symbols expr)
    (characters : String) (rest : List Symbol) (hdelimits : Delimits characters) :
    read (symbols ++ (chars characters ++ rest)) = some (expr, chars characters ++ rest) := by
  rw [hreads _ (hdelimits.ends rest), hdelimits.collated_eq]

section Lists

attribute [local simp] others operands branches

variable (texts : Expr → List Symbol) {values : Expr → Expr} {separator : String} {bound : Nat}

/-- The operands behind the first one, with a separator in front of each. -/
def separatedTail (separator : String) (items : List Expr) : List Symbol :=
  items.flatMap fun item ↦ chars separator ++ texts item

/-- Behind an operand of a list stands the separator or the closing parenthesis. -/
theorem Reads.before_tail {symbols : List Symbol} {expr : Expr} (hreads : Reads read symbols expr)
    (hseparator : Delimits separator) (items : List Expr) (rest : List Symbol) :
    read (symbols ++ (separatedTail texts separator items ++ (chars ")" ++ rest))) =
      some (expr, separatedTail texts separator items ++ (chars ")" ++ rest)) := by
  cases items with
  | nil => exact hreads.before ")" rest (by decide)
  | cons item later =>
    have hbefore := hreads.before separator
      (texts item ++ (separatedTail texts separator later ++ (chars ")" ++ rest))) hseparator
    simpa [separatedTail] using hbefore

variable (separator)

/-- A text that diverges from the separator and from the closing parenthesis is not found behind an
operand of a list. -/
theorem expect_separatedTail (expected : String) (items : List Expr) (rest : List Symbol)
    (hclose : Diverge expected ")")
    (hseparator : Diverge expected separator) :
    expect expected (separatedTail texts separator items ++ (chars ")" ++ rest)) = none := by
  cases items with
  | nil => exact expect_chars_append_eq_none expected ")" rest hclose
  | cons item later =>
    have hnone := expect_chars_append_eq_none expected separator
      (texts item ++ (separatedTail texts separator later ++ (chars ")" ++ rest))) hseparator
    simpa [separatedTail] using hnone

variable {texts}

/-- The operands behind separators are read one by one, up to the parenthesis that closes the
list. -/
theorem others_separatedTail {items : List Expr}
    (hitems : ∀ item ∈ items, Reads read (texts item) (values item))
    (hbound : items.length < bound) (rest : List Symbol)
    (hseparator : Delimits separator)
    (hdiverge : Diverge ")" separator) :
    others read separator bound (separatedTail texts separator items ++ (chars ")" ++ rest)) =
      some (items.map values, rest) := by
  induction items generalizing bound with
  | nil =>
    obtain ⟨bound, rfl⟩ := Nat.exists_eq_add_one_of_ne_zero (Nat.ne_zero_of_lt hbound)
    simp [separatedTail]
  | cons item later ih =>
    obtain ⟨bound, rfl⟩ := Nat.exists_eq_add_one_of_ne_zero (Nat.ne_zero_of_lt hbound)
    obtain ⟨hitem, hlater⟩ := List.forall_mem_cons.mp hitems
    have hnext := hitem.before_tail texts hseparator later rest
    have hrest := ih hlater (Nat.lt_of_succ_lt_succ hbound)
    have hsplit : separatedTail texts separator (item :: later) ++ (chars ")" ++ rest) =
        chars separator ++
          (texts item ++ (separatedTail texts separator later ++ (chars ")" ++ rest))) := by
      simp [separatedTail]
    have hclose := expect_chars_append_eq_none ")" separator
      (texts item ++ (separatedTail texts separator later ++ (chars ")" ++ rest))) hdiverge
    simp [hsplit, hclose, hnext, hrest]

/-- A list is read as its first operand and the ones behind separators. -/
theorem operands_separatedTail {first : Expr} {later : List Expr}
    (hitems : ∀ item ∈ first :: later, Reads read (texts item) (values item))
    (hbound : later.length < bound) (rest : List Symbol)
    (hseparator : Delimits separator)
    (hdiverge : Diverge ")" separator) :
    operands read separator bound
        (texts first ++ (separatedTail texts separator later ++ (chars ")" ++ rest))) =
      some ((first :: later).map values, rest) := by
  obtain ⟨hfirst, hlater⟩ := List.forall_mem_cons.mp hitems
  have hnext := hfirst.before_tail texts hseparator later rest
  have hrest := others_separatedTail separator hlater hbound rest hseparator hdiverge
  simp [hnext, hrest]

/-- The symbols behind the word CASE. -/
def branchTail (texts : Expr → List Symbol) (otherwise : Option Expr) :
    List (Expr × Expr) → List Symbol
  | [] =>
    match otherwise with
    | none => chars " END"
    | some expr => chars " ELSE " ++ (texts expr ++ chars " END")
  | (condition, result) :: later =>
    chars " WHEN " ++ (texts condition ++ (chars " THEN " ++ (texts result ++
      branchTail texts otherwise later)))

variable (texts) in
/-- Behind the result of a branch stands the next branch or the end of the CASE. -/
theorem Reads.before_branchTail {symbols : List Symbol} {expr : Expr}
    (hreads : Reads read symbols expr) (otherwise : Option Expr) (listed : List (Expr × Expr))
    (rest : List Symbol) :
    read (symbols ++ (branchTail texts otherwise listed ++ rest)) =
      some (expr, branchTail texts otherwise listed ++ rest) := by
  cases listed with
  | nil =>
    cases otherwise with
    | none => exact hreads.before " END" rest (by decide)
    | some last =>
      have hbefore := hreads.before " ELSE " (texts last ++ (chars " END" ++ rest)) (by decide)
      simpa [branchTail] using hbefore
  | cons branch later =>
    have hbefore := hreads.before " WHEN "
      (texts branch.1 ++ (chars " THEN " ++ (texts branch.2 ++
        (branchTail texts otherwise later ++ rest)))) (by decide)
    simpa [branchTail] using hbefore

/-- The branches of a CASE are read one by one, up to END, with what stands behind ELSE. -/
theorem branches_branchTail {listed : List (Expr × Expr)} {otherwise : Option Expr}
    (hlisted : ∀ branch ∈ listed, Reads read (texts branch.1) (values branch.1) ∧
      Reads read (texts branch.2) (values branch.2))
    (hotherwise : ∀ expr ∈ otherwise, Reads read (texts expr) (values expr))
    (hbound : listed.length < bound) (rest : List Symbol) :
    branches read bound (branchTail texts otherwise listed ++ rest) =
      some ((listed.map fun branch ↦ (values branch.1, values branch.2),
        otherwise.map values), rest) := by
  induction listed generalizing bound with
  | nil =>
    obtain ⟨bound, rfl⟩ := Nat.exists_eq_add_one_of_ne_zero (Nat.ne_zero_of_lt hbound)
    cases otherwise with
    | none =>
      have hwhen := expect_chars_append_eq_none " WHEN " " END" rest (by decide)
      have helse := expect_chars_append_eq_none " ELSE " " END" rest (by decide)
      simp [branchTail, hwhen, helse]
    | some last =>
      have hwhen := expect_chars_append_eq_none " WHEN " " ELSE "
        (texts last ++ (chars " END" ++ rest)) (by decide)
      have hlast := (hotherwise last rfl).before " END" rest (by decide)
      simp [branchTail, hwhen, hlast]
  | cons branch later ih =>
    obtain ⟨bound, rfl⟩ := Nat.exists_eq_add_one_of_ne_zero (Nat.ne_zero_of_lt hbound)
    obtain ⟨⟨hcondition, hresult⟩, hlater⟩ := List.forall_mem_cons.mp hlisted
    have hthen := hcondition.before " THEN "
      (texts branch.2 ++ (branchTail texts otherwise later ++ rest)) (by decide)
    have hnext := hresult.before_branchTail texts otherwise later rest
    have hrest := ih hlater (Nat.lt_of_succ_lt_succ hbound)
    simp [branchTail, hthen, hnext, hrest]

end Lists

section Groups

attribute [local simp] group joined leading

variable {symbols second third : List Symbol} {expr right high : Expr} (bound : Nat)

/-- No joint is the beginning of another. -/
theorem Joint.pairwise_diverge :
    all.Pairwise fun first second ↦ Diverge first.spelling second.spelling := by
  decide +kernel

/-- The joint that a text begins with is found. -/
theorem Joint.read_spelling {joint : Joint} (hjoint : joint ∈ all) (rest : List Symbol) :
    Joint.read (chars joint.spelling ++ rest) = some (joint, rest) := by
  obtain ⟨earlier, later, hall⟩ := List.append_of_mem hjoint
  have hpairs := pairwise_diverge
  rw [hall, List.pairwise_append] at hpairs
  refine List.findSome?_eq_some_iff.mpr
    ⟨earlier, joint, later, hall, by simp, fun other hother ↦ ?_⟩
  have hnone := expect_chars_append_eq_none _ _ rest
    (hpairs.2.2 other hother joint List.mem_cons_self)
  simp [hnone]

/-- The text of every joint ends the operand in front of it. -/
theorem Joint.delimits_spelling {joint : Joint} (hjoint : joint ∈ all) :
    Delimits joint.spelling := by
  revert joint
  decide +kernel

/-- Behind its first operand a group is read as its joint tells. -/
theorem group_joint (hreads : Reads read symbols expr) {joint : Joint} (hjoint : joint ∈ Joint.all)
    (rest : List Symbol) :
    group read bound (symbols ++ (chars joint.spelling ++ rest)) =
      joined read bound expr rest joint := by
  have hfirst := hreads.before joint.spelling rest (Joint.delimits_spelling hjoint)
  have hjoint := Joint.read_spelling hjoint rest
  simp [hfirst, hjoint]

/-- An operator in front of the only operand of a group is read with this operand. -/
theorem leading_eq (op : UnaryOp) (hreads : Reads read symbols expr) (rest : List Symbol) :
    leading read op (chars (op.spelling ++ " ") ++ (symbols ++ (chars ")" ++ rest))) =
      some (.unary op expr, rest) := by
  have hoperand := hreads.before ")" rest (by decide)
  simp [hoperand]

variable {bound}

/-- A test behind the only operand of a group closes it. -/
theorem joined_test (op : UnaryOp) (expr : Expr) (rest : List Symbol) :
    joined read bound expr (chars ")" ++ rest) (.test op) = some (.unary op expr, rest) := by
  simp

/-- Behind an operator the second operand is read, and the group is closed. -/
theorem joined_operator (op : BinaryOp) (expr : Expr) (hright : Reads read second right)
    (rest : List Symbol) :
    joined read bound expr (second ++ (chars ")" ++ rest)) (.operator op) =
      some (.binary op expr right, rest) := by
  have hnext := hright.before ")" rest (by decide)
  simp [hnext]

/-- Behind BETWEEN two bounds are read with AND between them. -/
theorem joined_range (negated : Bool) (expr : Expr) (hlow : Reads read second right)
    (hhigh : Reads read third high) (rest : List Symbol) :
    joined read bound expr (second ++ (chars " AND " ++ (third ++ (chars ")" ++ rest))))
      (.range negated) = some (.between expr negated right high, rest) := by
  have hand := hlow.before " AND " (third ++ (chars ")" ++ rest)) (by decide)
  have hclose := hhigh.before ")" rest (by decide)
  simp [hand, hclose]

end Groups

end Readers

/-! ### Words -/

/-- What ends an expression continues neither a word nor a name. -/
theorem Ends.not_continued {rest : List Symbol} (hends : Ends rest) :
    splitWord rest = ([], rest) ∧ expect "(" rest = none ∧ expect "." rest = none := by
  cases rest with
  | nil => exact ⟨rfl, rfl, rfl⟩
  | cons symbol later =>
    cases symbol with
    | character c => rcases hends with rfl | rfl | rfl <;> exact ⟨rfl, rfl, rfl⟩
    | value bound => exact hends.elim
    | quoted name => exact hends.elim

section Words

variable {read : List Symbol → Option (Expr × List Symbol)} {bound : Nat}

/-- A word is read as a whole if no further wordlike character stands behind it. -/
theorem primary_word {word : List Char} (hne : word ≠ []) (hword : word.all isWordlike = true)
    {rest : List Symbol} (hrest : splitWord rest = ([], rest)) :
    primary read bound (word.map character ++ rest) = worded read bound word rest := by
  have hsplit := splitWord_append hword hrest
  cases word with
  | nil => exact absurd rfl hne
  | cons c later =>
    rw [List.all_cons, Bool.and_eq_true] at hword
    have hstar : c ≠ '*' := by
      rintro rfl
      exact absurd hword.1 (by decide)
    have hopen : c ≠ '(' := by
      rintro rfl
      exact absurd hword.1 (by decide)
    rw [List.map_cons, List.cons_append] at hsplit ⊢
    simp only [primary, if_neg hstar, if_neg hopen, hsplit]

end Words

/-- No expression begins with an operator in front of one, or with the end of a list. -/
theorem operand_eq_none (bound : Nat) (rest : List Symbol) :
    operand bound (chars "NOT " ++ rest) = none ∧ operand bound (chars "- " ++ rest) = none ∧
      operand bound (chars "DISTINCT " ++ rest) = none ∧
        operand bound (chars ")" ++ rest) = none := by
  cases bound with
  | zero => exact ⟨rfl, rfl, rfl, rfl⟩
  | succ bound => exact ⟨rfl, rfl, rfl, rfl⟩

/-! ### Groups and calls -/

section Forms

attribute [local simp] group joined call worded

variable {bound : Nat} {symbols second third : List Symbol} {expr right high : Expr}

/-- What is read without collations is read together with all collations behind it. -/
theorem reads_of_primary
    (hprimary : ∀ rest, Ends rest →
      primary (operand bound) bound (symbols ++ rest) = some (expr, rest)) :
    Reads (operand (bound + 1)) symbols expr := by
  intro rest hends
  simp [operand, hprimary rest hends]

theorem primary_parenthesized (read : List Symbol → Option (Expr × List Symbol))
    (input : List Symbol) : primary read bound (chars "(" ++ input) = group read bound input := rfl

/-- A group with NOT in front of its operand is read. -/
theorem group_not (hreads : Reads (operand bound) symbols expr) (rest : List Symbol) :
    group (operand bound) bound (chars "NOT " ++ (symbols ++ (chars ")" ++ rest))) =
      some (.unary .not expr, rest) := by
  have hfound := leading_eq .not hreads rest
  change leading _ _ (chars "NOT " ++ _) = _ at hfound
  have hnone := (operand_eq_none bound (symbols ++ (chars ")" ++ rest))).1
  simp [hnone, hfound]

/-- A group with a minus sign in front of its operand is read. -/
theorem group_neg (hreads : Reads (operand bound) symbols expr) (rest : List Symbol) :
    group (operand bound) bound (chars "- " ++ (symbols ++ (chars ")" ++ rest))) =
      some (.unary .neg expr, rest) := by
  have hfound := leading_eq .neg hreads rest
  change leading _ _ (chars "- " ++ _) = _ at hfound
  have hother : leading (operand bound) .not (chars "- " ++ (symbols ++ (chars ")" ++ rest))) =
      none := rfl
  have hnone := (operand_eq_none bound (symbols ++ (chars ")" ++ rest))).2.1
  simp [hnone, hother, hfound]

/-- A group that tests its operand is read. -/
theorem group_test (op : UnaryOp) (hop : op.isPostfix = true)
    (hreads : Reads (operand bound) symbols expr) (rest : List Symbol) :
    group (operand bound) bound (symbols ++ (chars (" " ++ op.spelling) ++ (chars ")" ++ rest))) =
      some (.unary op expr, rest) := by
  have hjoint : Joint.test op ∈ Joint.all := by
    cases op <;> first | decide | cases hop
  exact (group_joint bound hreads hjoint _).trans (joined_test op expr rest)

/-- A group of two operands with an operator between them is read. -/
theorem group_operator (op : BinaryOp) (hreads : Reads (operand bound) symbols expr)
    (hright : Reads (operand bound) second right) (rest : List Symbol) :
    group (operand bound) bound
        (symbols ++ (chars (Joint.operator op).spelling ++ (second ++ (chars ")" ++ rest)))) =
      some (.binary op expr right, rest) := by
  have hjoint : Joint.operator op ∈ Joint.all := by
    cases op <;> decide
  exact (group_joint bound hreads hjoint _).trans (joined_operator op expr hright rest)

/-- A group that compares its operand with two bounds is read. -/
theorem group_range (negated : Bool) (hreads : Reads (operand bound) symbols expr)
    (hlow : Reads (operand bound) second right) (hhigh : Reads (operand bound) third high)
    (rest : List Symbol) :
    group (operand bound) bound
        (symbols ++ (chars (Joint.range negated).spelling ++
          (second ++ (chars " AND " ++ (third ++ (chars ")" ++ rest)))))) =
      some (.between expr negated right high, rest) := by
  have hjoint : Joint.range negated ∈ Joint.all := by
    cases negated <;> decide
  exact (group_joint bound hreads hjoint _).trans (joined_range negated expr hlow hhigh rest)

section Lists

variable {texts : Expr → List Symbol} {values : Expr → Expr} {first : Expr} {later : List Expr}
  (hitems : ∀ item ∈ first :: later, Reads (operand bound) (texts item) (values item))
include hitems

/-- A group of operands with a connective between any two is read. -/
theorem group_connective (joining : Connective) (hreads : Reads (operand bound) symbols expr)
    (hbound : later.length < bound) (rest : List Symbol) :
    group (operand bound) bound
        (symbols ++ (chars (Joint.connective joining).spelling ++
          (texts first ++ (separatedTail texts (Joint.connective joining).spelling later ++
            (chars ")" ++ rest))))) =
      some (.connected joining (expr :: (first :: later).map values), rest) := by
  have hjoint : Joint.connective joining ∈ Joint.all := by
    cases joining <;> decide
  have hdiverge : Diverge ")" (Joint.connective joining).spelling := by
    cases joining <;> decide
  have hoperands := operands_separatedTail _ hitems hbound rest (Joint.delimits_spelling hjoint)
    hdiverge
  rw [group_joint bound hreads hjoint]
  simp [hoperands]

/-- A group that looks its operand up in a list is read. -/
theorem group_membership (negated : Bool) (hreads : Reads (operand bound) symbols expr)
    (hbound : later.length < bound) (rest : List Symbol) :
    group (operand bound) bound
        (symbols ++ (chars (Joint.membership negated).spelling ++
          (texts first ++
            (separatedTail texts ", " later ++ (chars ")" ++ (chars ")" ++ rest)))))) =
      some (.inList expr negated ((first :: later).map values), rest) := by
  have hjoint : Joint.membership negated ∈ Joint.all := by
    cases negated <;> decide
  have hoperands := operands_separatedTail ", " hitems hbound (chars ")" ++ rest)
    (by decide) (by decide)
  rw [group_joint bound hreads hjoint]
  simp [hoperands]

/-- A call with arguments is read. -/
theorem call_arguments (name : List Char) (hbound : later.length < bound) (rest : List Symbol) :
    call (operand bound) bound name
        (texts first ++ (separatedTail texts ", " later ++ (chars ")" ++ rest))) =
      some (.call (String.ofList name) false ((first :: later).map values), rest) := by
  obtain ⟨hfirst, hlater⟩ := List.forall_mem_cons.mp hitems
  have hnext := hfirst.before_tail texts (by decide : Delimits ", ") later rest
  have hcast := expect_separatedTail texts ", " " AS " later rest (by decide) (by decide)
  have hrest := others_separatedTail ", " hlater hbound rest (by decide) (by decide)
  simp [hnext, hcast, hrest]

/-- A call with distinct arguments is read. -/
theorem call_distinct (name : List Char) (hbound : later.length < bound) (rest : List Symbol) :
    call (operand bound) bound name
        (chars "DISTINCT " ++
          (texts first ++ (separatedTail texts ", " later ++ (chars ")" ++ rest)))) =
      some (.call (String.ofList name) true ((first :: later).map values), rest) := by
  have hoperands := operands_separatedTail ", " hitems hbound rest (by decide) (by decide)
  have hnone := (operand_eq_none bound
    (texts first ++ (separatedTail texts ", " later ++ (chars ")" ++ rest)))).2.2.1
  simp [hnone, hoperands]

end Lists

/-- A word with a parenthesis behind it begins a call. -/
theorem worded_chars_append {read : List Symbol → Option (Expr × List Symbol)} (name : List Char)
    (input : List Symbol) :
    worded read bound name (chars "(" ++ input) = call read bound name input := by
  simp

/-- A call without arguments is read. -/
theorem call_nothing (name : List Char) (rest : List Symbol) :
    call (operand bound) bound name (chars ")" ++ rest) =
      some (.call (String.ofList name) false [], rest) := by
  have hdistinct := expect_chars_append_eq_none "DISTINCT " ")" rest (by decide)
  have hnone := (operand_eq_none bound rest).2.2.2
  simp [hnone, hdistinct]

/-- A call with DISTINCT and no arguments is read. -/
theorem call_distinct_nothing (name : List Char) (rest : List Symbol) :
    call (operand bound) bound name (chars "DISTINCT " ++ (chars ")" ++ rest)) =
      some (.call (String.ofList name) true [], rest) := by
  have hdistinct := (operand_eq_none bound (chars ")" ++ rest)).2.2.1
  have hnone := (operand_eq_none bound rest).2.2.2
  simp [operands, hdistinct, hnone]

/-- A cast is read. It is no call of a function, since AS stands behind its operand. -/
theorem call_cast {typeName : String} (htype : BareWord.type.allows typeName = true)
    (hreads : Reads (operand bound) symbols expr) (rest : List Symbol) :
    call (operand bound) bound "CAST".toList
        (symbols ++ (chars " AS " ++ (chars typeName ++ (chars ")" ++ rest)))) =
      some (.cast expr typeName, rest) := by
  have hfirst := hreads.before " AS " (chars typeName ++ (chars ")" ++ rest)) (by decide)
  have hsplit : splitType false (chars typeName ++ (chars ")" ++ rest)) =
      some (typeName.toList, rest) := splitType_append htype rest
  simp [hfirst, hsplit]

/-- Behind the word CASE stands a blank. -/
theorem branchTail_not_continued (texts : Expr → List Symbol) (otherwise : Option Expr)
    (branches : List (Expr × Expr)) (rest : List Symbol) :
    splitWord (branchTail texts otherwise branches ++ rest) =
        ([], branchTail texts otherwise branches ++ rest) ∧
      expect "(" (branchTail texts otherwise branches ++ rest) = none := by
  cases branches with
  | nil => cases otherwise <;> exact ⟨rfl, rfl⟩
  | cons branch later => exact ⟨rfl, rfl⟩

end Forms

end Reader

end BoundSql
