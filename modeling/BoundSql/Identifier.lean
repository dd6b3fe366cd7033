import BoundSql.Dialect
import BoundSql.Refusal

/-!
# Quoted identifiers

An identifier is written between two quotes of the dialect. A name that holds the quote itself is
refused and never repaired, so that no name can close its own quotes. `Dialect.nameFault?` finds
what is wrong with a name, and `Dialect.quoteName` writes a name in which nothing is wrong.
-/

set_option autoImplicit false
set_option relaxedAutoImplicit false

namespace BoundSql.Dialect

/-- The first fault of a name, if it has one. Where placeholders are written with a percent sign,
a driver would read `%s` inside the name as one more of them. -/
def nameFault? (d : Dialect) (name : String) : Option NameFault :=
  if name.toList = [] then some .empty
  else if d.quote ∈ name.toList then some .containsQuote
  else if '\x00' ∈ name.toList then some .containsNul
  else if '%' ∈ name.toList ∧ d.paramStyle.doublesPercent = true then some .containsPercent
  else none

/-- The error of writing a name, if it has a fault. -/
def nameError? (d : Dialect) (name : String) : Option Refusal :=
  (d.nameFault? name).map (.badName name)

/-- The error of the first faulty name of a list, if there is one. -/
def namesError? (d : Dialect) (names : List String) : Option Refusal :=
  names.findSome? d.nameError?

/-- A name between two quotes, without asking whether it may stand there. -/
def enclose (d : Dialect) (name : String) : String :=
  String.singleton d.quote ++ name ++ String.singleton d.quote

/-- The quoted form of a name that has no fault. -/
def quoteName (d : Dialect) (name : String) : Except Refusal String :=
  match d.nameError? name with
  | some error => .error error
  | none => .ok (d.enclose name)

theorem nameError?_eq_none_iff (d : Dialect) (name : String) :
    d.nameError? name = none ↔ d.nameFault? name = none := by
  simp [nameError?]

theorem quoteName_eq_ok_iff (d : Dialect) (name quoted : String) :
    d.quoteName name = .ok quoted ↔ d.nameFault? name = none ∧ quoted = d.enclose name := by
  unfold quoteName nameError?
  cases d.nameFault? name <;> simp [eq_comm]

end BoundSql.Dialect
