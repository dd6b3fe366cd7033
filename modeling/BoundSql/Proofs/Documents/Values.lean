import BoundSql.Document.Value
import BoundSql.Proofs.Documents.RoundTrip

/-!
# Values and their documents

The document of a value names the kind of the value and holds its content, and for every kind but
one the content is read back: flags, integers up to both ends of their range, texts of any
characters and byte strings of any length. The exception is the floating-point number, since a
number that is not finite has no digits to be read back from. Even so, nothing but a floating-point
number is ever read from the document of one (`Value.exists_float_of_ofJson?`).

The result is `Value.identified_by_document`: a value that is no floating-point number is what its
text is read as, and no other value of any kind has this text.
-/

set_option autoImplicit false
set_option relaxedAutoImplicit false

namespace BoundSql.Value

/-! ### Byte strings -/

theorem byte?_number_ofNat (byte : UInt8) :
    (Json.number (.ofNat byte.toNat)).byte? = some byte := by
  have hint : (Json.number (.ofNat byte.toNat)).int? = some (byte.toNat : Int) := rfl
  have hrange : (0 : Int) ≤ byte.toNat ∧ (byte.toNat : Int) < 256 :=
    ⟨Int.natCast_nonneg _, Int.ofNat_lt.mpr byte.toNat_lt⟩
  rw [Json.byte?, hint, Option.bind_some, if_pos hrange, Int.toNat_natCast, UInt8.ofNat_toNat]

/-- A byte string is told from the list of its numbers. -/
theorem bytes?_map_number (bytes : List UInt8) :
    bytes? (.array (bytes.map fun byte ↦ .number (.ofNat byte.toNat))) = some bytes := by
  rw [bytes?]
  induction bytes with
  | nil => rfl
  | cons first rest ih =>
    rw [List.map_cons, List.mapM_cons, byte?_number_ofNat, ih]
    rfl

/-! ### Kinds and contents -/

/-- An object with one member is read by the kind that the member names, unless this is the kind
without content. -/
theorem ofJson?_member {kind : String} (hkind : kind ≠ "Null") (content : Json) :
    ofJson? (.object [(kind, content)]) = ofMember? kind content := by
  have hplain : (Json.object [(kind, content)]).plainVariant? ≠ some "Null" := by
    cases content with
    | null => exact fun hnull ↦ hkind (Option.some.inj hnull)
    | _ => exact nofun
  rw [ofJson?, if_neg hplain]

/-- What is read from the document of a floating-point number is one. -/
theorem exists_float_of_ofJson? {number : Float} {value : Value}
    (hread : ofJson? (float number).toJson = some value) : ∃ other, value = float other := by
  rw [toJson, ofJson?_member (by decide)] at hread
  obtain ⟨other, -, rfl⟩ := Option.map_eq_some_iff.mp hread
  exact ⟨other, rfl⟩

/-- Any other value is read from its document. -/
theorem ofJson?_toJson {value : Value} (hvalue : ∀ number, value ≠ float number) :
    ofJson? value.toJson = some value := by
  cases value with
  | null => rfl
  | bool flag => exact ofJson?_member (by decide) _
  | int number =>
    rw [toJson, ofJson?_member (by decide)]
    show (Json.number (.ofInt number.toInt)).int64?.map int = _
    rw [Json.int64?_number_ofInt, Option.map_some]
  | float number => exact absurd rfl (hvalue number)
  | text characters => exact ofJson?_member (by decide) _
  | blob bytes =>
    rw [toJson, ofJson?_member (by decide)]
    show (bytes? (.array (bytes.map fun byte ↦ .number (.ofNat byte.toNat)))).map blob = _
    rw [bytes?_map_number, Option.map_some]

/-! ### Texts of values -/

theorem parse?_print_eq (value : Value) : parse? value.print = ofJson? value.toJson := by
  rw [parse?, print, Json.read?_print, Option.bind_some]

/-- A value that is no floating-point number is what its text is read as, and no other value, of
whatever kind, has the same text. -/
theorem identified_by_document (value : Value) (hvalue : ∀ number, value ≠ float number) :
    parse? value.print = some value ∧
      ∀ other : Value, other.print = value.print → other = value := by
  have hread : parse? value.print = some value :=
    (parse?_print_eq value).trans (ofJson?_toJson hvalue)
  refine ⟨hread, fun other hsame ↦ ?_⟩
  have hother : ofJson? other.toJson = some value := by
    rw [← parse?_print_eq, hsame, hread]
  by_cases hfloat : ∃ number, other = float number
  · obtain ⟨number, rfl⟩ := hfloat
    obtain ⟨found, hfound⟩ := exists_float_of_ofJson? hother
    exact absurd hfound (hvalue found)
  · have hself := ofJson?_toJson fun number hnumber ↦ hfloat ⟨number, hnumber⟩
    exact Option.some.inj (hself.symm.trans hother)

/-- A text whose characters are escaped in three ways, the smallest integer, and the integer one
beside the floating-point number one. -/
theorem identified_by_document_escaped :
    parse? "\x7b\"Text\":\"\\\"\\\\\\n\\u0001é🦀\"\x7d" = some (text "\"\\\n\x01é🦀") ∧
      parse? "\x7b\"Int\":-9223372036854775808\x7d" = some (int Int64.minValue) ∧
      (float 1).print ≠ (int 1).print := by
  refine ⟨?_, ?_, ?_⟩
  · have hprint : (text "\"\\\n\x01é🦀").print =
        "\x7b\"Text\":\"\\\"\\\\\\n\\u0001é🦀\"\x7d" := by decide
    rw [← hprint]
    exact (identified_by_document _ (by nofun)).1
  · have hprint : (int Int64.minValue).print = "\x7b\"Int\":-9223372036854775808\x7d" := by decide
    rw [← hprint]
    exact (identified_by_document _ (by nofun)).1
  · exact fun hsame ↦ nomatch (identified_by_document (int 1) (by nofun)).2 (float 1) hsame

end BoundSql.Value
