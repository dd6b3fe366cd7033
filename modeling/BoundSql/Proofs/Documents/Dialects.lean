import BoundSql.Document.Dialect
import BoundSql.Proofs.Documents.RoundTrip
import BoundSql.Render
import Mathlib.Data.List.Nodup

/-!
# Dialects and their documents

A document of a configuration lists switches of it, each by its name and with its setting. Setting a
switch from such a member makes the configuration that is read agree there with the one that is
listed, and disturbs no switch on which the two agree already (`Switch.Agrees.copy`). What is read
from a whole list therefore agrees with the listed configuration on every switch that the list names
or that has its default value, and two configurations that agree on every switch are equal. The
switches captured from a dialect answer as the dialect does (`dialect_capture`).

The result is `DialectConfig.documents_round_trip`: any document that lists the switches of a
configuration in any order, without those that have their defaults if need be, is read as that
configuration, the printed one among them; and the dialect of a configuration that is captured from
a dialect, printed and read renders every node as the original does.
-/

set_option autoImplicit false
set_option relaxedAutoImplicit false

namespace BoundSql.DialectConfig

/-- A switch of a configuration. -/
inductive Switch where
  /-- The name of the dialect. -/
  | name
  /-- The quote around identifiers. -/
  | quote
  /-- The spelling of placeholders. -/
  | placeholder
  /-- The spelling of LIMIT and OFFSET. -/
  | limit
  /-- The limit written where only an offset is given. -/
  | maxLimit
  /-- Whether AS stands between a table and its alias. -/
  | tableAliasAs
  /-- Whether RETURNING may be written. -/
  | returning
  /-- Whether the target of an INSERT carries an alias. -/
  | insertAlias
deriving DecidableEq

namespace Switch

/-- The switches in the order in which they are printed. -/
def all : List Switch :=
  [name, quote, placeholder, limit, maxLimit, tableAliasAs, returning, insertAlias]

/-- The name of a switch in a document. -/
def key : Switch → String
  | name => "name"
  | quote => "quote"
  | placeholder => "placeholder"
  | limit => "limit"
  | maxLimit => "max_limit"
  | tableAliasAs => "table_alias_as"
  | returning => "returning"
  | insertAlias => "insert_alias"

/-- The setting of a switch as a document. -/
def setting (config : DialectConfig) : Switch → Json
  | name => .string config.name
  | quote => .string (String.singleton config.quote)
  | placeholder => .string config.placeholder.name
  | limit => .string config.limit.name
  | maxLimit =>
    match config.maxLimit with
    | none => .null
    | some most => .number (.ofInt most.toInt)
  | tableAliasAs => .bool config.tableAliasAs
  | returning => .bool config.returning
  | insertAlias => .bool config.insertAlias

/-- The switch as a member of a document of the configuration. -/
def member (config : DialectConfig) (switch : Switch) : String × Json :=
  (switch.key, switch.setting config)

/-- The two configurations have the same value at the switch. -/
def Agrees (config other : DialectConfig) : Switch → Prop
  | name => config.name = other.name
  | quote => config.quote = other.quote
  | placeholder => config.placeholder = other.placeholder
  | limit => config.limit = other.limit
  | maxLimit => config.maxLimit = other.maxLimit
  | tableAliasAs => config.tableAliasAs = other.tableAliasAs
  | returning => config.returning = other.returning
  | insertAlias => config.insertAlias = other.insertAlias

/-- The second configuration with the value that the first one has at the switch. -/
def copy (source target : DialectConfig) : Switch → DialectConfig
  | name => { target with name := source.name }
  | quote => { target with quote := source.quote }
  | placeholder => { target with placeholder := source.placeholder }
  | limit => { target with limit := source.limit }
  | maxLimit => { target with maxLimit := source.maxLimit }
  | tableAliasAs => { target with tableAliasAs := source.tableAliasAs }
  | returning => { target with returning := source.returning }
  | insertAlias => { target with insertAlias := source.insertAlias }

/-- Every switch is printed. -/
theorem mem_all (switch : Switch) : switch ∈ all := by
  cases switch <;> decide

/-- No switch is printed twice. -/
theorem nodup_all : all.Nodup := by
  decide

/-- No two switches have the same name. -/
theorem nodup_switchNames : switchNames.Nodup := by
  decide

/-- A switch is known by its name. -/
theorem key_injective : Function.Injective key := fun switch other hkey ↦
  List.inj_on_of_nodup_map (f := key) (l := all) nodup_switchNames switch.mem_all other.mem_all hkey

/-! ### One switch -/

variable {source target : DialectConfig}

/-- Taking a value over makes the configurations agree there, and no less anywhere else. -/
theorem Agrees.copy (switch other : Switch) (hother : other = switch ∨ other.Agrees target source) :
    other.Agrees (switch.copy source target) source := by
  obtain rfl | hagrees := hother
  · cases other <;> rfl
  · cases switch <;> cases other <;> first | rfl | exact hagrees

/-- Configurations that agree at every switch are the same. -/
theorem eq_of_agrees (hagrees : ∀ switch : Switch, switch.Agrees target source) :
    target = source := by
  cases target
  cases source
  rw [DialectConfig.mk.injEq]
  exact ⟨hagrees name, hagrees quote, hagrees placeholder, hagrees limit, hagrees maxLimit,
    hagrees tableAliasAs, hagrees returning, hagrees insertAlias⟩

/-- A quote is read from its text. -/
theorem char?_singleton (c : Char) : (Json.string (String.singleton c)).char? = some c := by
  rw [Json.char?, String.toList_singleton]

/-- A spelling of placeholders is read from its name. -/
theorem plainVariant?_placeholder (style : ParamStyle) :
    (Json.string style.name).plainVariant?.bind ParamStyle.ofName? = some style := by
  cases style <;> rfl

/-- A spelling of LIMIT is read from its name. -/
theorem plainVariant?_limit (style : PagingStyle) :
    (Json.string style.name).plainVariant?.bind PagingStyle.ofName? = some style := by
  cases style <;> rfl

/-- A largest limit is read from its setting, also the missing one. -/
theorem maxLimit?_setting (config : DialectConfig) :
    maxLimit? (maxLimit.setting config) = some config.maxLimit := by
  cases hlimit : config.maxLimit with
  | none =>
    rw [setting, hlimit]
    rfl
  | some most =>
    rw [setting, hlimit]
    show ((Json.number (.ofInt most.toInt)).int64?).map some = _
    rw [Json.int64?_number_ofInt]
    rfl

/-- A member sets its switch to the value that the listed configuration has there. -/
theorem set?_member (switch : Switch) :
    target.set? switch.key (switch.setting source) = some (switch.copy source target) := by
  cases switch with
  | name => rfl
  | quote =>
    show ((Json.string (String.singleton source.quote)).char?).map _ = _
    rw [char?_singleton]
    rfl
  | placeholder =>
    show ((Json.string source.placeholder.name).plainVariant?.bind ParamStyle.ofName?).map _ = _
    rw [plainVariant?_placeholder]
    rfl
  | limit =>
    show ((Json.string source.limit.name).plainVariant?.bind PagingStyle.ofName?).map _ = _
    rw [plainVariant?_limit]
    rfl
  | maxLimit =>
    show (maxLimit? (maxLimit.setting source)).map _ = _
    rw [maxLimit?_setting]
    rfl
  | tableAliasAs => rfl
  | returning => rfl
  | insertAlias => rfl

end Switch

/-! ### All the switches that are listed -/

/-- The second configuration with the values that the first one has at the listed switches. -/
def copyAll (source : DialectConfig) : DialectConfig → List Switch → DialectConfig
  | target, [] => target
  | target, switch :: rest => copyAll source (switch.copy source target) rest

variable {source : DialectConfig}

/-- A list of members sets the listed switches. -/
theorem setAll?_map_member (target : DialectConfig) (listed : List Switch) :
    setAll? target (listed.map (Switch.member source)) = some (copyAll source target listed) := by
  induction listed generalizing target with
  | nil => rfl
  | cons switch rest ih =>
    rw [List.map_cons, Switch.member, setAll?, Switch.set?_member, Option.bind_some, ih, copyAll]

/-- The result agrees with the listed configuration wherever it did before and at every listed
switch. -/
theorem agrees_copyAll {other : Switch} {target : DialectConfig} {listed : List Switch}
    (hother : other ∈ listed ∨ other.Agrees target source) :
    other.Agrees (copyAll source target listed) source := by
  induction listed generalizing target with
  | nil => exact hother.resolve_left (List.not_mem_nil)
  | cons switch rest ih =>
    obtain hmem | hagrees := hother
    · obtain rfl | hrest := List.mem_cons.mp hmem
      · exact ih (.inr (Switch.Agrees.copy other other (.inl rfl)))
      · exact ih (.inl hrest)
    · exact ih (.inr (Switch.Agrees.copy switch other (.inr hagrees)))

/-- A document that lists switches of a configuration is that configuration, if the others have
their defaults. -/
theorem ofJson?_listed {config : DialectConfig} {listed : List Switch} (hnodup : listed.Nodup)
    (hothers : ∀ switch, switch ∉ listed → switch.Agrees {} config) :
    ofJson? (.object (listed.map (Switch.member config))) = some config := by
  have hkeys : ((listed.map (Switch.member config)).map Prod.fst).Nodup := by
    rw [List.map_map]
    exact hnodup.map Switch.key_injective
  have hcopied : copyAll config {} listed = config := Switch.eq_of_agrees fun switch ↦
    agrees_copyAll ((Decidable.em (switch ∈ listed)).imp_right (hothers switch))
  rw [ofJson?, if_pos hkeys, setAll?_map_member, hcopied]

/-- The printed document lists every switch. -/
theorem toJson_eq (config : DialectConfig) :
    config.toJson = .object (Switch.all.map (Switch.member config)) := rfl

/-- A text is read as the configuration that its document is. -/
theorem parse?_of_read? {text : String} {document : Json}
    (hread : Json.read? text = some document) : parse? text = ofJson? document := by
  rw [parse?, hread, Option.bind_some]

/-- What is printed is read back. -/
theorem parse?_print (config : DialectConfig) : parse? config.print = some config := by
  rw [print, parse?_of_read? (Json.read?_print config.toJson), toJson_eq]
  exact ofJson?_listed Switch.nodup_all fun switch hswitch ↦ absurd switch.mem_all hswitch

/-- The configuration that is captured from a dialect answers as the dialect does. -/
theorem dialect_capture (d : Dialect) : d.capture.dialect = d := rfl

/-- Printing a configuration and reading it gives it back. So does reading any text that is an
object which lists its switches, in any order and none twice, where the switches that are left out
have their defaults; every such list has a text that is read as this object. A dialect that is
captured, printed and read renders every node as the original does, wherever the rendering
starts. -/
theorem documents_round_trip :
    (∀ config : DialectConfig,
      parse? config.print = some config ∧
        ∀ listed : List Switch, listed.Nodup →
          (∀ switch, switch ∉ listed → switch.Agrees {} config) →
          let document := Json.object (listed.map (Switch.member config))
          (∀ text, Json.read? text = some document → parse? text = some config) ∧
            Json.read? document.print = some document) ∧
      ∀ d : Dialect, ∃ captured, parse? d.capture.print = some captured ∧
        ∀ node : Node, node.renderer captured.dialect = node.renderer d ∧
          node.render captured.dialect = node.render d := by
  refine ⟨fun config ↦ ⟨parse?_print config, fun listed hnodup hothers ↦ ⟨fun text hread ↦ ?_, ?_⟩⟩,
    fun d ↦ ⟨d.capture, parse?_print d.capture, fun node ↦ ?_⟩⟩
  · rw [parse?_of_read? hread]
    exact ofJson?_listed hnodup hothers
  · exact Json.read?_print _
  · rw [dialect_capture]
    exact ⟨rfl, rfl⟩

/-- The switches of `mysql` in an order of their own, without those that have their defaults. -/
theorem documents_round_trip_mysql :
    parse? (Json.object
      [("returning", .bool false), ("quote", .string "\x60"), ("name", .string "mysql"),
        ("insert_alias", .bool false), ("max_limit", .number (.ofNat 9223372036854775807))]).print =
      some Dialect.mysql.capture := by
  refine ((documents_round_trip.1 Dialect.mysql.capture).2
    [.returning, .quote, .name, .insertAlias, .maxLimit] (by decide) ?_).1 _ ?_
  · intro switch hswitch
    cases switch <;> first | rfl | exact absurd hswitch (by decide)
  · exact Json.read?_print _

end BoundSql.DialectConfig
