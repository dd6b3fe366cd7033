import BoundSql.Dialect
import BoundSql.Json.Reader

/-!
# Dialects as documents

A `DialectConfig` is a dialect as plain data, for callers that choose their database while they run.
It can be read from a document that lists the switches in which it differs from the default one, by
name and in any order. A switch may not be named twice, and nothing else may be named. A list gives
the switches by position instead. `DialectConfig.print` lists all switches in their order,
`DialectConfig.dialect` is the dialect that answers with them, and `Dialect.capture` takes them from
the answers of a dialect that is at hand.
-/

set_option autoImplicit false
set_option relaxedAutoImplicit false

namespace BoundSql

namespace ParamStyle

/-- The name of a parameter style. -/
def name : ParamStyle → String
  | format => "format"
  | qmark => "qmark"
  | numeric => "numeric"

/-- The parameter style of a name. -/
def ofName? (name : String) : Option ParamStyle :=
  if name = "format" then some format
  else if name = "qmark" then some qmark
  else if name = "numeric" then some numeric
  else none

end ParamStyle

namespace PagingStyle

/-- The name of a paging style. -/
def name : PagingStyle → String
  | limit => "limit"
  | fetch => "fetch"

/-- The paging style of a name. -/
def ofName? (name : String) : Option PagingStyle :=
  if name = "limit" then some limit
  else if name = "fetch" then some fetch
  else none

end PagingStyle

/-- A dialect as plain data. -/
structure DialectConfig where
  /-- The name of the dialect. -/
  name : String := "custom"
  /-- The quote around identifiers. -/
  quote : Char := '"'
  /-- The spelling of placeholders. -/
  placeholder : ParamStyle := .format
  /-- The spelling of LIMIT and OFFSET. -/
  limit : PagingStyle := .limit
  /-- The limit to write where only an offset is given. -/
  maxLimit : Option Int64 := none
  /-- Whether AS stands between a table and its alias. -/
  tableAliasAs : Bool := true
  /-- Whether RETURNING may be written. -/
  returning : Bool := true
  /-- Whether the target of an INSERT carries an alias. -/
  insertAlias : Bool := true
deriving DecidableEq, Inhabited

namespace DialectConfig

/-- The names of the switches, in their order. -/
def switchNames : List String :=
  ["name", "quote", "placeholder", "limit", "max_limit", "table_alias_as", "returning",
    "insert_alias"]

/-- The largest limit that a document gives, where null stands for none. -/
def maxLimit? : Json → Option (Option Int64)
  | .null => some none
  | document => document.int64?.map some

/-- The configuration with one switch set by name. -/
def set? (config : DialectConfig) (switch : String) (setting : Json) : Option DialectConfig :=
  if switch = "name" then setting.string?.map fun name ↦ { config with name }
  else if switch = "quote" then setting.char?.map fun quote ↦ { config with quote }
  else if switch = "placeholder" then
    (setting.plainVariant?.bind ParamStyle.ofName?).map fun style ↦
      { config with placeholder := style }
  else if switch = "limit" then
    (setting.plainVariant?.bind PagingStyle.ofName?).map fun style ↦
      { config with limit := style }
  else if switch = "max_limit" then
    (maxLimit? setting).map fun maxLimit ↦ { config with maxLimit }
  else if switch = "table_alias_as" then
    setting.bool?.map fun tableAliasAs ↦ { config with tableAliasAs }
  else if switch = "returning" then setting.bool?.map fun returning ↦ { config with returning }
  else if switch = "insert_alias" then
    setting.bool?.map fun insertAlias ↦ { config with insertAlias }
  else none

/-- The configuration with switches set by name, one after the other. -/
def setAll? : DialectConfig → List (String × Json) → Option DialectConfig
  | config, [] => some config
  | config, (switch, setting) :: rest =>
    (config.set? switch setting).bind fun config ↦ setAll? config rest

/-- The configuration that a document is. -/
def ofJson? : Json → Option DialectConfig
  | .object members =>
    if (members.map Prod.fst).Nodup then setAll? {} members else none
  | .array items =>
    if items.length ≤ switchNames.length then setAll? {} (switchNames.zip items) else none
  | _ => none

/-- A configuration as a document. -/
def toJson (config : DialectConfig) : Json :=
  .object
    [("name", .string config.name),
      ("quote", .string (String.singleton config.quote)),
      ("placeholder", .string config.placeholder.name),
      ("limit", .string config.limit.name),
      ("max_limit",
        match config.maxLimit with
        | none => .null
        | some most => .number (.ofInt most.toInt)),
      ("table_alias_as", .bool config.tableAliasAs),
      ("returning", .bool config.returning),
      ("insert_alias", .bool config.insertAlias)]

/-- The text of a configuration as a document. -/
def print (config : DialectConfig) : String := config.toJson.print

/-- The configuration that a text is as a document. -/
def parse? (text : String) : Option DialectConfig := (Json.read? text).bind ofJson?

/-- The dialect that answers every question with its switch of the configuration. -/
def dialect (config : DialectConfig) : Dialect where
  name := config.name
  quote := config.quote
  paramStyle := config.placeholder
  paging := config.limit
  unboundedLimit := config.maxLimit
  aliasKeyword := config.tableAliasAs
  hasReturning := config.returning
  aliasesInsert := config.insertAlias

end DialectConfig

namespace Dialect

/-- The configuration whose switches are the answers of a dialect. -/
def capture (d : Dialect) : DialectConfig where
  name := d.name
  quote := d.quote
  placeholder := d.paramStyle
  limit := d.paging
  maxLimit := d.unboundedLimit
  tableAliasAs := d.aliasKeyword
  returning := d.hasReturning
  insertAlias := d.aliasesInsert

/-- The dialect that a document describes. -/
def ofJson? (document : Json) : Option Dialect :=
  (DialectConfig.ofJson? document).map DialectConfig.dialect

/-- The dialect that a text describes. -/
def parse? (text : String) : Option Dialect := (DialectConfig.parse? text).map DialectConfig.dialect

/-- The text that describes a dialect. -/
def print (d : Dialect) : String := d.capture.print

end Dialect

end BoundSql
