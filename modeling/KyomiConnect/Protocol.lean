import KyomiConnect.Json

/-! # The wire protocol

The messages of `kyomi-connect-protocol`: the backend sends a `ConnectRequest`
with an operation code and a JSON `params` value, the agent answers with
`ConnectResponse`s. `ArrowStreamEvent` is what flows from a provider to the
executor. Arrow IPC messages are opaque here, of type `Bytes`.
-/

namespace KyomiConnect

/-! ## Errors -/

/-- `kyomi_connect_protocol::Error`. -/
inductive Error where
  | provider (message : String)
  | connection (message : String)
  | notSupported (message : String)
  | internal (message : String)
  | serdeJson (message : String)
deriving DecidableEq, Repr

/-- The `Display` text of an error. -/
def Error.toString : Error → String
  | .provider message => message
  | .connection message => "connection failed: " ++ message
  | .notSupported message => "not supported: " ++ message
  | .internal message => message
  | .serdeJson message => message

/-- `kyomi_connect_protocol::DatasourceType`. -/
inductive DatasourceType where
  | bigQuery
  | clickHouse
  | snowflake
  | databricks
  | redshift
  | postgres
  | mySql
  | sqlServer
  | synapse
  | flareDb
deriving DecidableEq, Repr

/-! ## Columns and formats -/

/-- Simplified column type used across all datasource providers. -/
inductive SimpleType where
  | string
  | number
  | boolean
  | date
  | time
  | timestamp
  | timestampTz
  | unknown
deriving DecidableEq, Repr

def SimpleType.asStr : SimpleType → String
  | .string => "string"
  | .number => "number"
  | .boolean => "boolean"
  | .date => "date"
  | .time => "time"
  | .timestamp => "timestamp"
  | .timestampTz => "timestamptz"
  | .unknown => "unknown"

/-- Column metadata returned with query results. -/
structure ColumnInfo where
  name : String
  colType : SimpleType
deriving DecidableEq, Repr

def ColumnInfo.toJson (c : ColumnInfo) : Json :=
  .object [("name", .string c.name), ("type", .string c.colType.asStr)]

/-- Requested result format; JSON when the request does not say. -/
inductive QueryFormat where
  | json
  | arrow
deriving DecidableEq, Repr

/-! ## Stream events -/

/-- One event of a provider's Arrow stream. -/
inductive ArrowStreamEvent (Bytes : Type) where
  | schema (schemaIpc : Bytes) (columns : List ColumnInfo) (totalRows : Option Int64)
  | batch (ipcBytes : Bytes) (chunkIndex : UInt32)
  | complete (executionTimeMs bytesProcessed : Option Int64) (totalChunks : UInt32)
      (totalRowsReturned : UInt64)
deriving DecidableEq, Repr

/-- What a consumer receives until the channel closes. -/
abbrev ArrowStream (Bytes : Type) := List (Except Error (ArrowStreamEvent Bytes))

/-! ## Requests -/

/-- Operations the backend can request from the agent. -/
inductive ConnectOp where
  | executeQuery
  | dryRun
  | testConnection
  | discoverCatalog
deriving DecidableEq, Repr

/-- Request sent from the backend. `streaming` announces that the response will
be streamed as multiple messages. -/
structure ConnectRequest where
  id : String
  op : ConnectOp
  params : Option Json
  streaming : Bool

/-- Parameters for the `execute_query` operation. -/
structure QueryParams where
  sql : String
  limit : Option UInt32
  offset : Option UInt32
  includeTotal : Bool
  format : QueryFormat
  jobId : Option String
deriving DecidableEq, Repr

/-- Parameters for the `dry_run` operation. -/
structure DryRunParams where
  sql : String
deriving DecidableEq, Repr

/-- Parameters for the `discover_catalog` operation. -/
structure DiscoverCatalogParams where
  containers : Option (List String) := none
  includePublicDatasets : Option Bool := none
  containersOnly : Bool := false
deriving DecidableEq, Repr

namespace QueryFormat

def ofVariant : String → Except SerdeError QueryFormat
  | "json" => .ok .json
  | "arrow" => .ok .arrow
  | other => .error (.unknownVariant other ["json", "arrow"])

/-- An enum without data is a string, or an object with the variant as its only
key and `null` under it. -/
def fromValue : Json → Except SerdeError QueryFormat
  | .string variant => ofVariant variant
  | .object [(variant, value)] => do
      let format ← ofVariant variant
      if value.isNull then .ok format else .error (.invalidType value "unit")
  | .object entries => .error (.invalidValue (.object entries) "map with a single key")
  | v => .error (.invalidType v "string or map")

end QueryFormat

/-- `serde_json::from_value::<QueryParams>`. An object's entries are decoded in
key order, then absent fields are reported in declaration order. -/
def QueryParams.fromValue : Json → Except SerdeError QueryParams
  | .object entries => do
      let format ← Decode.field entries "format" QueryFormat.fromValue
      let includeTotal ← Decode.field entries "include_total" Decode.bool
      let jobId ← Decode.field entries "job_id" (Decode.option Decode.string)
      let limit ← Decode.field entries "limit" (Decode.option Decode.u32)
      let offset ← Decode.field entries "offset" (Decode.option Decode.u32)
      let sql ← Decode.field entries "sql" Decode.string
      let sql ← Decode.required "sql" sql
      let includeTotal ← Decode.required "include_total" includeTotal
      return { sql, limit := limit.join, offset := offset.join, includeTotal,
               format := format.getD .json, jobId := jobId.join }
  | .array items => do
      let expected := "struct QueryParams with 6 elements"
      let sql ← Decode.element items 0 Decode.string
      let sql ← Decode.requiredElement expected 0 sql
      let limit ← Decode.element items 1 (Decode.option Decode.u32)
      let limit ← Decode.requiredElement expected 1 limit
      let offset ← Decode.element items 2 (Decode.option Decode.u32)
      let offset ← Decode.requiredElement expected 2 offset
      let includeTotal ← Decode.element items 3 Decode.bool
      let includeTotal ← Decode.requiredElement expected 3 includeTotal
      let format ← Decode.element items 4 QueryFormat.fromValue
      let jobId ← Decode.element items 5 (Decode.option Decode.string)
      Decode.noMoreThan 6 items
      return { sql, limit, offset, includeTotal, format := format.getD .json,
               jobId := jobId.join }
  | v => .error (.invalidType v "struct QueryParams")

/-- `serde_json::from_value::<DryRunParams>`. -/
def DryRunParams.fromValue : Json → Except SerdeError DryRunParams
  | .object entries => do
      let sql ← Decode.field entries "sql" Decode.string
      let sql ← Decode.required "sql" sql
      return { sql }
  | .array items => do
      let sql ← Decode.element items 0 Decode.string
      let sql ← Decode.requiredElement "struct DryRunParams with 1 element" 0 sql
      Decode.noMoreThan 1 items
      return { sql }
  | v => .error (.invalidType v "struct DryRunParams")

/-- `serde_json::from_value::<DiscoverCatalogParams>`. -/
def DiscoverCatalogParams.fromValue : Json → Except SerdeError DiscoverCatalogParams
  | .object entries => do
      let containers ← Decode.field entries "containers" (Decode.option (Decode.vec Decode.string))
      let containersOnly ← Decode.field entries "containers_only" Decode.bool
      let includePublicDatasets ←
        Decode.field entries "include_public_datasets" (Decode.option Decode.bool)
      return { containers := containers.join, includePublicDatasets := includePublicDatasets.join,
               containersOnly := containersOnly.getD false }
  | .array items => do
      let containers ← Decode.element items 0 (Decode.option (Decode.vec Decode.string))
      let includePublicDatasets ← Decode.element items 1 (Decode.option Decode.bool)
      let containersOnly ← Decode.element items 2 Decode.bool
      Decode.noMoreThan 3 items
      return { containers := containers.join, includePublicDatasets := includePublicDatasets.join,
               containersOnly := containersOnly.getD false }
  | v => .error (.invalidType v "struct DiscoverCatalogParams")

/-! ## Responses -/

/-- The response payload: a result, an error, or an Arrow streaming event. -/
inductive ConnectResponseBody (Bytes : Type) where
  | result (result : Json)
  | error (error : String)
  | arrowHeader (schemaIpc : Bytes) (columns : List ColumnInfo) (totalRows : Option Int64)
  | arrowBatch (ipcBytes : Bytes) (chunkIndex : UInt32)
  | arrowComplete (executionTimeMs bytesProcessed : Option Int64) (totalChunks : UInt32)
      (totalRowsReturned : UInt64) (jobId : Option String)

/-- Response sent to the backend; `id` is that of the request. -/
structure ConnectResponse (Bytes : Type) where
  id : String
  body : ConnectResponseBody Bytes

/-! ## Catalogs -/

/-- A column within a catalog table. -/
structure CatalogColumn where
  name : String
  nativeType : String
  description : Option String
deriving DecidableEq, Repr

/-- A table within a catalog container. -/
structure CatalogTable where
  name : String
  nativeType : Option String
  columns : List CatalogColumn
deriving DecidableEq, Repr

/-- A catalog container (schema, dataset, database). -/
structure CatalogContainer where
  name : String
  tables : List CatalogTable
deriving DecidableEq, Repr

/-- Full catalog discovery result: what was discovered, and one message for each
container or table that was not. -/
structure CatalogResult where
  containers : List CatalogContainer
  errors : List String
deriving DecidableEq, Repr

/-- An entry that `skip_serializing_if = "Option::is_none"` leaves out. -/
def Json.entryOfOption (key : String) : Option String → List (String × Json)
  | some s => [(key, .string s)]
  | none => []

def CatalogColumn.toJson (c : CatalogColumn) : Json :=
  .object (Json.entryOfOption "description" c.description ++
    [("name", .string c.name), ("native_type", .string c.nativeType)])

def CatalogTable.toJson (t : CatalogTable) : Json :=
  .object ([("columns", .array (t.columns.map CatalogColumn.toJson)), ("name", .string t.name)] ++
    Json.entryOfOption "native_type" t.nativeType)

def CatalogContainer.toJson (c : CatalogContainer) : Json :=
  .object [("name", .string c.name), ("tables", .array (c.tables.map CatalogTable.toJson))]

def CatalogResult.toJson (r : CatalogResult) : Json :=
  .object [("containers", .array (r.containers.map CatalogContainer.toJson)),
    ("errors", .array (r.errors.map Json.string))]

end KyomiConnect
