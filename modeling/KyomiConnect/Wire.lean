import KyomiConnect.Protocol

/-! # Messages on the wire

The JSON of the messages, as serde's derived code writes and reads it. A struct is
written field by field into a map that keeps its keys in order; a field with
`skip_serializing_if` may be left out. `ConnectResponse` is flattened: the fields
of its body stand beside its `id`, with the variant's name under `type`.
-/

namespace KyomiConnect

/-! ## Structs -/

/-- Write a field into a map, unless it is skipped. -/
def writeField (entries : List (String × Json)) (field : String × Option Json) :
    List (String × Json) :=
  match field.2 with
  | some v => insertKey field.1 v entries
  | none => entries

/-- The entries of a map after the fields of a struct were written, in their order. -/
def structEntries (fields : List (String × Option Json)) : List (String × Json) :=
  fields.foldl writeField []

/-- `skip_serializing_if = "Option::is_none"` -/
def skipNone {α : Type} (encode : α → Json) (a : Option α) : Option Json := a.map encode

/-- `skip_serializing_if = "std::ops::Not::not"` -/
def skipFalse (b : Bool) : Option Json := if b then some (.bool b) else none

def Json.ofU64 (n : UInt64) : Json := .number (.posInt n)

/-- `Value` decodes as itself. -/
def Decode.value (v : Json) : Except SerdeError Json := .ok v

/-! ## Requests -/

namespace ConnectOp

def variant : ConnectOp → String
  | .executeQuery => "execute_query"
  | .dryRun => "dry_run"
  | .testConnection => "test_connection"
  | .discoverCatalog => "discover_catalog"

def ofVariant : String → Except SerdeError ConnectOp
  | "execute_query" => .ok .executeQuery
  | "dry_run" => .ok .dryRun
  | "test_connection" => .ok .testConnection
  | "discover_catalog" => .ok .discoverCatalog
  | other => .error (.unknownVariant other
      ["execute_query", "dry_run", "test_connection", "discover_catalog"])

def toValue (op : ConnectOp) : Json := .string op.variant

def fromValue : Json → Except SerdeError ConnectOp
  | .string variant => ofVariant variant
  | .object [(variant, value)] => do
      let op ← ofVariant variant
      if value.isNull then .ok op else .error (.invalidType value "unit")
  | .object entries => .error (.invalidValue (.object entries) "map with a single key")
  | v => .error (.invalidType v "string or map")

end ConnectOp

namespace ConnectRequest

def toValue (r : ConnectRequest) : Json :=
  .object (structEntries [
    ("id", some (.string r.id)),
    ("op", some r.op.toValue),
    ("params", r.params),
    ("streaming", skipFalse r.streaming)])

/-- `serde_json::from_value::<ConnectRequest>`. A `null` under `params` is a `None`. -/
def fromValue : Json → Except SerdeError ConnectRequest
  | .object entries => do
      let id ← Decode.field entries "id" Decode.string
      let op ← Decode.field entries "op" ConnectOp.fromValue
      let params ← Decode.field entries "params" (Decode.option Decode.value)
      let streaming ← Decode.field entries "streaming" Decode.bool
      let id ← Decode.required "id" id
      let op ← Decode.required "op" op
      return { id, op, params := params.join, streaming := streaming.getD false }
  | .array items => do
      let expected := "struct ConnectRequest with 4 elements"
      let id ← Decode.element items 0 Decode.string
      let id ← Decode.requiredElement expected 0 id
      let op ← Decode.element items 1 ConnectOp.fromValue
      let op ← Decode.requiredElement expected 1 op
      let params ← Decode.element items 2 (Decode.option Decode.value)
      let params ← Decode.requiredElement expected 2 params
      let streaming ← Decode.element items 3 Decode.bool
      Decode.noMoreThan 4 items
      return { id, op, params, streaming := streaming.getD false }
  | v => .error (.invalidType v "struct ConnectRequest")

end ConnectRequest

/-! ## Parameters -/

def QueryFormat.toValue : QueryFormat → Json
  | .json => .string "json"
  | .arrow => .string "arrow"

def QueryParams.toValue (p : QueryParams) : Json :=
  .object (structEntries [
    ("sql", some (.string p.sql)),
    ("limit", skipNone .ofU32 p.limit),
    ("offset", skipNone .ofU32 p.offset),
    ("include_total", some (.bool p.includeTotal)),
    ("format", some p.format.toValue),
    ("job_id", skipNone .string p.jobId)])

def DiscoverCatalogParams.toValue (p : DiscoverCatalogParams) : Json :=
  .object (structEntries [
    ("containers", skipNone (fun names => .array (names.map .string)) p.containers),
    ("include_public_datasets", skipNone .bool p.includePublicDatasets),
    ("containers_only", skipFalse p.containersOnly)])

/-! ## Responses -/

/-- The `base64` crate's standard engine: what it encodes it decodes. -/
structure Base64 (Bytes : Type) where
  encode : Bytes → String
  decode : String → Except String Bytes
  decode_encode : ∀ bytes, decode (encode bytes) = .ok bytes

def SimpleType.fromValue (v : Json) : Except SerdeError SimpleType := do
  match ← Decode.string v with
  | "string" => return .string
  | "number" => return .number
  | "boolean" => return .boolean
  | "date" => return .date
  | "time" => return .time
  | "timestamp" => return .timestamp
  | "timestamptz" => return .timestampTz
  | "unknown" => return .unknown
  | other => throw (.custom s!"unknown SimpleType: '{other}'")

def ColumnInfo.fromValue : Json → Except SerdeError ColumnInfo
  | .object entries => do
      let name ← Decode.field entries "name" Decode.string
      let colType ← Decode.field entries "type" SimpleType.fromValue
      let name ← Decode.required "name" name
      let colType ← Decode.required "type" colType
      return { name, colType }
  | .array items => do
      let expected := "struct ColumnInfo with 2 elements"
      let name ← Decode.element items 0 Decode.string
      let name ← Decode.requiredElement expected 0 name
      let colType ← Decode.element items 1 SimpleType.fromValue
      let colType ← Decode.requiredElement expected 1 colType
      Decode.noMoreThan 2 items
      return { name, colType }
  | v => .error (.invalidType v "struct ColumnInfo")

section Responses

variable {Bytes : Type} (base64 : Base64 Bytes)

/-- `base64_bytes::deserialize` -/
def Base64.fromValue (v : Json) : Except SerdeError Bytes := do
  match base64.decode (← Decode.string v) with
  | .ok bytes => return bytes
  | .error e => throw (.custom e)

namespace ConnectResponseBody

/-- The tag of a body. -/
def tag : ConnectResponseBody Bytes → String
  | .result _ => "result"
  | .error _ => "error"
  | .arrowHeader _ _ _ => "arrow_header"
  | .arrowBatch _ _ => "arrow_batch"
  | .arrowComplete _ _ _ _ _ => "arrow_complete"

def fields : ConnectResponseBody Bytes → List (String × Option Json)
  | .result value => [("result", some value)]
  | .error message => [("error", some (.string message))]
  | .arrowHeader schemaIpc columns totalRows =>
      [("schema_ipc", some (.string (base64.encode schemaIpc))),
        ("columns", some (.array (columns.map ColumnInfo.toJson))),
        ("total_rows", skipNone .ofI64 totalRows)]
  | .arrowBatch ipcBytes chunkIndex =>
      [("ipc_bytes", some (.string (base64.encode ipcBytes))),
        ("chunk_index", some (.ofU32 chunkIndex))]
  | .arrowComplete executionTimeMs bytesProcessed totalChunks totalRowsReturned jobId =>
      [("execution_time_ms", skipNone .ofI64 executionTimeMs),
        ("bytes_processed", skipNone .ofI64 bytesProcessed),
        ("total_chunks", some (.ofU32 totalChunks)),
        ("total_rows_returned", some (.ofU64 totalRowsReturned)),
        ("job_id", skipNone .string jobId)]

/-- The variants, by the names they are tagged with. -/
inductive Variant where
  | result
  | error
  | arrowHeader
  | arrowBatch
  | arrowComplete

/-- A tag is a variant's name or its index. -/
def Variant.fromValue : Json → Except SerdeError Variant
  | .string "result" => .ok .result
  | .string "error" => .ok .error
  | .string "arrow_header" => .ok .arrowHeader
  | .string "arrow_batch" => .ok .arrowBatch
  | .string "arrow_complete" => .ok .arrowComplete
  | .string other => .error (.unknownVariant other
      ["result", "error", "arrow_header", "arrow_batch", "arrow_complete"])
  | .number (.posInt 0) => .ok .result
  | .number (.posInt 1) => .ok .error
  | .number (.posInt 2) => .ok .arrowHeader
  | .number (.posInt 3) => .ok .arrowBatch
  | .number (.posInt 4) => .ok .arrowComplete
  | .number (.posInt n) => .error (.invalidValue (.number (.posInt n)) "variant index 0 <= i < 5")
  | v => .error (.invalidType v "variant identifier")

/-- The fields of a variant, from the entries that were collected. -/
def ofFields (entries : List (String × Json)) : Variant →
    Except SerdeError (ConnectResponseBody Bytes)
  | .result => do
      let result ← Decode.field entries "result" Decode.value
      return .result (← Decode.required "result" result)
  | .error => do
      let error ← Decode.field entries "error" Decode.string
      return .error (← Decode.required "error" error)
  | .arrowHeader => do
      let columns ← Decode.field entries "columns" (Decode.vec ColumnInfo.fromValue)
      let schemaIpc ← Decode.field entries "schema_ipc" base64.fromValue
      let totalRows ← Decode.field entries "total_rows" (Decode.option Decode.i64)
      let schemaIpc ← Decode.required "schema_ipc" schemaIpc
      let columns ← Decode.required "columns" columns
      return .arrowHeader schemaIpc columns totalRows.join
  | .arrowBatch => do
      let chunkIndex ← Decode.field entries "chunk_index" Decode.u32
      let ipcBytes ← Decode.field entries "ipc_bytes" base64.fromValue
      let ipcBytes ← Decode.required "ipc_bytes" ipcBytes
      let chunkIndex ← Decode.required "chunk_index" chunkIndex
      return .arrowBatch ipcBytes chunkIndex
  | .arrowComplete => do
      let bytesProcessed ← Decode.field entries "bytes_processed" (Decode.option Decode.i64)
      let executionTimeMs ← Decode.field entries "execution_time_ms" (Decode.option Decode.i64)
      let jobId ← Decode.field entries "job_id" (Decode.option Decode.string)
      let totalChunks ← Decode.field entries "total_chunks" Decode.u32
      let totalRowsReturned ← Decode.field entries "total_rows_returned" Decode.u64
      let totalChunks ← Decode.required "total_chunks" totalChunks
      let totalRowsReturned ← Decode.required "total_rows_returned" totalRowsReturned
      return .arrowComplete executionTimeMs.join bytesProcessed.join totalChunks totalRowsReturned
        jobId.join

end ConnectResponseBody

namespace ConnectResponse

def toValue (r : ConnectResponse Bytes) : Json :=
  .object (structEntries (("id", some (.string r.id)) :: ("type", some (.string r.body.tag)) ::
    r.body.fields base64))

/-- `serde_json::from_value::<ConnectResponse>`: the `id` is taken, and the body is
read from the other entries. -/
def fromValue : Json → Except SerdeError (ConnectResponse Bytes)
  | .object entries => do
      let id ← Decode.field entries "id" Decode.string
      let id ← Decode.required "id" id
      let variant ← Decode.field entries "type" ConnectResponseBody.Variant.fromValue
      let variant ← Decode.required "type" variant
      let body ← ConnectResponseBody.ofFields base64 entries variant
      return { id, body }
  | v => .error (.invalidType v "struct ConnectResponse")

end ConnectResponse

end Responses

end KyomiConnect
