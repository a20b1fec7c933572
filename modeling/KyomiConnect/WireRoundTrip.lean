import KyomiConnect.Wire

/-! # What the wire gives back

A message that is written and read comes back as it was, with one exception: the
`params` of a request may be a JSON `null`, and that is read as no `params`.

The proof goes field by field. `field_required` and `field_optional` read a field
of a struct back, given that its type is read back; the structs follow from them.
-/

namespace KyomiConnect

/-! ## Structs -/

/-- The field with a name, if it was written. -/
def written (fields : List (String × Option Json)) (name : String) : Option Json :=
  (fields.find? fun field => field.1 == name).bind Prod.snd

/-- A field's value is the one that was written for it. -/
theorem get_foldl_writeField {fields : List (String × Option Json)}
    (hnodup : (fields.map Prod.fst).Nodup) (entries : List (String × Json)) (name : String) :
    (Json.object (fields.foldl writeField entries)).get name =
      (written fields name).or ((Json.object entries).get name) := by
  -- field by field: no later field has the same name
  induction fields generalizing entries with
  | nil => rfl
  | cons field rest ih =>
      rcases field with ⟨key, v⟩
      simp only [List.map_cons, List.nodup_cons] at hnodup
      rcases hnodup with ⟨hfresh, hrest⟩
      rw [List.foldl_cons, ih hrest]
      unfold written writeField
      by_cases hname : key = name
      · -- no later field has this name
        subst hname
        have hnone : rest.find? (fun field => field.1 == key) = none := by
          rw [List.find?_eq_none]
          intro field hfield heq
          apply hfresh
          rw [List.mem_map]
          exact ⟨field, hfield, by simpa using heq⟩
        rw [hnone, List.find?_cons_of_pos (by simp)]
        cases v with
        | none => simp
        | some v => simp [get_insertKey_self]
      · rw [List.find?_cons_of_neg (by simpa using hname)]
        cases v with
        | none => rfl
        | some v => simp only [get_insertKey_of_ne (fun h => hname h.symm)]

/-- The fields of a struct are found under their names. -/
theorem get_structEntries {fields : List (String × Option Json)}
    (hnodup : (fields.map Prod.fst).Nodup) (name : String) :
    (Json.object (structEntries fields)).get name = written fields name := by
  unfold structEntries
  rw [get_foldl_writeField hnodup]
  exact Option.or_none

section Fields

variable {α : Type} {fields : List (String × Option Json)} {name : String}
  {decode : Json → Except SerdeError α}

/-- A field that was written is read back. -/
theorem field_required (hnodup : (fields.map Prod.fst).Nodup) {v : Json} {a : α}
    (hwritten : written fields name = some v) (hread : decode v = .ok a) :
    Decode.field (structEntries fields) name decode = .ok (some a) := by
  unfold Decode.field
  rw [get_structEntries hnodup, hwritten]
  simp only [hread]
  rfl

/-- A field that was left out is missing. -/
theorem field_skipped (hnodup : (fields.map Prod.fst).Nodup)
    (hwritten : written fields name = none) :
    Decode.field (structEntries fields) name decode = .ok none := by
  unfold Decode.field
  rw [get_structEntries hnodup, hwritten]

/-- An optional field comes back if its values are no `null`. -/
theorem field_optional (hnodup : (fields.map Prod.fst).Nodup) {encode : α → Json} {a : Option α}
    (hwritten : written fields name = skipNone encode a)
    (hread : ∀ a, Decode.option decode (encode a) = .ok (some a)) :
    Decode.field (structEntries fields) name (Decode.option decode) = .ok (a.map some) := by
  cases a with
  | none => exact field_skipped hnodup hwritten
  | some a => exact field_required hnodup hwritten (hread a)

end Fields

/-! ## Values -/

namespace Decode

variable {α : Type}

theorem string_string (s : String) : string (.string s) = .ok s := rfl

theorem option_string (s : String) : option string (.string s) = .ok (some s) := rfl

theorem option_bool (b : Bool) : option bool (.bool b) = .ok (some b) := rfl

/-- What is no `null` is read as what it stands for. -/
theorem option_of_not_null {decode : Json → Except SerdeError α} {v : Json} {a : α}
    (hnull : v.isNull = false) (hread : decode v = .ok a) : option decode v = .ok (some a) := by
  cases v with
  | null => cases hnull
  | _ =>
      unfold option
      simp only [hread]
      rfl

/-- A number of 32 bits is in the range that is read. -/
theorem u32_ofU32 (n : UInt32) : u32 (.ofU32 n) = .ok n := by
  have hlt : n.toUInt64.toNat < UInt32.size := by simpa using n.toNat_lt
  unfold u32 Json.ofU32
  simp only [hlt, if_true]
  exact congrArg Except.ok (by simp)

/-- A number of 32 bits in an optional field. -/
theorem option_ofU32 (n : UInt32) : option u32 (.ofU32 n) = .ok (some n) :=
  option_of_not_null rfl (u32_ofU32 n)

theorem u64_ofU64 (n : UInt64) : u64 (.ofU64 n) = .ok n := rfl

/-- A signed number of 64 bits is read with its sign. -/
theorem i64_ofI64 (n : Int64) : i64 (.ofI64 n) = .ok n := by
  unfold Json.ofI64
  by_cases hn : 0 ≤ n.toInt
  · have hlt : n.toInt.toNat < Json.i64Bound := by
      have hn' := n.toInt_lt
      unfold Json.i64Bound
      omega
    have hnat : (UInt64.ofNat n.toInt.toNat).toNat = n.toInt.toNat := by
      apply UInt64.toNat_ofNat_of_lt'
      unfold Json.i64Bound at hlt
      exact Nat.lt_trans hlt (by decide)
    have hback : Int64.ofNat n.toInt.toNat = n := by
      rw [← Int64.ofInt_eq_ofNat, Int.toNat_of_nonneg hn, Int64.ofInt_toInt]
    rw [if_pos hn]
    unfold i64
    simp only [hnat, hlt, if_true, hback]
  · rw [if_neg hn]
    rfl

/-- A signed number in an optional field. -/
theorem option_ofI64 (n : Int64) : option i64 (.ofI64 n) = .ok (some n) := by
  have hnull : (Json.ofI64 n).isNull = false := by
    unfold Json.ofI64
    split <;> rfl
  exact option_of_not_null hnull (i64_ofI64 n)

/-- A list comes back if its elements do. -/
theorem vec_map {encode : α → Json} {decode : Json → Except SerdeError α}
    (hread : ∀ a, decode (encode a) = .ok a) (items : List α) :
    vec decode (.array (items.map encode)) = .ok items := by
  unfold vec
  -- item by item
  induction items with
  | nil => rfl
  | cons a rest ih =>
      simp only [List.map_cons, List.mapM_cons, hread a]
      simp only at ih
      rw [ih]
      rfl

end Decode

/-! ## Requests -/

theorem ConnectOp.fromValue_toValue (op : ConnectOp) : fromValue op.toValue = .ok op := by
  cases op <;> rfl

theorem QueryFormat.fromValue_toValue (format : QueryFormat) :
    fromValue format.toValue = .ok format := by
  cases format <;> rfl

/-- A request comes back, its `params` without a `null`. -/
theorem ConnectRequest.fromValue_toValue (r : ConnectRequest) :
    fromValue r.toValue = .ok { r with params := r.params.filter fun v => !v.isNull } := by
  rcases r with ⟨id, op, params, streaming⟩
  unfold toValue
  simp only
  generalize hfields : [("id", some (Json.string id)), ("op", some op.toValue),
    ("params", params), ("streaming", skipFalse streaming)] = fields
  have hnodup : (fields.map Prod.fst).Nodup := by
    subst hfields
    simp only [List.map_cons, List.map_nil]
    decide
  have hid : Decode.field (structEntries fields) "id" Decode.string = .ok (some id) :=
    field_required hnodup (by subst hfields; rfl) rfl
  have hop : Decode.field (structEntries fields) "op" ConnectOp.fromValue = .ok (some op) :=
    field_required hnodup (by subst hfields; rfl) op.fromValue_toValue
  have hparams : Decode.field (structEntries fields) "params" (Decode.option Decode.value) =
      .ok (params.map fun v => if v.isNull then none else some v) := by
    have hwritten : written fields "params" = params := by
      subst hfields
      rfl
    cases hp : params with
    | none => exact field_skipped hnodup (hwritten.trans hp)
    | some v =>
        apply field_required hnodup (hwritten.trans hp)
        cases v <;> rfl
  have hstreaming : Decode.field (structEntries fields) "streaming" Decode.bool =
      .ok (if streaming then some true else none) := by
    cases hs : streaming with
    | true => exact field_required hnodup (v := .bool true) (by subst hfields; rw [hs]; rfl) rfl
    | false => exact field_skipped hnodup (by subst hfields; rw [hs]; rfl)
  unfold fromValue
  simp only [hid, hop, hparams, hstreaming, Decode.required, bind, Except.bind, pure, Except.pure]
  congr 2
  · cases params with
    | none => rfl
    | some v => cases v <;> rfl
  · cases streaming <;> rfl

/-! ## Parameters -/

/-- The parameters of a query, with whatever is optional. -/
theorem QueryParams.fromValue_toValue (p : QueryParams) : fromValue p.toValue = .ok p := by
  rcases p with ⟨sql, limit, offset, includeTotal, format, jobId⟩
  unfold toValue
  simp only
  generalize hfields : [("sql", some (Json.string sql)), ("limit", skipNone Json.ofU32 limit),
    ("offset", skipNone Json.ofU32 offset), ("include_total", some (Json.bool includeTotal)),
    ("format", some format.toValue), ("job_id", skipNone Json.string jobId)] = fields
  have hnodup : (fields.map Prod.fst).Nodup := by
    subst hfields
    simp only [List.map_cons, List.map_nil]
    decide
  have hsql : Decode.field (structEntries fields) "sql" Decode.string = .ok (some sql) :=
    field_required hnodup (by subst hfields; rfl) rfl
  have hlimit : Decode.field (structEntries fields) "limit" (Decode.option Decode.u32) =
      .ok (limit.map some) :=
    field_optional hnodup (by subst hfields; rfl) Decode.option_ofU32
  have hoffset : Decode.field (structEntries fields) "offset" (Decode.option Decode.u32) =
      .ok (offset.map some) :=
    field_optional hnodup (by subst hfields; rfl) Decode.option_ofU32
  have htotal : Decode.field (structEntries fields) "include_total" Decode.bool =
      .ok (some includeTotal) :=
    field_required hnodup (by subst hfields; rfl) rfl
  have hformat : Decode.field (structEntries fields) "format" QueryFormat.fromValue =
      .ok (some format) :=
    field_required hnodup (by subst hfields; rfl) format.fromValue_toValue
  have hjobId : Decode.field (structEntries fields) "job_id" (Decode.option Decode.string) =
      .ok (jobId.map some) :=
    field_optional hnodup (by subst hfields; rfl) Decode.option_string
  unfold fromValue
  simp only [hsql, hlimit, hoffset, htotal, hformat, hjobId, Decode.required, bind, Except.bind,
    pure, Except.pure]
  congr 2
  · cases limit <;> rfl
  · cases offset <;> rfl
  · cases jobId <;> rfl

/-- The parameters of a discovery. -/
theorem DiscoverCatalogParams.fromValue_toValue (p : DiscoverCatalogParams) :
    fromValue p.toValue = .ok p := by
  rcases p with ⟨containers, includePublicDatasets, containersOnly⟩
  unfold toValue
  simp only
  generalize hfields : [
    ("containers", skipNone (fun names => Json.array (names.map .string)) containers),
    ("include_public_datasets", skipNone Json.bool includePublicDatasets),
    ("containers_only", skipFalse containersOnly)] = fields
  have hnodup : (fields.map Prod.fst).Nodup := by
    subst hfields
    simp only [List.map_cons, List.map_nil]
    decide
  have hcontainers : Decode.field (structEntries fields) "containers"
      (Decode.option (Decode.vec Decode.string)) = .ok (containers.map some) := by
    have hwritten : written fields "containers" =
        skipNone (fun names : List String => Json.array (names.map .string)) containers := by
      subst hfields
      rfl
    apply field_optional hnodup hwritten
    intro names
    exact Decode.option_of_not_null rfl (Decode.vec_map Decode.string_string names)
  have hpublic : Decode.field (structEntries fields) "include_public_datasets"
      (Decode.option Decode.bool) = .ok (includePublicDatasets.map some) :=
    field_optional hnodup (by subst hfields; rfl) Decode.option_bool
  have honly : Decode.field (structEntries fields) "containers_only" Decode.bool =
      .ok (if containersOnly then some true else none) := by
    cases hs : containersOnly with
    | true => exact field_required hnodup (v := .bool true) (by subst hfields; rw [hs]; rfl) rfl
    | false => exact field_skipped hnodup (by subst hfields; rw [hs]; rfl)
  unfold fromValue
  simp only [hcontainers, hpublic, honly, bind, Except.bind, pure, Except.pure]
  congr 2
  · cases containers <;> rfl
  · cases includePublicDatasets <;> rfl
  · cases containersOnly <;> rfl

/-! ## Responses -/

theorem SimpleType.fromValue_asStr (t : SimpleType) : fromValue (.string t.asStr) = .ok t := by
  cases t <;> rfl

/-- A column with its name and its type. -/
theorem ColumnInfo.fromValue_toJson (c : ColumnInfo) : fromValue c.toJson = .ok c := by
  rcases c with ⟨name, colType⟩
  have htype := colType.fromValue_asStr
  simp [fromValue, toJson, Decode.field, Json.get, Decode.string, Decode.required, htype, bind,
    Except.bind, Except.map, pure, Except.pure]

section Responses

variable {Bytes : Type} (base64 : Base64 Bytes)

/-- Bytes are read back from their text. -/
theorem Base64.fromValue_encode (bytes : Bytes) :
    base64.fromValue (.string (base64.encode bytes)) = .ok bytes := by
  unfold fromValue
  simp [Decode.string, base64.decode_encode, bind, Except.bind, pure, Except.pure]

/-- No message writes a field twice. -/
theorem ConnectResponseBody.nodup_fields (id : Json) (body : ConnectResponseBody Bytes) :
    ((("id", some id) :: ("type", some (Json.string body.tag)) ::
      body.fields base64).map Prod.fst).Nodup := by
  cases body <;>
    · simp only [fields, List.map_cons, List.map_nil]
      decide

/-- The fields of a body are read back from among the entries of its response. -/
theorem ConnectResponseBody.ofFields_fields {entries : List (String × Option Json)}
    (hnodup : (entries.map Prod.fst).Nodup) (body : ConnectResponseBody Bytes)
    (hwritten : ∀ name ∈ (body.fields base64).map Prod.fst,
      written entries name = written (body.fields base64) name) :
    ∃ variant, Variant.fromValue (.string body.tag) = .ok variant ∧
      ofFields base64 (structEntries entries) variant = .ok body := by
  cases body with
  | result value =>
      have hresult : Decode.field (structEntries entries) "result" Decode.value =
          .ok (some value) :=
        field_required hnodup (hwritten "result" (by simp [fields])) rfl
      refine ⟨.result, rfl, ?_⟩
      unfold ofFields
      simp only [hresult, Decode.required, bind, Except.bind, pure, Except.pure]
  | error message =>
      have herror : Decode.field (structEntries entries) "error" Decode.string =
          .ok (some message) :=
        field_required hnodup (hwritten "error" (by simp [fields])) rfl
      refine ⟨.error, rfl, ?_⟩
      unfold ofFields
      simp only [herror, Decode.required, bind, Except.bind, pure, Except.pure]
  | arrowHeader schemaIpc columns totalRows =>
      have hschema : Decode.field (structEntries entries) "schema_ipc" base64.fromValue =
          .ok (some schemaIpc) :=
        field_required hnodup (hwritten "schema_ipc" (by simp [fields]))
          (base64.fromValue_encode schemaIpc)
      have hcolumns : Decode.field (structEntries entries) "columns"
          (Decode.vec ColumnInfo.fromValue) = .ok (some columns) :=
        field_required hnodup (hwritten "columns" (by simp [fields]))
          (Decode.vec_map ColumnInfo.fromValue_toJson columns)
      have htotal : Decode.field (structEntries entries) "total_rows"
          (Decode.option Decode.i64) = .ok (totalRows.map some) :=
        field_optional hnodup (hwritten "total_rows" (by simp [fields])) Decode.option_ofI64
      refine ⟨.arrowHeader, rfl, ?_⟩
      unfold ofFields
      simp only [hschema, hcolumns, htotal, Decode.required, bind, Except.bind, pure, Except.pure]
      cases totalRows <;> rfl
  | arrowBatch ipcBytes chunkIndex =>
      have hbytes : Decode.field (structEntries entries) "ipc_bytes" base64.fromValue =
          .ok (some ipcBytes) :=
        field_required hnodup (hwritten "ipc_bytes" (by simp [fields]))
          (base64.fromValue_encode ipcBytes)
      have hindex : Decode.field (structEntries entries) "chunk_index" Decode.u32 =
          .ok (some chunkIndex) :=
        field_required hnodup (hwritten "chunk_index" (by simp [fields]))
          (Decode.u32_ofU32 chunkIndex)
      refine ⟨.arrowBatch, rfl, ?_⟩
      unfold ofFields
      simp only [hbytes, hindex, Decode.required, bind, Except.bind, pure, Except.pure]
  | arrowComplete executionTimeMs bytesProcessed totalChunks totalRowsReturned jobId =>
      have htime : Decode.field (structEntries entries) "execution_time_ms"
          (Decode.option Decode.i64) = .ok (executionTimeMs.map some) :=
        field_optional hnodup (hwritten "execution_time_ms" (by simp [fields]))
          Decode.option_ofI64
      have hbytes : Decode.field (structEntries entries) "bytes_processed"
          (Decode.option Decode.i64) = .ok (bytesProcessed.map some) :=
        field_optional hnodup (hwritten "bytes_processed" (by simp [fields])) Decode.option_ofI64
      have hchunks : Decode.field (structEntries entries) "total_chunks" Decode.u32 =
          .ok (some totalChunks) :=
        field_required hnodup (hwritten "total_chunks" (by simp [fields]))
          (Decode.u32_ofU32 totalChunks)
      have hrows : Decode.field (structEntries entries) "total_rows_returned" Decode.u64 =
          .ok (some totalRowsReturned) :=
        field_required hnodup (hwritten "total_rows_returned" (by simp [fields]))
          (Decode.u64_ofU64 totalRowsReturned)
      have hjobId : Decode.field (structEntries entries) "job_id"
          (Decode.option Decode.string) = .ok (jobId.map some) :=
        field_optional hnodup (hwritten "job_id" (by simp [fields])) Decode.option_string
      refine ⟨.arrowComplete, rfl, ?_⟩
      unfold ofFields
      simp only [htime, hbytes, hchunks, hrows, hjobId, Decode.required, bind, Except.bind, pure,
        Except.pure]
      cases executionTimeMs <;> cases bytesProcessed <;> cases jobId <;> rfl

/-- A response comes back, whatever its body. -/
theorem ConnectResponse.fromValue_toValue (r : ConnectResponse Bytes) :
    fromValue base64 (r.toValue base64) = .ok r := by
  rcases r with ⟨id, body⟩
  have hnodup := body.nodup_fields base64 (.string id)
  unfold toValue fromValue
  simp only
  generalize hfields : ("id", some (Json.string id)) :: ("type", some (Json.string body.tag)) ::
    body.fields base64 = fields at hnodup ⊢
  have hbody : ∀ name ∈ (body.fields base64).map Prod.fst,
      written fields name = written (body.fields base64) name := by
    intro name hname
    subst hfields
    simp only [List.map_cons, List.nodup_cons, List.mem_cons, not_or] at hnodup
    unfold written
    rw [List.find?_cons_of_neg, List.find?_cons_of_neg]
    · intro heq
      apply hnodup.2.1
      have heq' : "type" = name := by simpa using heq
      rw [heq']
      exact hname
    · intro heq
      apply hnodup.1.2
      have heq' : "id" = name := by simpa using heq
      rw [heq']
      exact hname
  rcases body.ofFields_fields base64 hnodup hbody with ⟨variant, hvariant, hread⟩
  have hid : Decode.field (structEntries fields) "id" Decode.string = .ok (some id) :=
    field_required hnodup (by subst hfields; rfl) rfl
  have htag : Decode.field (structEntries fields) "type" ConnectResponseBody.Variant.fromValue =
      .ok (some variant) :=
    field_required hnodup (by subst hfields; rfl) hvariant
  simp only [hid, htag, hread, Decode.required, bind, Except.bind, pure, Except.pure]

end Responses

/-! ## Texts -/

/-- `serde_json::to_string` and `serde_json::from_str` on values. -/
structure JsonText where
  print : Json → String
  parse : String → Except SerdeError Json

/-- The text of the value is read back. It is unless a number of the value is a double that
the reader is off by its last digit for, or the value is nested too deeply for the reader. -/
def JsonText.Keeps (text : JsonText) (v : Json) : Prop := text.parse (text.print v) = .ok v

/-- Deserialize a text. -/
def JsonText.read {α : Type} (text : JsonText) (fromValue : Json → Except SerdeError α)
    (s : String) : Except SerdeError α :=
  text.parse s >>= fromValue

/-- What is read from a text that is kept is what is read from its value. -/
theorem JsonText.Keeps.read_print {α : Type} {text : JsonText} {v : Json} (h : text.Keeps v)
    (fromValue : Json → Except SerdeError α) :
    text.read fromValue (text.print v) = fromValue v := by
  unfold read
  rw [show text.parse (text.print v) = .ok v from h]
  rfl

/-! ## All messages -/

/-- A request comes back unless its `params` is a `null`. -/
theorem ConnectRequest.fromValue_toValue_iff (r : ConnectRequest) :
    fromValue r.toValue = .ok r ↔ r.params ≠ some .null := by
  rw [r.fromValue_toValue]
  rcases r with ⟨id, op, params, streaming⟩
  rcases params with _ | v
  · simp
  · cases v <;> simp [Json.isNull, Option.filter]

/-- Parameters and responses come back, and so does a request unless its `params` is
a `null`, which comes back as no `params`; as values always, and as texts if the
text of the value is read back. -/
theorem wire_round_trip {Bytes : Type} (base64 : Base64 Bytes) :
    (∀ r : ConnectRequest, ConnectRequest.fromValue r.toValue =
      .ok { r with params := r.params.filter fun v => !v.isNull }) ∧
    (∀ r : ConnectRequest, ConnectRequest.fromValue r.toValue = .ok r ↔
      r.params ≠ some .null) ∧
    (∀ p : QueryParams, QueryParams.fromValue p.toValue = .ok p) ∧
    (∀ p : DiscoverCatalogParams, DiscoverCatalogParams.fromValue p.toValue = .ok p) ∧
    (∀ r : ConnectResponse Bytes, ConnectResponse.fromValue base64 (r.toValue base64) = .ok r) ∧
    ∀ text : JsonText,
      (∀ r : ConnectRequest, text.Keeps r.toValue →
        (text.read ConnectRequest.fromValue (text.print r.toValue) = .ok r ↔
          r.params ≠ some .null)) ∧
      (∀ p : QueryParams, text.Keeps p.toValue →
        text.read QueryParams.fromValue (text.print p.toValue) = .ok p) ∧
      (∀ p : DiscoverCatalogParams, text.Keeps p.toValue →
        text.read DiscoverCatalogParams.fromValue (text.print p.toValue) = .ok p) ∧
      ∀ r : ConnectResponse Bytes, text.Keeps (r.toValue base64) →
        text.read (ConnectResponse.fromValue base64) (text.print (r.toValue base64)) = .ok r := by
  refine ⟨ConnectRequest.fromValue_toValue, ConnectRequest.fromValue_toValue_iff,
    QueryParams.fromValue_toValue, DiscoverCatalogParams.fromValue_toValue,
    ConnectResponse.fromValue_toValue base64, ?_⟩
  intro text
  refine ⟨?_, ?_, ?_, ?_⟩
  · intro r hkeeps
    rw [hkeeps.read_print]
    exact r.fromValue_toValue_iff
  · intro p hkeeps
    rw [hkeeps.read_print]
    exact p.fromValue_toValue
  · intro p hkeeps
    rw [hkeeps.read_print]
    exact p.fromValue_toValue
  · intro r hkeeps
    rw [hkeeps.read_print]
    exact ConnectResponse.fromValue_toValue base64 r

/-- A request without parameters, and its text. -/
def probeRequest : ConnectRequest :=
  { id := "req-1", op := .testConnection, params := none, streaming := false }

def probeText : JsonText where
  print _ := "\x7b\"id\":\"req-1\",\"op\":\"test_connection\"\x7d"
  parse _ := .ok probeRequest.toValue

/-- No bytes at all. -/
def noBytes : Base64 Unit where
  encode _ := ""
  decode _ := .ok ()
  decode_encode _ := rfl

/-- That request comes back as a text. -/
theorem wire_round_trip_probe :
    probeText.read ConnectRequest.fromValue (probeText.print probeRequest.toValue) =
      .ok probeRequest :=
  (((wire_round_trip noBytes).2.2.2.2.2 probeText).1 probeRequest rfl).2 nofun

/-- A request with a `null` for its `params` does not come back. -/
theorem null_params_lost :
    let r : ConnectRequest :=
      { id := "req-1", op := .discoverCatalog, params := some .null, streaming := false }
    ConnectRequest.fromValue r.toValue ≠ .ok r := by
  intro r h
  rw [r.fromValue_toValue] at h
  simp [r, Json.isNull, Option.filter] at h

end KyomiConnect
