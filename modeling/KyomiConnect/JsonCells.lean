import KyomiConnect.BigQuery
import KyomiConnect.ClickHouse

/-! # Rows and cells of the REST providers

`bigquery_row_to_arrow`, `snowflake_row_to_arrow`, `databricks_row_to_arrow` and
`clickhouse_row_to_arrow` append a JSON row to a builder, whatever values it has and
however many. What follows is how the rows stay aligned, and then what becomes of a cell.
-/

namespace KyomiConnect

variable (fmt : Formats)

/-! ## Alignment -/

/-- The rows appended by a reader stay aligned: each is counted once and puts one cell into
every column, and a batch of them is theirs row by row. -/
structure RowReader.Aligned {R : Type} (reader : RowReader R) (columns : List ColumnInfo) :
    Prop where
  /-- one row more is one row counted more -/
  count : ∀ rows row, (reader.build fmt columns (rows ++ [row])).rowCount =
    (reader.build fmt columns rows).rowCount + 1
  /-- and one cell more in every column, made of the row alone -/
  cell : ∀ rows row j, j < columns.length →
    ((reader.build fmt columns (rows ++ [row])).builders[j]?).map TypedColumnBuilder.cells =
      ((reader.build fmt columns rows).builders[j]?).map fun b =>
        b.cells ++ [(reader.cells fmt columns row).getD j .null]
  /-- the builder finishes, with the rows it counted under the schema that was announced -/
  finish : ∀ rows, ∃ batch, (reader.build fmt columns rows).finish = .ok batch ∧
    batch.numRows = (reader.build fmt columns rows).rowCount ∧ batch.numRows = rows.length ∧
    batch.schema = (ArrowResultBuilder.new columns).schema ∧
    batch.rows = rows.map (reader.cells fmt columns)

theorem RowReader.aligned {R : Type} (reader : RowReader R) {columns : List ColumnInfo}
    (hne : columns ≠ []) : reader.Aligned fmt columns where
  count rows row := by
    rw [(reader.holds_build fmt columns _).count, (reader.holds_build fmt columns _).count]
    simp
  cell rows row j hj := by
    have hbefore := (reader.holds_build fmt columns rows).cells j
    have hafter := (reader.holds_build fmt columns (rows ++ [row])).cells j
    rw [if_pos hj] at hbefore hafter
    obtain ⟨b, hb, hcells⟩ := Option.map_eq_some_iff.1 hbefore
    rw [hafter, hb, Option.map_some, hcells]
    simp
  finish rows := by
    have hholds := reader.holds_build fmt columns rows
    obtain ⟨batch, hfinish, hschema, hrows⟩ := hholds.finish hne
    have hnum : batch.numRows = rows.length := by
      rw [← batch.length_rows, hrows, List.length_map]
    refine ⟨batch, hfinish, ?_, hnum, hschema, hrows⟩
    rw [hnum, hholds.count, List.length_map]

/-- The rows of every REST provider stay aligned. -/
theorem rest_rows_aligned (columns : List ColumnInfo) (hne : columns ≠ []) :
    (bigqueryRowReader fmt).Aligned fmt columns ∧ (jsonRowReader fmt).Aligned fmt columns ∧
      ∀ serverTzIsUtc, (clickhouseRowReader fmt serverTzIsUtc).Aligned fmt columns :=
  ⟨RowReader.aligned fmt _ hne, RowReader.aligned fmt _ hne,
    fun _ => RowReader.aligned fmt _ hne⟩

def mixedColumns : List ColumnInfo :=
  [numberColumn, { name := "b", colType := .boolean }, { name := "c", colType := .string }]

/-- A number that cannot be read and a row that is too short leave the other cells in place. -/
theorem rest_rows_aligned_three_columns :
    ∃ batch, ((jsonRowReader Formats.blank).build Formats.blank mixedColumns
        [[.string "1O", .bool true, .string "x"], [.null, .string "TRUE"]]).finish = .ok batch ∧
      batch.rows = [[.null, .boolean true, .utf8 "x"], [.null, .boolean true, .null]] := by
  have haligned :=
    (rest_rows_aligned Formats.blank mixedColumns (List.cons_ne_nil _ _)).2.1
  obtain ⟨batch, hfinish, -, -, -, hrows⟩ := haligned.finish
    [[.string "1O", .bool true, .string "x"], [.null, .string "TRUE"]]
  refine ⟨batch, hfinish, hrows.trans ?_⟩
  decide

/-! ## Timestamps with and without a zone -/

/-- The formats of a datetime without a zone and without a fraction of a second. -/
def secondsFormats : List String := ["%Y-%m-%dT%H:%M:%S", "%Y-%m-%d %H:%M:%S"]

/-- The formats of a datetime without a zone. -/
def naiveFormats : List String :=
  secondsFormats ++ ["%Y-%m-%dT%H:%M:%S%.f", "%Y-%m-%d %H:%M:%S%.f"]

/-- A datetime without a zone has no offset, which RFC 3339 asks for, and is no number. -/
structure Formats.ZoneApart (fmt : Formats) : Prop where
  rfc3339 : ∀ {s dt}, fmt.dateTimeIn naiveFormats s = some dt → fmt.parseRfc3339 s = none
  number : ∀ {s dt}, fmt.dateTimeIn naiveFormats s = some dt → fmt.parseF64 s = none

/-- The cell of a value in a column of a type. -/
def jsonCell (value : Json) (colType : SimpleType) : Cell :=
  cellOf fmt colType (jsonValueToArrow fmt value colType)

variable {fmt} {s : String} {dt : NaiveDateTime}

/-- A Timestamp column takes every datetime without a zone. -/
theorem jsonCell_timestamp (haccepted : fmt.dateTimeIn naiveFormats s = some dt) :
    jsonCell fmt (.string s) .timestamp = .timestamp dt.timestampMicros := by
  have hcall : jsonValueToArrow fmt (.string s) .timestamp = .naiveDatetime dt := by
    simp only [naiveFormats, secondsFormats, List.cons_append, List.nil_append] at haccepted
    simp [jsonValueToArrow, Json.isNull, Json.asStr, haccepted]
  unfold jsonCell
  rw [hcall]
  rfl

/-- A datetime that needs no fraction is read with the formats without one. -/
theorem dateTimeIn_seconds (haccepted : fmt.dateTimeIn naiveFormats s = some dt)
    (hseconds : (fmt.dateTimeIn secondsFormats s).isSome) :
    fmt.dateTimeIn secondsFormats s = some dt := by
  obtain ⟨dt', hdt'⟩ := Option.isSome_iff_exists.1 hseconds
  unfold Formats.dateTimeIn naiveFormats at haccepted
  unfold Formats.dateTimeIn at hdt' ⊢
  rw [List.findSome?_append, hdt', Option.some_or] at haccepted
  rw [hdt', haccepted]

/-- A TimestampTz column takes it as the same instant if and only if it has no fraction of a
second. -/
theorem jsonCell_timestampTz_iff (hapart : fmt.ZoneApart)
    (haccepted : fmt.dateTimeIn naiveFormats s = some dt) :
    jsonCell fmt (.string s) .timestampTz = .timestamp dt.timestampMicros ↔
      (fmt.dateTimeIn secondsFormats s).isSome := by
  have hrfc := hapart.rfc3339 haccepted
  have hnumber := hapart.number haccepted
  have hcall : jsonValueToArrow fmt (.string s) .timestampTz =
      (fmt.dateTimeIn secondsFormats s).elim (.string s) .datetimeUtc := by
    cases hseconds : fmt.dateTimeIn secondsFormats s with
    | some dt' =>
        simp only [secondsFormats] at hseconds
        simp [jsonValueToArrow, Json.isNull, Json.asStr, hrfc, hseconds]
    | none =>
        simp only [secondsFormats] at hseconds
        simp [jsonValueToArrow, Json.isNull, Json.asStr, hrfc, hseconds, hnumber]
  unfold jsonCell
  rw [hcall]
  constructor
  · intro hcell
    cases hseconds : fmt.dateTimeIn secondsFormats s with
    | some dt' => rfl
    | none =>
        -- the text is no cell of the column
        rw [hseconds] at hcell
        cases hcell
  · intro hseconds
    rw [dateTimeIn_seconds haccepted hseconds]
    rfl

/-- The two kinds of timestamp columns take a datetime without a zone as the same instant if
and only if it has no fraction of a second. -/
theorem timestamps_agree_iff (hapart : fmt.ZoneApart)
    (haccepted : fmt.dateTimeIn naiveFormats s = some dt) :
    jsonCell fmt (.string s) .timestamp = .timestamp dt.timestampMicros ∧
      (jsonCell fmt (.string s) .timestampTz = .timestamp dt.timestampMicros ↔
        (fmt.dateTimeIn secondsFormats s).isSome) :=
  ⟨jsonCell_timestamp haccepted, jsonCell_timestampTz_iff hapart haccepted⟩

/-- 2026-01-15 14:30:00 and half a second. -/
def halfPastTwo (nanos : ℕ) : NaiveDateTime := ⟨⟨20468⟩, ⟨52200, nanos⟩⟩

/-- Readers that know these two texts. -/
def twoTexts : Formats where
  __ := Formats.blank
  parseDateTime format text :=
    if format = "%Y-%m-%dT%H:%M:%S" ∧ text = "2026-01-15T14:30:00" then some (halfPastTwo 0)
    else if format = "%Y-%m-%dT%H:%M:%S%.f" ∧ text = "2026-01-15T14:30:00.5" then
      some (halfPastTwo 500000000)
    else none

theorem timestamps_agree_on_seconds :
    jsonCell twoTexts (.string "2026-01-15T14:30:00") .timestampTz =
      .timestamp (halfPastTwo 0).timestampMicros :=
  (timestamps_agree_iff ⟨fun _ => rfl, fun _ => rfl⟩ (by decide)).2.2 (by decide)

/-- Half a second is lost with the rest. -/
theorem fraction_not_read :
    ¬∀ (fmt : Formats), fmt.ZoneApart → ∀ (s : String) (dt : NaiveDateTime),
      fmt.dateTimeIn naiveFormats s = some dt →
      jsonCell fmt (.string s) .timestampTz = jsonCell fmt (.string s) .timestamp := by
  intro h
  have hcells := h twoTexts ⟨fun _ => rfl, fun _ => rfl⟩ "2026-01-15T14:30:00.5"
    (halfPastTwo 500000000) (by decide)
  revert hcells
  decide

/-! ## Booleans -/

/-- The texts that one of the decoders of booleans names as false. -/
def falseSpellings : List String := ["false", "0", "f", "no", "False"]

variable (fmt) in
/-- One of the decoders reads a text as false: the JSON conversion, the builder or the
coercion of ClickHouse. -/
def ReadsFalse (s : String) : Prop :=
  jsonCell fmt (.string s) .boolean = .boolean false ∨
    cellOf fmt .boolean (.string s) = .boolean false ∨
    ∃ col utc, col.colType = .boolean ∧
      coerceValueType fmt (.string s) (some col) utc = .bool false

variable (fmt) in
/-- The two decoders of a Boolean column read a text the same, and nothing but a spelling of
false is read as false. -/
structure BooleanText (s : String) : Prop where
  consistent : jsonCell fmt (.string s) .boolean = cellOf fmt .boolean (.string s)
  named : ReadsFalse fmt s → s ∈ falseSpellings

open TypedColumnBuilder (boolOfText)

/-- What the JSON conversion reads as true. -/
def readsTrue (s : String) : Bool := s == "1" || Text.eqIgnoreAsciiCase s "true"

theorem jsonCell_boolean_string (s : String) :
    jsonCell fmt (.string s) .boolean = .boolean (readsTrue s) := rfl

theorem cellOf_boolean_string (s : String) :
    cellOf fmt .boolean (.string s) = (boolOfText s).elim .null .boolean := rfl

theorem boolOfText_true_iff : boolOfText s = some true ↔ s ∈ ["true", "1", "t", "yes"] := by
  unfold boolOfText
  split <;> simp_all

theorem boolOfText_false_iff : boolOfText s = some false ↔ s ∈ ["false", "0", "f", "no"] := by
  unfold boolOfText
  split <;> simp_all

/-- A text is read as false by a decoder that does not name it exactly when the JSON
conversion does not read it as true. -/
theorem readsFalse_named_iff :
    (ReadsFalse fmt s → s ∈ falseSpellings) ↔ readsTrue s = true ∨ s ∈ falseSpellings := by
  constructor
  · intro hnamed
    cases hread : readsTrue s with
    | true => exact .inl rfl
    | false =>
        right
        apply hnamed
        left
        rw [jsonCell_boolean_string, hread]
  · intro h hfalse
    rcases hfalse with hjson | hbuilder | ⟨col, utc, hcol, hcoerced⟩
    · rw [jsonCell_boolean_string] at hjson
      injection hjson with hread
      rw [hread] at h
      exact h.resolve_left Bool.false_ne_true
    · rw [cellOf_boolean_string] at hbuilder
      have hread : boolOfText s = some false := by
        cases hvalue : boolOfText s with
        | none =>
            rw [hvalue] at hbuilder
            cases hbuilder
        | some b =>
            rw [hvalue] at hbuilder
            injection hbuilder with hb
            rw [hb]
      have hmem := boolOfText_false_iff.1 hread
      simp only [falseSpellings, List.mem_cons, List.not_mem_nil, or_false] at hmem ⊢
      tauto
    · unfold coerceValueType at hcoerced
      simp only [hcol] at hcoerced
      split at hcoerced
      · cases hcoerced
      · split at hcoerced
        · rename_i _ hmem
          simp only [falseSpellings, List.mem_cons, List.not_mem_nil, or_false] at hmem ⊢
          tauto
        · cases hcoerced

/-- A text is decoded the same by both decoders of a Boolean column, and as false only if it
is a spelling of false, if and only if it is one of six. -/
theorem boolean_text_iff (fmt : Formats) (s : String) :
    BooleanText fmt s ↔ s ∈ ["true", "1", "false", "0", "f", "no"] := by
  constructor
  · intro h
    have hsame := h.consistent
    rw [jsonCell_boolean_string, cellOf_boolean_string] at hsame
    cases hvalue : boolOfText s with
    | none =>
        rw [hvalue] at hsame
        cases hsame
    | some b =>
        rw [hvalue] at hsame
        injection hsame with hread
        cases b with
        | true =>
            have hmem := boolOfText_true_iff.1 hvalue
            simp only [List.mem_cons, List.not_mem_nil, or_false] at hmem
            rcases hmem with rfl | rfl | rfl | rfl
            · decide
            · decide
            · exact absurd hread (by decide)
            · exact absurd hread (by decide)
        | false =>
            have hmem := boolOfText_false_iff.1 hvalue
            simp only [List.mem_cons, List.not_mem_nil, or_false] at hmem ⊢
            tauto
  · intro hmem
    have hknown : (readsTrue s = true ∧ boolOfText s = some true) ∨
        (readsTrue s = false ∧ boolOfText s = some false ∧ s ∈ falseSpellings) := by
      simp only [List.mem_cons, List.not_mem_nil, or_false] at hmem
      rcases hmem with rfl | rfl | rfl | rfl | rfl | rfl
      all_goals decide
    rcases hknown with ⟨hread, hvalue⟩ | ⟨hread, hvalue, hfalse⟩
    · refine ⟨?_, readsFalse_named_iff.2 (.inl hread)⟩
      rw [jsonCell_boolean_string, cellOf_boolean_string, hread, hvalue]
      rfl
    · refine ⟨?_, readsFalse_named_iff.2 (.inr hfalse)⟩
      rw [jsonCell_boolean_string, cellOf_boolean_string, hread, hvalue]
      rfl

/-- A yes in a JSON row is read as false, and as true by the builder. -/
theorem yes_read_as_false : ¬ ∀ (fmt : Formats) (s : String), BooleanText fmt s := by
  intro h
  have hsame := (h Formats.blank "yes").consistent
  revert hsame
  decide

end KyomiConnect
