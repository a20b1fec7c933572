import KyomiConnect.BigQuery
import KyomiConnect.RestEncodings

/-! # What becomes of the services' cells

`snowflake_row_to_arrow` and `bigquery_row_to_arrow` append a cell for every value, by the
column's coarse type. A Snowflake date is a count of days there and is read as a calendar
date, a time is a count of seconds and is read as a clock's, and the offset of an instant
is no part of a number: these cells are null. So are BigQuery's arrays of anything but
text. `rest_cells_kept_iff` is which cells keep their values.
-/

namespace KyomiConnect

/-! ## The cell appended to a column -/

/-- Appending a row to a builder, whatever its rows are, appends the cell to the column. -/
def RowReader.AppendsCell {R : Type} (reader : RowReader R) (fmt : Formats)
    (columns : List ColumnInfo) (row : R) (j : ℕ) (c : Cell) : Prop :=
  ∀ rows, ((reader.build fmt columns (rows ++ [row])).builders[j]?).map
      TypedColumnBuilder.cells =
    ((reader.build fmt columns rows).builders[j]?).map fun b => b.cells ++ [c]

variable (fmt : Formats)

/-- A cell that is not null and that denotes the value is appended. -/
def RowReader.Keeps {R : Type} (reader : RowReader R) (columns : List ColumnInfo) (row : R)
    (j : ℕ) (value : RestValue) : Prop :=
  ∃ c, reader.AppendsCell fmt columns row j c ∧ c ≠ .null ∧ c.Denotes fmt value

variable {fmt}

/-- Null denotes nothing. -/
theorem Cell.Denotes.ne_null {c : Cell} {value : RestValue} (h : c.Denotes fmt value) :
    c ≠ .null := by
  rintro rfl
  cases value <;> exact h

/-- A row has one cell in each column. -/
theorem RowReader.keeps_iff {R : Type} (reader : RowReader R) {columns : List ColumnInfo}
    {row : R} {j : ℕ} {value : RestValue} {c : Cell}
    (hcell : (reader.cells fmt columns row)[j]? = some c) :
    reader.Keeps fmt columns row j value ↔ c.Denotes fmt value := by
  have hlength : (reader.cells fmt columns row).length = columns.length := by
    simp [RowReader.cells, rowCells, reader.length_appends]
  obtain ⟨hj, -⟩ := List.getElem?_eq_some_iff.1 hcell
  rw [hlength] at hj
  have hne : columns ≠ [] := by
    rintro rfl
    cases hj
  have happends : reader.AppendsCell fmt columns row j c := by
    intro rows
    rw [(reader.aligned fmt hne).cell rows row j hj, List.getD_eq_getElem?_getD, hcell]
    rfl
  constructor
  · rintro ⟨c', happends', -, hdenotes⟩
    -- what is appended to an empty builder
    have hsame := (happends []).symm.trans (happends' [])
    have hholds := (reader.holds_build fmt columns []).cells j
    rw [if_pos hj] at hholds
    obtain ⟨b, hb, -⟩ := Option.map_eq_some_iff.1 hholds
    rw [hb, Option.map_some, Option.map_some, Option.some.injEq] at hsame
    have heq := List.append_cancel_left hsame
    rw [List.singleton_inj.1 heq]
    exact hdenotes
  · intro hdenotes
    exact ⟨c, happends, hdenotes.ne_null, hdenotes⟩

/-! ## Cells of text -/

section Text

variable {s : String}

/-- A date that is no calendar date is null. -/
theorem jsonCell_date_eq_null (hfmt : fmt.Refuses) (hs : '-' ∉ s.toList.tail) :
    jsonCell fmt (.string s) .date = .null := by
  have hnone : fmt.parseDate "%Y-%m-%d" s = none := by
    rw [← Option.not_isSome_iff_eq_none]
    intro h
    exact hs (hfmt.date h)
  simp only [jsonCell, jsonValueToArrow, Json.isNull, Json.asStr, hnone]
  rfl

/-- A time of day without a colon is null. -/
theorem jsonCell_time_eq_null (hfmt : fmt.Refuses) (hs : ':' ∉ s.toList) :
    jsonCell fmt (.string s) .time = .null := by
  have hnone (format : String) (h : format ∈ ["%H:%M:%S", "%H:%M:%S%.f"]) :
      fmt.parseTime format s = none := by
    rw [← Option.not_isSome_iff_eq_none]
    intro hsome
    exact hs (hfmt.time h hsome)
  simp only [jsonCell, jsonValueToArrow, Json.isNull, Json.asStr, hnone _ (List.mem_cons_self ..),
    hnone _ (List.mem_cons_of_mem _ (List.mem_cons_self ..))]
  rfl

/-- No format of a datetime reads a text without a colon. -/
theorem dateTimeIn_eq_none (hfmt : fmt.Refuses) (hs : ':' ∉ s.toList) {formats : List String}
    (hformats : formats ⊆ naiveFormats) : fmt.dateTimeIn formats s = none := by
  unfold Formats.dateTimeIn
  rw [List.findSome?_eq_none_iff]
  intro format hformat
  rw [← Option.not_isSome_iff_eq_none]
  intro hsome
  exact hs (hfmt.dateTime (hformats hformat) hsome)

/-- An instant without a colon is a number of seconds or null, in both kinds of columns. -/
theorem jsonCell_seconds (hfmt : fmt.Refuses) (hs : ':' ∉ s.toList) {colType : SimpleType}
    (hcol : colType = .timestamp ∨ colType = .timestampTz) :
    jsonCell fmt (.string s) colType =
      (fmt.parseF64 s).elim .null fun f => .timestamp (fmt.epochMicros f) := by
  have hrfc : fmt.parseRfc3339 s = none := by
    rw [← Option.not_isSome_iff_eq_none]
    intro h
    exact hs (hfmt.rfc3339 h)
  have hnaive := dateTimeIn_eq_none hfmt hs (List.Subset.refl naiveFormats)
  have hsub : secondsFormats ⊆ naiveFormats := List.subset_append_left _ _
  have hseconds := dateTimeIn_eq_none hfmt hs hsub
  rcases hcol with rfl | rfl
  · simp only [naiveFormats, secondsFormats, List.cons_append, List.nil_append] at hnaive
    simp only [jsonCell, jsonValueToArrow, Json.isNull, Json.asStr, hnaive, hrfc]
    cases fmt.parseF64 s <;> rfl
  · simp only [secondsFormats] at hseconds
    simp only [jsonCell, jsonValueToArrow, Json.isNull, Json.asStr, hseconds, hrfc]
    cases fmt.parseF64 s <;> rfl

/-- A boolean's text is read, in whichever way it is spelled. -/
theorem jsonCell_boolean {b : Bool} (hs : (s, b) ∈ booleanTexts) :
    jsonCell fmt (.string s) .boolean = .boolean b := by
  unfold booleanTexts at hs
  simp only [List.mem_cons, Prod.mk.injEq, List.not_mem_nil, or_false] at hs
  rcases hs with ⟨rfl, rfl⟩ | ⟨rfl, rfl⟩ | ⟨rfl, rfl⟩ | ⟨rfl, rfl⟩ <;> rfl

end Text

/-! ## Numerals -/

namespace Numeral

variable {n : Numeral}

/-- A numeral has no colon. -/
theorem colon_notMem (n : Numeral) : ':' ∉ n.text.toList := n.notMem_text rfl (by decide)

/-- A numeral's cell in a Number column is its nearest double. -/
theorem jsonCell_number (hreads : n.Reads fmt) :
    ∃ x, jsonCell fmt (.string n.text) .number = .float64 x ∧ x.value = n.double := by
  obtain ⟨x, hx, hvalue⟩ := hreads.text
  cases hint : parseI64 n.text with
  | some i =>
      refine ⟨fmt.i64ToF64 i, ?_, hreads.integer i (value_of_parseI64 hint)⟩
      simp only [jsonCell, jsonValueToArrow, Json.isNull, Json.asF64, Json.asI64, Json.asStr, hint]
      rfl
  | none =>
      refine ⟨x, ?_, hvalue⟩
      simp only [jsonCell, jsonValueToArrow, Json.isNull, Json.asF64, Json.asI64, Json.asStr, hint,
        hx]
      rfl

/-- A numeral's number is kept if and only if it is a double. -/
theorem denotes_number_iff (hreads : n.Reads fmt) :
    (jsonCell fmt (.string n.text) .number).Denotes fmt (.number n.value) ↔ n.IsDouble := by
  obtain ⟨x, hcell, hx⟩ := n.jsonCell_number hreads
  rw [hcell]
  unfold IsDouble
  rw [← Binary.Format.round_eq_finite_iff]
  exact Eq.congr_left hx

/-- A numeral's instant is kept if and only if the two roundings keep its microseconds. -/
theorem denotes_instant_iff (hfmt : fmt.Refuses) (hreads : n.Reads fmt) {colType : SimpleType}
    (hcol : colType = .timestamp ∨ colType = .timestampTz) :
    (jsonCell fmt (.string n.text) colType).Denotes fmt (.instant n.value) ↔ n.MicrosExact := by
  obtain ⟨x, hx, hvalue⟩ := hreads.text
  rw [jsonCell_seconds hfmt n.colon_notMem hcol, hx]
  have hmicros := hreads.micros x hvalue
  change ((fmt.epochMicros x).toInt : ℚ) = n.value * 1000000 ↔ _
  rw [hmicros]
  rfl

/-- A whole number of seconds keeps its microseconds, for eighteen thousand years. -/
theorem microsExact_of_whole {z : ℤ} (hz : n.value = z) (hrange : |z| * 15625 < 2 ^ 53) :
    n.MicrosExact := by
  have hle : |z| ≤ 576460752303 := by omega
  obtain ⟨hleast, hgreatest⟩ := abs_le.1 hle
  have hseconds : Binary.binary64.Representable n.value := by
    have hz53 : |z| < 2 ^ 53 := abs_lt.2 ⟨by omega, by omega⟩
    have := Binary.binary64.representable_mul hz53 (e := 0) (by decide) (by decide)
    rwa [zpow_zero, mul_one, ← hz] at this
  -- a million is a power of two times 15625
  have hmicros : Binary.binary64.Representable ((z * 1000000 : ℤ) : ℚ) := by
    have hz53 : |z * 15625| < 2 ^ 53 := abs_lt.2 ⟨by omega, by omega⟩
    have := Binary.binary64.representable_mul hz53 (e := 6) (by decide) (by decide)
    convert this using 1
    push_cast
    ring
  unfold MicrosExact microsOf double
  rw [Binary.Format.toInteger_mul_round (z := z * 1000000) Binary.binary64 hseconds hmicros]
  · rw [hz]
    push_cast
    ring
  · rw [hz]
    push_cast
    ring
  · omega
  · omega

end Numeral

/-- A double's text is read as that double. -/
theorem FloatText.jsonCell_number {x : FloatText} (hreads : x.Reads fmt) :
    ∃ f, jsonCell fmt (.string x.text) .number = .float64 f ∧ f.value = x.value := by
  cases x with
  | numeral n => exact n.jsonCell_number hreads
  | special text value known =>
      obtain ⟨f, hf, hvalue⟩ := hreads
      have hint : parseI64 text = none := by
        have hspecial : specialFloats.all (fun s => parseI64 s.1 = none) = true := by decide
        simpa using List.all_eq_true.1 hspecial _ known
      refine ⟨f, ?_, hvalue⟩
      simp only [jsonCell, jsonValueToArrow, Json.isNull, Json.asF64, Json.asI64, Json.asStr,
        FloatText.text, hint, hf]
      rfl

/-! ## Snowflake -/

namespace SnowflakeCell

variable {cell : SnowflakeCell}

/-- The types of the columns. -/
def colType : SnowflakeCell → SimpleType
  | .text typeName _ _ =>
      if typeName ∈ ["geography", "geometry", "vector"] then .unknown else .string
  | .fixed _ | .real _ => .number
  | .boolean _ _ _ => .boolean
  | .date _ => .date
  | .time _ => .time
  | .timestampNtz _ => .timestamp
  | .timestampLtz _ | .timestampTz _ _ => .timestampTz

/-- The type of a column, from the type's name in `rowType`. -/
def typeOfName (typeName : String) : SimpleType :=
  snowflakeColumnType (.object [("type", .string typeName)])

/-- The name of each type is mapped to the type. -/
theorem typeOfName_typeName (cell : SnowflakeCell) : typeOfName cell.typeName = cell.colType := by
  cases cell with
  | text typeName known s =>
      have hall : snowflakeTextTypes.all (fun t => typeOfName t =
        if t ∈ ["geography", "geometry", "vector"] then .unknown else .string) = true := by decide
      exact of_decide_eq_true (List.all_eq_true.1 hall typeName known)
  | fixed n => exact (by decide : typeOfName "fixed" = .number)
  | real x => exact (by decide : typeOfName "real" = .number)
  | boolean s b known => exact (by decide : typeOfName "boolean" = .boolean)
  | date days => exact (by decide : typeOfName "date" = .date)
  | time n => exact (by decide : typeOfName "time" = .time)
  | timestampNtz n => exact (by decide : typeOfName "timestamp_ntz" = .timestamp)
  | timestampLtz n => exact (by decide : typeOfName "timestamp_ltz" = .timestampTz)
  | timestampTz n offset => exact (by decide : typeOfName "timestamp_tz" = .timestampTz)

/-- A column has the type that its description names. -/
theorem snowflakeColumnType_eq {col : Json} (h : col.getStr "type" = some cell.typeName) :
    snowflakeColumnType col = cell.colType := by
  have hname : (Json.object [("type", .string cell.typeName)]).getStr "type" =
      some cell.typeName := rfl
  rw [← typeOfName_typeName]
  unfold typeOfName snowflakeColumnType
  rw [h, hname]

/-- The value of a cell is kept if and only if its encoding is one of those that are. -/
theorem denotes_iff (hfmt : fmt.Refuses) (hreads : cell.Reads fmt) :
    (jsonCell fmt cell.json cell.colType).Denotes fmt cell.value ↔ cell.Kept := by
  cases cell with
  | text typeName known s =>
      refine iff_of_true ?_ trivial
      have htype : (text typeName known s).colType = .unknown ∨
          (text typeName known s).colType = .string := by
        by_cases hname : typeName ∈ ["geography", "geometry", "vector"]
        · exact Or.inl (if_pos hname)
        · exact Or.inr (if_neg hname)
      rcases htype with h | h <;> rw [h] <;> exact rfl
  | fixed n => exact n.denotes_number_iff hreads
  | real x =>
      obtain ⟨f, hcell, hf⟩ := x.jsonCell_number hreads
      refine iff_of_true ?_ trivial
      change (jsonCell fmt (.string x.text) .number).Denotes fmt (.double x.value)
      rw [hcell]
      exact hf
  | boolean s b known =>
      refine iff_of_true ?_ trivial
      change (jsonCell fmt (.string s) .boolean).Denotes fmt (.boolean b)
      rw [jsonCell_boolean known]
      exact rfl
  | date days =>
      -- the only hyphen is the sign
      have hhyphen : '-' ∉ (String.ofList days.chars).toList.tail := by
        rw [String.toList_ofList]
        intro h
        have hdigits : '-' ∈ digitChars days.digits := by
          unfold Whole.chars at h
          cases hneg : days.negative with
          | true =>
              rw [hneg] at h
              exact h
          | false =>
              rw [hneg] at h
              exact List.mem_of_mem_tail h
        have := mem_digitChars hdigits
        revert this
        decide
      refine iff_of_false ?_ id
      change ¬(jsonCell fmt (.string (.ofList days.chars)) .date).Denotes fmt (.date days.value)
      rw [jsonCell_date_eq_null hfmt hhyphen]
      exact id
  | time n =>
      refine iff_of_false ?_ id
      change ¬(jsonCell fmt (.string n.text) .time).Denotes fmt (.time n.value)
      rw [jsonCell_time_eq_null hfmt n.colon_notMem]
      exact id
  | timestampNtz n => exact n.denotes_instant_iff hfmt hreads (Or.inl rfl)
  | timestampLtz n => exact n.denotes_instant_iff hfmt hreads (Or.inr rfl)
  | timestampTz n offset =>
      have hlist : (String.ofList (n.chars ++ ' ' :: digitChars offset)).toList =
          n.text.toList ++ ' ' :: digitChars offset := by
        rw [String.toList_ofList, Numeral.text, String.toList_ofList]
      have hcolon : ':' ∉ (String.ofList (n.chars ++ ' ' :: digitChars offset)).toList := by
        rw [hlist]
        intro h
        rcases List.mem_append.1 h with h | h
        · exact n.colon_notMem h
        rcases List.mem_cons.1 h with h | h
        · revert h
          decide
        · have := mem_digitChars h
          revert this
          decide
      have hnumber : fmt.parseF64 (.ofList (n.chars ++ ' ' :: digitChars offset)) = none := by
        rw [← Option.not_isSome_iff_eq_none]
        intro h
        refine hfmt.number h ?_
        rw [hlist]
        exact List.mem_append_right _ (List.mem_cons_self ..)
      refine iff_of_false ?_ id
      change ¬(jsonCell fmt (.string (.ofList (n.chars ++ ' ' :: digitChars offset)))
        .timestampTz).Denotes fmt (.instant n.value)
      rw [jsonCell_seconds hfmt hcolon (Or.inr rfl), hnumber]
      exact id

end SnowflakeCell

/-! ## BigQuery -/

/-- The microseconds of a time of day are those of its digits. -/
theorem ClockTime.micros_eq (t : ClockTime) :
    ((t.naive.secs * 1000000 + t.naive.nanos / 1000 : ℕ) : ℚ) = t.value * 1000000 := by
  have hnanos : digitsValue t.fraction * 10 ^ (9 - t.fraction.length) / 1000 =
      digitsValue t.fraction * 10 ^ (6 - t.fraction.length) := by
    have hpow : 10 ^ (9 - t.fraction.length) = 10 ^ (6 - t.fraction.length) * 1000 := by
      have hlength := t.micros
      rw [show 9 - t.fraction.length = 6 - t.fraction.length + 3 by omega, pow_add]
      rfl
    rw [hpow, ← mul_assoc]
    exact Nat.mul_div_cancel _ (by norm_num)
  have hmillion : (1000000 : ℚ) = 10 ^ (6 - t.fraction.length) * 10 ^ t.fraction.length := by
    rw [← pow_add, Nat.sub_add_cancel t.micros]
    norm_num
  unfold naive value
  rw [hnanos]
  have hne : (10 : ℚ) ^ t.fraction.length ≠ 0 := pow_ne_zero _ (by norm_num)
  push_cast
  rw [add_mul]
  congr 1
  rw [hmillion]
  field_simp

/-- A time of day lies within the day. -/
theorem ClockTime.seconds_lt (t : ClockTime) : t.seconds < 86400 := by
  have hhour := t.hour_lt
  have hminute := t.minute_lt
  have hsecond := t.second_lt
  unfold seconds
  omega

/-- The value of some digits is below the next power of ten. -/
theorem digitsValue_lt (ds : List (Fin 10)) : digitsValue ds < 10 ^ ds.length := by
  -- a digit more is less than ten times as much
  have hgo (n : ℕ) : ds.foldl (fun n d => 10 * n + d.val) n < (n + 1) * 10 ^ ds.length := by
    -- digit by digit
    induction ds generalizing n with
    | nil => simp
    | cons d ds ih =>
        have hd := d.isLt
        calc (d :: ds).foldl (fun n d => 10 * n + d.val) n
            = ds.foldl (fun n d => 10 * n + d.val) (10 * n + d.val) := rfl
          _ < (10 * n + d.val + 1) * 10 ^ ds.length := ih _
          _ ≤ (n + 1) * 10 * 10 ^ ds.length := Nat.mul_le_mul_right _ (by omega)
          _ = (n + 1) * 10 ^ (d :: ds).length := by
            rw [List.length_cons, pow_succ]
            ring
  simpa [digitsValue] using hgo 0

/-- Less than a second is less than a million microseconds. -/
theorem ClockTime.micros_lt (t : ClockTime) :
    t.naive.secs * 1000000 + t.naive.nanos / 1000 < 86400000000 := by
  have hseconds := t.seconds_lt
  have hnanos : t.naive.nanos < 1000000000 := by
    calc digitsValue t.fraction * 10 ^ (9 - t.fraction.length)
        < 10 ^ t.fraction.length * 10 ^ (9 - t.fraction.length) :=
          Nat.mul_lt_mul_of_pos_right (digitsValue_lt _) (by positivity)
      _ = 10 ^ 9 := by
        rw [← pow_add, Nat.add_sub_cancel' (t.micros.trans (by decide))]
  change t.seconds * 1000000 + t.naive.nanos / 1000 < 86400000000
  omega

namespace BigqueryCell

/-- A calendar date is read as that day. -/
theorem denotes_date (d : CivilDate) (hreads : d.Reads fmt) :
    (jsonCell fmt (.string (.ofList d.chars)) .date).Denotes fmt (.date d.days) := by
  have hcell : jsonCell fmt (.string (.ofList d.chars)) .date = .date32 (.ofInt d.days) := by
    have hread : fmt.parseDate "%Y-%m-%d" (.ofList d.chars) = some d.naive := hreads
    simp only [jsonCell, jsonValueToArrow, Json.isNull, Json.asStr, hread]
    rfl
  have hrange := d.days_range
  rw [hcell]
  exact Int32.toInt_ofInt_of_le (by omega) (by omega)

/-- A clock's time is read as that time of day. -/
theorem denotes_time (t : ClockTime) (hreads : t.Reads fmt) :
    (jsonCell fmt (.string (.ofList t.chars)) .time).Denotes fmt (.time t.value) := by
  have hcell : jsonCell fmt (.string (.ofList t.chars)) .time =
      .time64 (.ofInt (t.naive.secs * 1000000 + t.naive.nanos / 1000)) := by
    unfold ClockTime.Reads at hreads
    dsimp only at hreads
    split at hreads
    case isTrue =>
      simp only [jsonCell, jsonValueToArrow, Json.isNull, Json.asStr, hreads]
      rfl
    case isFalse =>
      simp only [jsonCell, jsonValueToArrow, Json.isNull, Json.asStr, hreads.1, hreads.2]
      rfl
  have hmicros := t.micros_lt
  have hvalue := t.micros_eq
  rw [hcell]
  change ((Int64.ofInt _).toInt : ℚ) = t.value * 1000000
  rw [Int64.toInt_ofInt_of_le (by omega) (by omega), ← hvalue]
  push_cast
  rfl

/-- A datetime is read as that day's time. -/
theorem denotes_datetime (d : CivilDate) (t : ClockTime) (hreads : ReadsDateTime fmt d t) :
    (jsonCell fmt (.string (dateTimeText d t)) .timestamp).Denotes fmt
      (.instant (d.days * 86400 + t.value)) := by
  have haccepted : fmt.dateTimeIn naiveFormats (dateTimeText d t) = some ⟨d.naive, t.naive⟩ := by
    unfold ReadsDateTime at hreads
    dsimp only at hreads
    unfold Formats.dateTimeIn naiveFormats secondsFormats
    simp only [List.cons_append, List.nil_append]
    split at hreads
    case isTrue => simp [hreads]
    case isFalse => simp [hreads.1, hreads.2.1, hreads.2.2]
  have hdays := d.days_range
  have hmicros := t.micros_lt
  have hvalue := t.micros_eq
  rw [jsonCell_timestamp haccepted]
  change ((Int64.ofInt (d.days * 86400000000 + t.naive.secs * 1000000 +
    t.naive.nanos / 1000)).toInt : ℚ) = (d.days * 86400 + t.value) * 1000000
  have hsum : d.days * 86400000000 + t.naive.secs * 1000000 + (t.naive.nanos : ℤ) / 1000 =
      d.days * 86400000000 + (t.naive.secs * 1000000 + t.naive.nanos / 1000 : ℕ) := by
    push_cast
    ring
  rw [hsum, Int64.toInt_ofInt_of_le (by omega) (by omega), Int.cast_add, Int.cast_natCast, hvalue]
  push_cast
  ring

/-- Records and arrays are kept as JSON in columns of text, and nowhere else. -/
theorem denotes_structured {v : Json} {colType : SimpleType} (hstr : v.asStr = none)
    (htext : colType = .string ∨ colType = .unknown) (hnull : v.isNull = false)
    (hreads : ReadsJson fmt v) : (jsonCell fmt v colType).Denotes fmt (.structured v) := by
  have hcell : jsonCell fmt v colType = .utf8 (fmt.jsonToString v) := by
    rcases htext with rfl | rfl <;>
      simp only [jsonCell, jsonValueToArrow, hnull, hstr] <;>
      rfl
  rw [hcell]
  exact hreads

/-- An array is null in every other column. -/
theorem jsonCell_array_eq_null {items : List Json} {colType : SimpleType}
    (htext : ¬(colType = .string ∨ colType = .unknown)) :
    jsonCell fmt (.array items) colType = .null := by
  cases colType with
  | string => exact absurd (Or.inl rfl) htext
  | unknown => exact absurd (Or.inr rfl) htext
  | _ => rfl

/-- A repeated field is kept if and only if the column is one of text. -/
theorem denotes_repeated_iff {elements : List Json} {colType : SimpleType}
    (hreads : ReadsJson fmt (entries elements)) :
    (jsonCell fmt (entries elements) colType).Denotes fmt (.structured (entries elements)) ↔
      colType = .string ∨ colType = .unknown := by
  constructor
  · intro hdenotes
    by_contra htext
    exact hdenotes.ne_null (jsonCell_array_eq_null htext)
  · intro htext
    exact denotes_structured rfl htext rfl hreads

/-- The types of the columns. -/
def colType : BigqueryCell → SimpleType
  | .text typeName _ _ => if typeName = "INTERVAL" then .unknown else .string
  | .number _ _ _ | .float _ => .number
  | .boolean _ => .boolean
  | .date _ => .date
  | .time _ => .time
  | .datetime _ _ => .timestamp
  | .timestamp _ => .timestampTz
  | .record _ => .string
  | .repeated elementType _ => mapBigqueryType elementType

/-- The name of each type is mapped to the type. -/
theorem mapBigqueryType_typeName (cell : BigqueryCell) :
    mapBigqueryType cell.typeName = cell.colType := by
  cases cell with
  | text typeName known s =>
      have hall : bigqueryTextTypes.all (fun t => mapBigqueryType t =
        if t = "INTERVAL" then .unknown else .string) = true := by decide
      exact of_decide_eq_true (List.all_eq_true.1 hall typeName known)
  | number typeName known n =>
      have hall : bigqueryNumberTypes.all (fun t => mapBigqueryType t = .number) = true := by decide
      exact of_decide_eq_true (List.all_eq_true.1 hall typeName known)
  | float x => exact (by decide : mapBigqueryType "FLOAT" = .number)
  | boolean b => exact (by decide : mapBigqueryType "BOOLEAN" = .boolean)
  | date d => exact (by decide : mapBigqueryType "DATE" = .date)
  | time t => exact (by decide : mapBigqueryType "TIME" = .time)
  | datetime d t => exact (by decide : mapBigqueryType "DATETIME" = .timestamp)
  | timestamp n => exact (by decide : mapBigqueryType "TIMESTAMP" = .timestampTz)
  | record fields => exact (by decide : mapBigqueryType "RECORD" = .string)
  | repeated elementType elements => rfl

/-- The value of a cell is kept if and only if its encoding is one of those that are. -/
theorem denotes_iff (hfmt : fmt.Refuses) {cell : BigqueryCell} (hreads : cell.Reads fmt) :
    (jsonCell fmt cell.json cell.colType).Denotes fmt cell.value ↔ cell.Kept := by
  cases cell with
  | text typeName known s =>
      refine iff_of_true ?_ trivial
      have htype : (text typeName known s).colType = .unknown ∨
          (text typeName known s).colType = .string := by
        by_cases hname : typeName = "INTERVAL"
        · exact Or.inl (if_pos hname)
        · exact Or.inr (if_neg hname)
      rcases htype with h | h <;> rw [h] <;> exact rfl
  | number typeName known n => exact n.denotes_number_iff hreads
  | float x =>
      obtain ⟨f, hcell, hf⟩ := x.jsonCell_number hreads
      refine iff_of_true ?_ trivial
      change (jsonCell fmt (.string x.text) .number).Denotes fmt (.double x.value)
      rw [hcell]
      exact hf
  | boolean b =>
      refine iff_of_true ?_ trivial
      cases b <;> exact rfl
  | date d => exact iff_of_true (denotes_date d hreads) trivial
  | time t => exact iff_of_true (denotes_time t hreads) trivial
  | datetime d t => exact iff_of_true (denotes_datetime d t hreads) trivial
  | timestamp n => exact n.denotes_instant_iff hfmt hreads (Or.inr rfl)
  | record fields => exact iff_of_true (denotes_structured rfl (Or.inl rfl) rfl hreads) trivial
  | repeated elementType elements => exact denotes_repeated_iff hreads

end BigqueryCell

/-! ## The rows -/

/-- A cell in a Snowflake row under its column. -/
structure SnowflakeCell.At (cell : SnowflakeCell) (row : List Json) (columns : List ColumnInfo)
    (j : ℕ) : Prop where
  value : row[j]? = some cell.json
  column : ∃ name col, col.getStr "type" = some cell.typeName ∧
    columns[j]? = some { name, colType := snowflakeColumnType col }

/-- A cell in the `f[].v` of a BigQuery row under its column. -/
structure BigqueryCell.At (cell : BigqueryCell) (row : Json) (columns : List ColumnInfo)
    (j : ℕ) : Prop where
  value : ∃ cells entry, row.getArray "f" = some cells ∧ cells[j]? = some entry ∧
    entry.get "v" = some cell.json
  column : ∃ name, columns[j]? = some { name, colType := mapBigqueryType cell.typeName }

/-- The cell that the reader makes of a value in its column. -/
theorem SnowflakeCell.At.cells_eq {cell : SnowflakeCell} {row : List Json}
    {columns : List ColumnInfo} {j : ℕ} (hat : cell.At row columns j) :
    ((jsonRowReader fmt).cells fmt columns row)[j]? =
      some (jsonCell fmt cell.json cell.colType) := by
  obtain ⟨name, col, htype, hcolumn⟩ := hat.column
  rw [snowflakeColumnType_eq htype] at hcolumn
  simp [RowReader.cells, rowCells, jsonRowReader, List.getElem?_zipWith, hcolumn, hat.value,
    jsonCell]

/-- The cell that the reader makes of a value in its column. -/
theorem BigqueryCell.At.cells_eq {cell : BigqueryCell} {row : Json} {columns : List ColumnInfo}
    {j : ℕ} (hat : cell.At row columns j) :
    ((bigqueryRowReader fmt).cells fmt columns row)[j]? =
      some (jsonCell fmt cell.json cell.colType) := by
  obtain ⟨name, hcolumn⟩ := hat.column
  obtain ⟨cells, entry, hcells, hentry, hv⟩ := hat.value
  rw [mapBigqueryType_typeName] at hcolumn
  simp [RowReader.cells, rowCells, bigqueryRowReader, List.getElem?_zipWith, hcolumn, hcells,
    hentry, hv, jsonCell]

/-- A cell of either service is appended with its value, and not as null, if and only if its
encoding is one of those that are kept. -/
theorem rest_cells_kept_iff (hfmt : fmt.Refuses) :
    (∀ (cell : SnowflakeCell) row columns j, cell.Reads fmt → cell.At row columns j →
      ((jsonRowReader fmt).Keeps fmt columns row j cell.value ↔ cell.Kept)) ∧
    ∀ (cell : BigqueryCell) row columns j, cell.Reads fmt → cell.At row columns j →
      ((bigqueryRowReader fmt).Keeps fmt columns row j cell.value ↔ cell.Kept) := by
  constructor
  · intro cell row columns j hreads hat
    rw [RowReader.keeps_iff _ hat.cells_eq]
    exact cell.denotes_iff hfmt hreads
  · intro cell row columns j hreads hat
    rw [RowReader.keeps_iff _ hat.cells_eq]
    exact BigqueryCell.denotes_iff hfmt hreads

/-- 2025-01-16 04:00:00, as Snowflake sends it. -/
def epochNumeral : Numeral where
  whole := ⟨false, [1, 7, 3, 7, 0, 0, 0, 0, 0, 0], by decide⟩
  fraction := []
  exponent := none

/-- The numeral of the example is a second in January 2025. -/
theorem epochNumeral_value : epochNumeral.value = 1737000000 := by
  have hdigits : digitsValue [1, 7, 3, 7, 0, 0, 0, 0, 0, 0] = 1737000000 := by decide
  have hnone : digitsValue [] = 0 := rfl
  unfold Numeral.value epochNumeral
  simp only [hdigits, hnone]
  norm_num

/-- Its microseconds are exact in a double. -/
theorem epochNumeral_microsExact : epochNumeral.MicrosExact :=
  Numeral.microsExact_of_whole (z := 1737000000) (by rw [epochNumeral_value]; norm_num) (by decide)

/-- Readers that know this number. -/
def epochReader : Formats where
  __ := Formats.blank
  parseF64 text := if text = "1737000000" then some ⟨0x41d9e22110000000⟩ else none
  i64ToF64 _ := ⟨0x41d9e22110000000⟩
  epochMicros _ := 1737000000000000

/-- The double that the example's reader gives. -/
theorem epochReader_value : (F64.mk 0x41d9e22110000000).value = epochNumeral.double := by
  have hdouble : epochNumeral.double = .finite epochNumeral.value := by
    rw [Numeral.double, Binary.Format.round_eq_finite_iff, epochNumeral_value]
    have := Binary.binary64.representable_mul (m := 1737000000) (e := 0) (by decide) (by decide)
      (by decide)
    simpa using this
  have hbits : (F64.mk 0x41d9e22110000000).bits.toNat = 4745072314041761792 := rfl
  rw [hdouble, epochNumeral_value]
  unfold F64.value
  rw [hbits]
  norm_num

/-- The example's reader reads the numeral as documented. -/
theorem epochReader_reads : epochNumeral.Reads epochReader where
  text := ⟨_, rfl, epochReader_value⟩
  integer _ _ := epochReader_value
  micros _ _ := by
    have hexact : (microsOf epochNumeral.double : ℚ) = 1737000000000000 := by
      rw [epochNumeral_microsExact, epochNumeral_value]
      norm_num
    have hmicros : microsOf epochNumeral.double = 1737000000000000 := by exact_mod_cast hexact
    rw [hmicros]
    rfl

/-- The example's reader refuses what is no timestamp. -/
theorem epochReader_refuses : epochReader.Refuses where
  date h := by cases h
  time _ h := by cases h
  dateTime _ h := by cases h
  rfc3339 h := by cases h
  number {s} h := by
    simp only [epochReader, Option.isSome_ite] at h
    rw [h]
    decide

/-- A whole number of seconds is the instant it was. -/
theorem epoch_seconds_kept :
    (jsonRowReader epochReader).Keeps epochReader
      [⟨"T", snowflakeColumnType (.object [("type", .string "timestamp_ntz")])⟩]
      [.string "1737000000"] 0 (.instant epochNumeral.value) :=
  ((rest_cells_kept_iff epochReader_refuses).1 (.timestampNtz epochNumeral) _ _ 0
    epochReader_reads ⟨rfl, "T", _, rfl, rfl⟩).2 epochNumeral_microsExact

/-- 2026-01-15 as a count of days is null. -/
theorem day_count_dropped :
    ¬∀ fmt : Formats, fmt.Refuses → ∀ (cell : SnowflakeCell) row columns j, cell.Reads fmt →
      cell.At row columns j → (jsonRowReader fmt).Keeps fmt columns row j cell.value := by
  intro hall
  let day : SnowflakeCell := .date ⟨false, [2, 0, 4, 6, 8], by decide⟩
  let columns : List ColumnInfo :=
    [⟨"D", snowflakeColumnType (.object [("type", .string "date")])⟩]
  have hat : day.At [.string "20468"] columns 0 := ⟨rfl, "D", _, rfl, rfl⟩
  have hblank : Formats.blank.Refuses :=
    ⟨fun h => (by cases h), fun _ h => (by cases h), fun _ h => (by cases h),
      fun h => (by cases h), fun h => (by cases h)⟩
  have hkept := hall Formats.blank hblank day _ columns 0 trivial hat
  rw [RowReader.keeps_iff _ hat.cells_eq] at hkept
  exact (day.denotes_iff hblank trivial).1 hkept

end KyomiConnect
