import KyomiConnect.JsonCells

/-! # ClickHouse cells on the two paths

The buffered path coerces a value before it appends it, the streaming path appends it as it
is. A number, a boolean and a bare timestamp of a server in UTC come to the same cell either
way. A bare timestamp of any other server has its blank replaced by a `T` on the buffered
path only. The readers of timestamps do not mind where the blank stands behind a date, which is
all that is before it; where it does not, chrono may still read the text with its blanks and
never reads it with the `T`.
-/

namespace KyomiConnect

/-! ## What the readers do -/

/-- What a Timestamp column makes of a text. -/
def Formats.readTimestamp (fmt : Formats) (s : String) : Option Int64 :=
  match fmt.dateTimeIn naiveFormats s, fmt.parseRfc3339 s with
  | some dt, _ => some dt.timestampMicros
  | none, some dt => some dt.timestampMicros
  | none, none => (fmt.parseF64 s).map fmt.epochMicros

/-- An integer is the same number as an `i64` and as a `u64`, and no datetime without a zone
ends with a Z. -/
structure Formats.ReadsPlainly (fmt : Formats) : Prop where
  cast : ∀ n : Int64, 0 ≤ n → fmt.u64ToF64 n.toUInt64 = fmt.i64ToF64 n
  zulu : ∀ cs, fmt.dateTimeIn naiveFormats (.ofList (cs ++ ['Z'])) = none

/-- The formats of a datetime without a zone: with a T, and with a blank. -/
def separatedFormats : List (String × String) :=
  [("%Y-%m-%dT%H:%M:%S", "%Y-%m-%d %H:%M:%S"),
    ("%Y-%m-%dT%H:%M:%S%.f", "%Y-%m-%d %H:%M:%S%.f")]

/-- A date of its own. -/
def Formats.IsDate (fmt : Formats) (date : List Char) : Prop :=
  (fmt.parseDate "%Y-%m-%d" (.ofList date)).isSome = true

instance (fmt : Formats) (date : List Char) : Decidable (fmt.IsDate date) :=
  inferInstanceAs (Decidable (_ = true))

/-- What chrono takes between a date and a time. A T of a format stands for a T, and a blank for
any number of blanks; in RFC 3339, where a date has ten characters, either may stand after them.
No number has a blank in it, or a T at that place. -/
structure Formats.Separates (fmt : Formats) : Prop where
  after_date : ∀ p ∈ separatedFormats, ∀ date time, fmt.IsDate date →
    fmt.parseDateTime p.1 (.ofList (date ++ 'T' :: time)) =
        fmt.parseDateTime p.2 (.ofList (date ++ ' ' :: time)) ∧
      fmt.parseDateTime p.1 (.ofList (date ++ ' ' :: time)) = none
  before_t : ∀ p ∈ separatedFormats, ∀ date time dt,
    fmt.parseDateTime p.1 (.ofList (date ++ 'T' :: time)) = some dt → fmt.IsDate date
  no_t : ∀ p ∈ separatedFormats, ∀ date time,
    fmt.parseDateTime p.2 (.ofList (date ++ 'T' :: time)) = none
  rfc3339 : ∀ date time, Text.byteLen date = 10 →
    fmt.parseRfc3339 (.ofList (date ++ 'T' :: time)) =
        fmt.parseRfc3339 (.ofList (date ++ ' ' :: time)) ∧
      ∀ dt, fmt.parseRfc3339 (.ofList (date ++ 'T' :: time)) = some dt → fmt.IsDate date
  number : ∀ date time c, Text.byteLen date = 10 → c = ' ' ∨ c = 'T' →
    fmt.parseF64 (.ofList (date ++ c :: time)) = none

namespace Formats.Separates

variable {fmt : Formats} (h : fmt.Separates) {date : List Char}
include h

/-- A datetime with a T behind a date is the one with a blank there. -/
theorem dateTimeIn_eq (hdate : fmt.IsDate date) (time : List Char) :
    fmt.dateTimeIn naiveFormats (.ofList (date ++ 'T' :: time)) =
      fmt.dateTimeIn naiveFormats (.ofList (date ++ ' ' :: time)) := by
  have hformats : naiveFormats = separatedFormats.flatMap fun p => [p.1, p.2] := rfl
  have hpairs : ∀ pairs ⊆ separatedFormats,
      fmt.dateTimeIn (pairs.flatMap fun p => [p.1, p.2]) (.ofList (date ++ 'T' :: time)) =
        fmt.dateTimeIn (pairs.flatMap fun p => [p.1, p.2]) (.ofList (date ++ ' ' :: time)) := by
    intro pairs hsub
    -- format by format, the two spellings of each at once
    induction pairs with
    | nil => rfl
    | cons p pairs ih =>
        obtain ⟨hp, hpairs⟩ := List.cons_subset.1 hsub
        obtain ⟨hsame, hblank⟩ := h.after_date p hp date time hdate
        have hrest := ih hpairs
        unfold Formats.dateTimeIn at hrest ⊢
        rw [List.flatMap_cons, List.findSome?_append, List.findSome?_append, hrest]
        simp only [List.findSome?_cons, List.findSome?_nil, hsame, hblank, h.no_t p hp]
  rw [hformats]
  exact hpairs separatedFormats (List.Subset.refl _)

/-- There is none with a T behind anything else. -/
theorem dateTimeIn_eq_none (hdate : ¬ fmt.IsDate date) (time : List Char) :
    fmt.dateTimeIn naiveFormats (.ofList (date ++ 'T' :: time)) = none := by
  have hformats : naiveFormats = separatedFormats.flatMap fun p => [p.1, p.2] := rfl
  unfold Formats.dateTimeIn
  rw [hformats, List.findSome?_eq_none_iff]
  intro format hformat
  obtain ⟨p, hp, hmem⟩ := List.mem_flatMap.1 hformat
  simp only [List.mem_cons, List.not_mem_nil, or_false] at hmem
  rcases hmem with rfl | rfl
  · cases hread : fmt.parseDateTime p.1 (.ofList (date ++ 'T' :: time)) with
    | none => rfl
    | some dt => exact absurd (h.before_t p hp date time dt hread) hdate
  · exact h.no_t p hp date time

/-- What a Timestamp column makes of a text in which a T takes the place of the blank. -/
theorem readTimestamp_iso (hlen : Text.byteLen date = 10) (time : List Char) :
    (fmt.IsDate date → fmt.readTimestamp (.ofList (date ++ 'T' :: time)) =
      fmt.readTimestamp (.ofList (date ++ ' ' :: time))) ∧
    (¬ fmt.IsDate date → fmt.readTimestamp (.ofList (date ++ 'T' :: time)) = none) := by
  obtain ⟨hsame, hrfc3339⟩ := h.rfc3339 date time hlen
  have hnumber := h.number date time 'T' hlen (.inr rfl)
  constructor
  · intro hdate
    unfold Formats.readTimestamp
    rw [h.dateTimeIn_eq hdate, hsame, hnumber, h.number date time ' ' hlen (.inl rfl)]
  · intro hdate
    have hnone : fmt.parseRfc3339 (.ofList (date ++ 'T' :: time)) = none := by
      cases hread : fmt.parseRfc3339 (.ofList (date ++ 'T' :: time)) with
      | none => rfl
      | some dt => exact absurd (hrfc3339 dt hread) hdate
    unfold Formats.readTimestamp
    rw [h.dateTimeIn_eq_none hdate, hnone, hnumber, Option.map_none]

end Formats.Separates

/-! ## The cell of a value -/

section Cells

variable (fmt : Formats) (utc : Bool)

/-- The cell that `clickhouse_row_to_arrow` appends for a value. -/
def clickhouseCell (colType : SimpleType) (value : Json) : Cell :=
  let iso :=
    if utc && colType == .timestamp then value.asStr.bind (isoDateTime "Z") else none
  cellOf fmt colType
    (match iso with
    | some s => jsonValueToArrow fmt (.string s) .timestampTz
    | none => jsonValueToArrow fmt value colType)

/-- The values of a row that the buffered path appends. -/
def coercedRow (columns : List ColumnInfo) (row : List Json) : List Json :=
  row.mapIdx fun i v => coerceValueType fmt v columns[i]? utc

/-- The cell in a column. -/
theorem clickhouse_cells_getElem? (columns : List ColumnInfo) (row : List Json) (j : ℕ) :
    ((clickhouseRowReader fmt utc).cells fmt columns row)[j]? =
      columns[j]?.map fun c => clickhouseCell fmt utc c.colType (row.getD j .null) := by
  unfold RowReader.cells rowCells clickhouseRowReader
  rw [List.getElem?_zipWith, List.getElem?_mapIdx]
  cases columns[j]? <;> rfl

/-- A value that is no text is not coerced. -/
theorem coerceValueType_of_not_text {value : Json} (h : value.asStr = none)
    (col : Option ColumnInfo) : coerceValueType fmt value col utc = value := by
  cases value with
  | string s => cases h
  | _ =>
      cases col with
      | none => rfl
      | some col =>
          obtain ⟨name, colType⟩ := col
          cases colType <;> rfl

/-- The value in a column after it was coerced. -/
theorem coercedRow_getD (columns : List ColumnInfo) (row : List Json) {j : ℕ} {col : ColumnInfo}
    (hcol : columns[j]? = some col) :
    (coercedRow fmt utc columns row).getD j .null =
      coerceValueType fmt (row.getD j .null) (some col) utc := by
  unfold coercedRow
  rw [List.getD_eq_getElem?_getD, List.getElem?_mapIdx, List.getD_eq_getElem?_getD, hcol]
  cases row[j]? with
  | none => exact (coerceValueType_of_not_text fmt utc rfl _).symm
  | some v => rfl

variable {fmt utc}

/-- A cell that is no bare timestamp is read as in other results. -/
theorem clickhouseCell_eq_jsonCell {colType : SimpleType} {value : Json}
    (h : utc = true → colType = .timestamp → value.asStr.bind (isoDateTime "Z") = none) :
    clickhouseCell fmt utc colType value = jsonCell fmt value colType := by
  unfold clickhouseCell jsonCell
  by_cases hiso : (utc && colType == .timestamp) = true
  · rw [Bool.and_eq_true, beq_iff_eq] at hiso
    simp only [hiso.1, hiso.2, beq_self_eq_true, Bool.and_self, if_true, h hiso.1 hiso.2]
  · simp only [hiso, if_false, Bool.false_eq_true]

/-- A timestamp is what the reader makes of the text, or null. -/
theorem jsonCell_timestamp_eq (s : String) :
    jsonCell fmt (.string s) .timestamp = (fmt.readTimestamp s).elim .null .timestamp := by
  unfold jsonCell Formats.readTimestamp naiveFormats secondsFormats
  simp only [List.cons_append, List.nil_append, jsonValueToArrow, Json.isNull, Json.asStr]
  generalize fmt.dateTimeIn _ s = naive
  generalize fmt.parseRfc3339 s = rfc3339
  generalize fmt.parseF64 s = epoch
  cases naive with
  | some dt => rfl
  | none =>
      cases rfc3339 with
      | some dt => rfl
      | none => cases epoch <;> rfl

/-! ## Numbers and booleans -/

/-- An integer as a text and as a number of the same value. -/
theorem jsonCell_coerced_number (hreads : fmt.ReadsPlainly) (s : String) (col : ColumnInfo)
    (hcol : col.colType = .number) :
    jsonCell fmt (coerceValueType fmt (.string s) (some col) utc) .number =
      jsonCell fmt (.string s) .number := by
  unfold coerceValueType
  simp only [hcol]
  cases hint : parseI64 s with
  | some n =>
      have hcell : jsonCell fmt (.string s) .number = .float64 (fmt.i64ToF64 n) := by
        simp only [jsonCell, jsonValueToArrow, Json.isNull, Json.asF64, Json.asI64, Json.asStr,
          hint]
        rfl
      rw [hcell]
      by_cases hn : 0 ≤ n
      · simp only [hn, if_true]
        rw [← hreads.cast n hn]
        rfl
      · simp only [hn, if_false]
        rfl
  | none =>
      cases hfloat : fmt.parseF64 s with
      | none => rfl
      | some f =>
          by_cases hfinite : fmt.isFinite f = true
          · have hcell : jsonCell fmt (.string s) .number = .float64 f := by
              simp only [jsonCell, jsonValueToArrow, Json.isNull, Json.asF64, Json.asI64,
                Json.asStr, hint, hfloat]
              rfl
            rw [hcell]
            simp only [hfinite, if_true]
            rfl
          · simp only [hfinite, if_false, Bool.false_eq_true]

/-- The coercion knows fewer spellings of true, and leaves the others as they are. -/
theorem jsonCell_coerced_boolean (s : String) (col : ColumnInfo)
    (hcol : col.colType = .boolean) :
    jsonCell fmt (coerceValueType fmt (.string s) (some col) utc) .boolean =
      jsonCell fmt (.string s) .boolean := by
  unfold coerceValueType
  simp only [hcol]
  by_cases htrue : s ∈ ["1", "true", "True"]
  · rw [if_pos htrue, jsonCell_boolean_string]
    have hread : readsTrue s = true := by
      simp only [List.mem_cons, List.not_mem_nil, or_false] at htrue
      rcases htrue with rfl | rfl | rfl
      all_goals decide
    rw [hread]
    rfl
  · rw [if_neg htrue]
    by_cases hfalse : s ∈ ["0", "false", "False"]
    · rw [if_pos hfalse, jsonCell_boolean_string]
      have hread : readsTrue s = false := by
        simp only [List.mem_cons, List.not_mem_nil, or_false] at hfalse
        rcases hfalse with rfl | rfl | rfl
        all_goals decide
      rw [hread]
      rfl
    · rw [if_neg hfalse]

/-! ## Timestamps -/

/-- A text that starts as a date and a time do, and what is made of it. -/
theorem isoDateTime_eq_some {suffix s z : String} (h : isoDateTime suffix s = some z) :
    ∃ date time, s.toList = date ++ ' ' :: time ∧ Text.byteLen date = 10 ∧
      z = .ofList (date ++ 'T' :: time ++ suffix.toList) := by
  unfold isoDateTime at h
  split at h
  · split at h
    · rename_i _ date time hsplit
      cases h
      obtain ⟨happend, hlen⟩ := Text.splitAtByte_eq_some_iff.1 hsplit
      exact ⟨date, time, happend, hlen, rfl⟩
    · cases h
  · cases h

/-- A text with a T is not made into one again. -/
theorem isoDateTime_of_iso {suffix s z : String} (h : isoDateTime suffix s = some z)
    (suffix' : String) : isoDateTime suffix' z = none := by
  obtain ⟨date, time, -, hlen, rfl⟩ := isoDateTime_eq_some h
  have hsplit : Text.splitAtByte (date ++ 'T' :: time ++ suffix.toList) 10 =
      some (date, 'T' :: time ++ suffix.toList) :=
    Text.splitAtByte_eq_some_iff.2 ⟨List.append_assoc .., hlen⟩
  unfold isoDateTime
  rw [String.toList_ofList, hsplit]
  split <;> rfl

/-- A bare timestamp with a Z is read the same with a time zone and without. -/
theorem timestamp_cells_of_zulu (hreads : fmt.ReadsPlainly) {s z : String}
    (h : isoDateTime "Z" s = some z) :
    cellOf fmt .timestamp (jsonValueToArrow fmt (.string z) .timestamp) =
      cellOf fmt .timestamp (jsonValueToArrow fmt (.string z) .timestampTz) := by
  obtain ⟨date, time, -, -, rfl⟩ := isoDateTime_eq_some h
  have hnaive := hreads.zulu (date ++ 'T' :: time)
  have hseconds : fmt.dateTimeIn secondsFormats (.ofList (date ++ 'T' :: time ++ ['Z'])) =
      none := by
    unfold Formats.dateTimeIn naiveFormats at hnaive
    rw [List.findSome?_append, Option.or_eq_none_iff] at hnaive
    exact hnaive.1
  change cellOf fmt .timestamp
      (jsonValueToArrow fmt (.string (.ofList (date ++ 'T' :: time ++ ['Z']))) .timestamp) =
    cellOf fmt .timestamp
      (jsonValueToArrow fmt (.string (.ofList (date ++ 'T' :: time ++ ['Z']))) .timestampTz)
  generalize String.ofList (date ++ 'T' :: time ++ ['Z']) = z at hnaive hseconds
  simp only [naiveFormats, secondsFormats, List.cons_append, List.nil_append] at hnaive hseconds
  simp only [jsonValueToArrow, Json.isNull, Json.asStr, hnaive, hseconds]
  cases fmt.parseRfc3339 z with
  | some dt => rfl
  | none => cases fmt.parseF64 z <;> rfl

/-- A timestamp is rewritten if it has a blank in the middle. -/
theorem coerceValueType_timestamp (s : String) (col : ColumnInfo)
    (hcol : col.colType = .timestamp) :
    coerceValueType fmt (.string s) (some col) utc =
      ((isoDateTime (if utc then "Z" else "") s).map Json.string).getD (.string s) := by
  unfold coerceValueType
  simp only [hcol]

/-- A text that is made into one with a T is not made into another when it is appended. -/
theorem clickhouseCell_coerced {suffix s z : String} (h : isoDateTime suffix s = some z) :
    clickhouseCell fmt utc .timestamp (.string z) = jsonCell fmt (.string z) .timestamp := by
  apply clickhouseCell_eq_jsonCell
  intro _ _
  exact isoDateTime_of_iso h "Z"

/-- The timestamps of a server in UTC are the same on both paths. -/
theorem timestamp_cells_of_utc (hreads : fmt.ReadsPlainly) (s : String) (col : ColumnInfo)
    (hcol : col.colType = .timestamp) :
    clickhouseCell fmt true .timestamp (coerceValueType fmt (.string s) (some col) true) =
      clickhouseCell fmt true .timestamp (.string s) := by
  rw [coerceValueType_timestamp s col hcol, if_pos rfl]
  cases hiso : isoDateTime "Z" s with
  | none => rfl
  | some z =>
      have hstreamed : clickhouseCell fmt true .timestamp (.string s) =
          cellOf fmt .timestamp (jsonValueToArrow fmt (.string z) .timestampTz) := by
        unfold clickhouseCell
        simp only [beq_self_eq_true, Bool.and_self, if_true, Json.asStr, Option.bind_some, hiso]
      rw [hstreamed, Option.map_some, Option.getD_some, clickhouseCell_coerced hiso]
      exact timestamp_cells_of_zulu hreads hiso

/-- The timestamps of another server are the same as far as the readers take a T for the blank
it replaces. -/
theorem timestamp_cells_of_zone_iff (s : String) (col : ColumnInfo)
    (hcol : col.colType = .timestamp) :
    clickhouseCell fmt false .timestamp (coerceValueType fmt (.string s) (some col) false) =
        clickhouseCell fmt false .timestamp (.string s) ↔
      ∀ z, isoDateTime "" s = some z → fmt.readTimestamp z = fmt.readTimestamp s := by
  have hplain : ∀ v, clickhouseCell fmt false .timestamp v = jsonCell fmt v .timestamp := by
    intro v
    exact clickhouseCell_eq_jsonCell fun h => absurd h Bool.false_ne_true
  rw [hplain, hplain, coerceValueType_timestamp s col hcol, if_neg Bool.false_ne_true]
  cases hiso : isoDateTime "" s with
  | none => exact iff_of_true rfl nofun
  | some z =>
      rw [Option.map_some, Option.getD_some, jsonCell_timestamp_eq, jsonCell_timestamp_eq]
      have hcells : ∀ a b : Option Int64, a.elim Cell.null Cell.timestamp =
          b.elim Cell.null Cell.timestamp ↔ a = b := by
        intro a b
        cases a <;> cases b <;> simp
      rw [hcells]
      constructor
      · intro hsame z' hz'
        cases hz'
        exact hsame
      · intro hsame
        exact hsame z rfl

/-! ## The two paths -/

/-- A text that the buffered path makes into one that is not read, and that is read as it is:
its first ten bytes are no date, and chrono takes the blanks in it for those before a number. -/
def ReadByItsBlanks (fmt : Formats) (s : String) : Prop :=
  ∃ date time, s.toList = date ++ ' ' :: time ∧ Text.byteLen date = 10 ∧
    19 ≤ Text.byteLen s.toList ∧ ¬ fmt.IsDate date ∧ (fmt.readTimestamp s).isSome = true

/-- The rewritten text is read like the text, unless it is read by its blanks. -/
theorem readTimestamp_iso_iff (hseparates : fmt.Separates) (s : String) :
    (∀ z, isoDateTime "" s = some z → fmt.readTimestamp z = fmt.readTimestamp s) ↔
      ¬ ReadByItsBlanks fmt s := by
  constructor
  · rintro hsame ⟨date, time, hs, hlen, hlong, hdate, hread⟩
    have hiso : isoDateTime "" s = some (.ofList (date ++ 'T' :: time)) := by
      unfold isoDateTime
      rw [if_pos hlong, Text.splitAtByte_eq_some_iff.2 ⟨hs, hlen⟩]
      simp
    have heq := hsame _ hiso
    rw [(hseparates.readTimestamp_iso hlen time).2 hdate] at heq
    rw [← heq] at hread
    cases hread
  · intro hnot z hiso
    obtain ⟨date, time, hs, hlen, rfl⟩ := isoDateTime_eq_some hiso
    have hz : date ++ 'T' :: time ++ "".toList = date ++ 'T' :: time := by simp
    have hs' : s = .ofList (date ++ ' ' :: time) := by rw [← hs, String.ofList_toList]
    rw [hz]
    by_cases hdate : fmt.IsDate date
    · rw [(hseparates.readTimestamp_iso hlen time).1 hdate, hs']
    · rw [(hseparates.readTimestamp_iso hlen time).2 hdate]
      cases hread : fmt.readTimestamp s with
      | none => rfl
      | some micros =>
          have hlong : 19 ≤ Text.byteLen s.toList := by
            by_contra hshort
            rw [isoDateTime, if_neg hshort] at hiso
            cases hiso
          exact absurd ⟨date, time, hs, hlen, hlong, hdate, by rw [hread]; rfl⟩ hnot

/-- The cells of a column are the same on both paths, but for a text in a Timestamp column of a
server that is not in UTC that is only read by its blanks. -/
theorem clickhouse_paths_agree_iff (hreads : fmt.ReadsPlainly) (hseparates : fmt.Separates)
    (columns : List ColumnInfo) (row : Json) {j : ℕ} {col : ColumnInfo}
    (hcol : columns[j]? = some col) :
    ((clickhouseRowReader fmt utc).cells fmt columns
        (coercedRow fmt utc columns (clickhouseRow row)))[j]? =
      ((clickhouseRowReader fmt utc).cells fmt columns (clickhouseRow row))[j]? ↔
    ¬ (col.colType = .timestamp ∧ utc = false ∧ ∃ s,
      (clickhouseRow row).getD j .null = .string s ∧ ReadByItsBlanks fmt s) := by
  rw [clickhouse_cells_getElem?, clickhouse_cells_getElem?, hcol,
    coercedRow_getD fmt utc columns _ hcol]
  generalize (clickhouseRow row).getD j .null = value
  simp only [Option.map_some, Option.some.injEq]
  rcases hvalue : value.asStr with _ | s
  · -- no text
    rw [coerceValueType_of_not_text fmt utc hvalue]
    refine iff_of_true rfl ?_
    rintro ⟨_, _, s, rfl, _⟩
    cases hvalue
  · obtain rfl : value = .string s := by
      cases value <;> cases hvalue
      rfl
    clear hvalue
    by_cases htimestamp : col.colType = .timestamp
    · rw [htimestamp]
      cases utc with
      | true =>
          refine iff_of_true (timestamp_cells_of_utc hreads s col htimestamp) ?_
          rintro ⟨_, hutc, _⟩
          cases hutc
      | false =>
          rw [timestamp_cells_of_zone_iff s col htimestamp, readTimestamp_iso_iff hseparates,
            not_iff_not]
          constructor
          · intro hread
            exact ⟨rfl, rfl, s, rfl, hread⟩
          · rintro ⟨_, _, s', hs', hread⟩
            cases hs'
            exact hread
    · have hplain : ∀ v, clickhouseCell fmt utc col.colType v = jsonCell fmt v col.colType := by
        intro v
        exact clickhouseCell_eq_jsonCell fun _ h => absurd h htimestamp
      rw [hplain, hplain]
      refine iff_of_true ?_ fun h => htimestamp h.1
      cases htype : col.colType with
      | number => exact jsonCell_coerced_number hreads s col htype
      | boolean => exact jsonCell_coerced_boolean s col htype
      | timestamp => exact absurd htype htimestamp
      | _ =>
          unfold coerceValueType
          simp only [htype]

end Cells

/-! ## Two texts -/

/-- The texts that are read by the formats of a datetime: 2026-01-01 14:30:00 with a T and with
blanks, of which any number may stand before a number. -/
def textsOf (format : String) : List String :=
  if format ∈ ["%Y-%m-%dT%H:%M:%S", "%Y-%m-%dT%H:%M:%S%.f"] then ["2026-01-01T14:30:00"]
  else if format ∈ ["%Y-%m-%d %H:%M:%S", "%Y-%m-%d %H:%M:%S%.f"] then
    ["2026-01-01 14:30:00", "2026-01-1  14:30:00"]
  else []

/-- Readers that know these and 2026-01-01. -/
def blanksRead : Formats where
  __ := Formats.blank
  parseDate format text :=
    if format = "%Y-%m-%d" ∧ text = "2026-01-01" then some ⟨20454⟩ else none
  parseDateTime format text :=
    if text ∈ textsOf format then some ⟨⟨20454⟩, ⟨52200, 0⟩⟩ else none

/-- The example's reader takes a `T` for a blank. -/
theorem blanksRead_plainly : blanksRead.ReadsPlainly where
  cast _ _ := rfl
  zulu cs := by
    have hlast : ∀ s : String, s.toList.getLast? = some 'Z' →
        blanksRead.dateTimeIn naiveFormats s = none := by
      intro s hs
      unfold Formats.dateTimeIn
      rw [List.findSome?_eq_none_iff]
      intro format _
      refine if_neg ?_
      intro hmem
      have hknown : s ∈ ["2026-01-01T14:30:00", "2026-01-01 14:30:00", "2026-01-1  14:30:00"] := by
        unfold textsOf at hmem
        split at hmem
        · exact List.mem_of_mem_take (i := 1) hmem
        · split at hmem
          · exact List.mem_cons_of_mem _ hmem
          · cases hmem
      simp only [List.mem_cons, List.not_mem_nil, or_false] at hknown
      rcases hknown with rfl | rfl | rfl
      all_goals exact absurd hs (by decide)
    apply hlast
    rw [String.toList_ofList, List.getLast?_append]
    rfl

/-- Characters and text. -/
theorem ofList_eq_iff {cs : List Char} {s : String} : String.ofList cs = s ↔ cs = s.toList := by
  constructor
  · rintro rfl
    exact String.toList_ofList.symm
  · rintro rfl
    exact String.ofList_toList

/-- The only date that the example's reader knows. -/
theorem blanksRead_isDate {date : List Char} (h : blanksRead.IsDate date) :
    date = "2026-01-01".toList := by
  obtain ⟨d, hd⟩ := Option.isSome_iff_exists.1 h
  have hread : (if "%Y-%m-%d" = "%Y-%m-%d" ∧ String.ofList date = "2026-01-01" then
      some (⟨20454⟩ : NaiveDate) else none) = some d := hd
  rw [Option.ite_none_right_eq_some] at hread
  exact ofList_eq_iff.1 hread.1.2

/-- The only T is that after the date. -/
theorem eq_date_of_t {date time : List Char}
    (h : date ++ 'T' :: time = "2026-01-01T14:30:00".toList) : date = "2026-01-01".toList := by
  have hplace : ∀ n < 19, ("2026-01-01T14:30:00".toList.drop n).head? = some 'T' → n = 10 := by
    decide
  have hlt : date.length < 19 := by
    have hlength := congrArg List.length h
    rw [List.length_append, List.length_cons] at hlength
    have htotal : "2026-01-01T14:30:00".toList.length = 19 := by decide
    omega
  have hten := hplace date.length hlt (by rw [← h, List.drop_left]; rfl)
  have htake := congrArg (List.take 10) h
  rw [← hten, List.take_left] at htake
  rw [htake, hten]
  decide

/-- The texts that it reads in formats that are told apart. -/
theorem textsOf_separated {p : String × String} (hp : p ∈ separatedFormats) :
    textsOf p.1 = ["2026-01-01T14:30:00"] ∧
      textsOf p.2 = ["2026-01-01 14:30:00", "2026-01-1  14:30:00"] := by
  unfold separatedFormats at hp
  simp only [List.mem_cons, List.not_mem_nil, or_false] at hp
  rcases hp with rfl | rfl
  · exact ⟨by decide, by decide⟩
  · exact ⟨by decide, by decide⟩

/-- It reads no text both ways. -/
theorem blanksRead_separates : blanksRead.Separates where
  after_date p hp date time hdate := by
    obtain ⟨hiso, hblank⟩ := textsOf_separated hp
    cases blanksRead_isDate hdate
    have hsame : String.ofList ("2026-01-01".toList ++ 'T' :: time) ∈ textsOf p.1 ↔
        String.ofList ("2026-01-01".toList ++ ' ' :: time) ∈ textsOf p.2 := by
      rw [hiso, hblank]
      simp only [List.mem_cons, List.not_mem_nil, or_false, ofList_eq_iff]
      simp
    have hnot : String.ofList ("2026-01-01".toList ++ ' ' :: time) ∉ textsOf p.1 := by
      rw [hiso]
      simp only [List.mem_cons, List.not_mem_nil, or_false, ofList_eq_iff]
      simp
    constructor
    · simp only [blanksRead, hsame]
    · exact if_neg hnot
  before_t p hp date time dt hread := by
    have hmem := (Option.ite_none_right_eq_some.1 hread).1
    rw [(textsOf_separated hp).1, List.mem_singleton, ofList_eq_iff] at hmem
    rw [eq_date_of_t hmem]
    decide
  no_t p hp date time := by
    refine if_neg ?_
    rw [(textsOf_separated hp).2]
    simp only [List.mem_cons, List.not_mem_nil, or_false, ofList_eq_iff]
    -- neither text has a T in it
    have hnone {s : String} (hs : 'T' ∉ s.toList) : date ++ 'T' :: time ≠ s.toList := by
      intro heq
      exact hs (heq ▸ by simp)
    rintro (heq | heq)
    · exact hnone (by decide) heq
    · exact hnone (by decide) heq
  rfc3339 date time _ := ⟨rfl, nofun⟩
  number date time c _ _ := rfl

def timestampColumn : ColumnInfo := { name := "t", colType := .timestamp }

/-- A row with one timestamp. -/
def timestampRow (s : String) : Json := .array [.string s]

/-- A bare timestamp with one blank. -/
theorem clickhouse_paths_agree_bare :
    ((clickhouseRowReader blanksRead false).cells blanksRead [timestampColumn]
        (coercedRow blanksRead false [timestampColumn]
          (clickhouseRow (timestampRow "2026-01-01 14:30:00"))))[0]? =
      ((clickhouseRowReader blanksRead false).cells blanksRead [timestampColumn]
        (clickhouseRow (timestampRow "2026-01-01 14:30:00")))[0]? := by
  refine (clickhouse_paths_agree_iff blanksRead_plainly blanksRead_separates [timestampColumn] _
    rfl).2 ?_
  rintro ⟨_, _, s, hs, date, time, hsplit, hlen, _, hdate, _⟩
  cases hs
  have htext : Text.replaceChar (Char.ofNat 0) "" "2026-01-01 14:30:00" =
      "2026-01-01 14:30:00" := by
    decide
  rw [htext] at hsplit
  -- the first ten bytes are the date
  have hbytes := Text.splitAtByte_eq_some_iff.2 ⟨hsplit, hlen⟩
  have hdate' : date = "2026-01-01".toList := by
    have hfirst : Text.splitAtByte "2026-01-01 14:30:00".toList 10 =
        some ("2026-01-01".toList, " 14:30:00".toList) := by decide
    rw [hfirst] at hbytes
    exact (Prod.mk.inj (Option.some.inj hbytes)).1.symm
  rw [hdate'] at hdate
  exact hdate (by decide)

/-- The T in place of the second of two blanks is not read. -/
theorem second_blank_not_read :
    ¬ ∀ (fmt : Formats), fmt.ReadsPlainly → fmt.Separates → ∀ (utc : Bool)
      (columns : List ColumnInfo) (row : Json) (j : ℕ),
      ((clickhouseRowReader fmt utc).cells fmt columns
          (coercedRow fmt utc columns (clickhouseRow row)))[j]? =
        ((clickhouseRowReader fmt utc).cells fmt columns (clickhouseRow row))[j]? := by
  intro h
  have hcells := h blanksRead blanksRead_plainly blanksRead_separates false [timestampColumn]
    (timestampRow "2026-01-1  14:30:00") 0
  revert hcells
  decide

end KyomiConnect
