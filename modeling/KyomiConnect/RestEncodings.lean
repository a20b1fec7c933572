import KyomiConnect.JsonCells
import KyomiConnect.Lib.Binary
import KyomiConnect.Snowflake

/-! # The encodings of the REST services

Snowflake and BigQuery send every value as a JSON value: numbers, dates and instants are
texts, records and repeated fields are arrays. Here are the texts with what they stand for,
the services' cells by their declared types, and what is known of the readers of numbers
and dates: what they return for a text of theirs, and which texts they refuse.
-/

namespace KyomiConnect

/-! ## Numerals -/

def digitChar (d : Fin 10) : Char := Char.ofNat (0x30 + d)

def digitChars (ds : List (Fin 10)) : List Char := ds.map digitChar

/-- The number that the digits are in decimal. -/
def digitsValue (ds : List (Fin 10)) : ℕ := ds.foldl (fun n d => 10 * n + d.val) 0

@[simp] theorem isDigit_digitChar : ∀ d, (digitChar d).isDigit = true := by decide

theorem toNat_digitChar : ∀ d, (digitChar d).toNat - 0x30 = d := by decide

/-- A whole number in decimal, with a minus or without. -/
structure Whole where
  negative : Bool
  digits : List (Fin 10)
  digits_ne : digits ≠ []

def Whole.chars (w : Whole) : List Char :=
  (if w.negative then ['-'] else []) ++ digitChars w.digits

def Whole.value (w : Whole) : ℤ :=
  if w.negative then -(digitsValue w.digits : ℤ) else digitsValue w.digits

/-- A number in decimal: a fraction may follow, and a power of ten. -/
structure Numeral where
  whole : Whole
  fraction : List (Fin 10)
  exponent : Option Whole

namespace Numeral

/-- What follows the whole number. -/
def rest (n : Numeral) : List Char :=
  (if n.fraction = [] then [] else '.' :: digitChars n.fraction) ++
    n.exponent.elim [] fun e => 'E' :: e.chars

def chars (n : Numeral) : List Char := n.whole.chars ++ n.rest

def text (n : Numeral) : String := .ofList n.chars

def value (n : Numeral) : ℚ :=
  (if n.whole.negative then -1 else 1) *
    (digitsValue n.whole.digits + digitsValue n.fraction / 10 ^ n.fraction.length) *
      10 ^ n.exponent.elim 0 Whole.value

end Numeral

/-- The letters of a numeral. -/
def numeralSigns : List Char := ['-', '.', 'E']

theorem mem_digitChars {c : Char} {ds : List (Fin 10)} (h : c ∈ digitChars ds) :
    c.isDigit = true := by
  obtain ⟨d, -, rfl⟩ := List.mem_map.1 h
  exact isDigit_digitChar d

theorem Whole.mem_chars {c : Char} {w : Whole} (h : c ∈ w.chars) :
    c.isDigit = true ∨ c ∈ numeralSigns := by
  unfold Whole.chars at h
  rcases List.mem_append.1 h with hsign | hdigit
  · split at hsign
    · rw [List.mem_singleton] at hsign
      subst hsign
      exact Or.inr (by decide)
    · cases hsign
  · exact Or.inl (mem_digitChars hdigit)

/-- A numeral is of digits and these. -/
theorem Numeral.mem_chars {c : Char} {n : Numeral} (h : c ∈ n.chars) :
    c.isDigit = true ∨ c ∈ numeralSigns := by
  unfold Numeral.chars Numeral.rest at h
  rcases List.mem_append.1 h with hwhole | hrest
  · exact Whole.mem_chars hwhole
  rcases List.mem_append.1 hrest with hfraction | hexponent
  · split at hfraction
    · cases hfraction
    · rcases List.mem_cons.1 hfraction with rfl | hdigit
      · exact Or.inr (by decide)
      · exact Or.inl (mem_digitChars hdigit)
  · cases he : n.exponent with
    | none =>
        rw [he] at hexponent
        cases hexponent
    | some e =>
        rw [he] at hexponent
        rcases List.mem_cons.1 hexponent with rfl | hchar
        · exact Or.inr (by decide)
        · exact Whole.mem_chars hchar

theorem Numeral.notMem_text {c : Char} (n : Numeral) (hdigit : c.isDigit = false)
    (hsign : c ∉ numeralSigns) : c ∉ n.text.toList := by
  intro h
  rw [Numeral.text, String.toList_ofList] at h
  rcases Numeral.mem_chars h with hc | hc
  · rw [hdigit] at hc
    cases hc
  · exact hsign hc

/-! ## Integers among the numerals -/

theorem parseDigits_digitChars {ds : List (Fin 10)} (hne : ds ≠ []) :
    parseDigits (digitChars ds) = some (digitsValue ds) := by
  have hdigits : (digitChars ds).all Char.isDigit = true :=
    List.all_eq_true.2 fun c hc => mem_digitChars hc
  have hchars : digitChars ds ≠ [] := by
    intro h
    exact hne (List.map_eq_nil_iff.1 h)
  unfold parseDigits
  rw [if_pos ⟨hchars, hdigits⟩]
  unfold digitChars digitsValue
  rw [List.foldl_map]
  simp only [toNat_digitChar]

/-- Only digits are read as a number. -/
theorem isDigit_of_parseDigits {cs : List Char} {k : ℕ} (h : parseDigits cs = some k) :
    cs.all Char.isDigit = true := by
  unfold parseDigits at h
  split at h
  case isTrue hcs => exact hcs.2
  case isFalse => cases h

/-- Neither a fraction nor a power of ten starts with a digit. -/
theorem Numeral.rest_eq_nil {n : Numeral} (h : n.rest.all Char.isDigit = true) :
    n.fraction = [] ∧ n.exponent = none := by
  unfold Numeral.rest at h
  rw [List.all_append, Bool.and_eq_true] at h
  constructor
  · by_contra hne
    rw [if_neg hne] at h
    cases h.1
  · cases he : n.exponent with
    | none => rfl
    | some e =>
        rw [he] at h
        cases h.2

/-- A whole number without more is read digit by digit. -/
theorem Numeral.parseDigits_rest {n : Numeral} {k : ℕ}
    (h : parseDigits (digitChars n.whole.digits ++ n.rest) = some k) :
    k = digitsValue n.whole.digits ∧ n.value = n.whole.value := by
  have hdigits := isDigit_of_parseDigits h
  rw [List.all_append, Bool.and_eq_true] at hdigits
  obtain ⟨hfraction, hexponent⟩ := Numeral.rest_eq_nil hdigits.2
  have hrest : n.rest = [] := by simp [Numeral.rest, hfraction, hexponent]
  rw [hrest, List.append_nil, parseDigits_digitChars n.whole.digits_ne] at h
  refine ⟨(Option.some.inj h).symm, ?_⟩
  unfold Numeral.value Whole.value
  rw [hfraction, hexponent]
  cases n.whole.negative <;> simp [digitsValue]

/-- What `parse::<i64>` reads in a numeral is its value. -/
theorem Numeral.value_of_parseI64 {n : Numeral} {i : Int64} (h : parseI64 n.text = some i) :
    n.value = i.toInt := by
  unfold parseI64 at h
  rw [Numeral.text, String.toList_ofList] at h
  cases hsign : n.whole.negative with
  | true =>
      have hchars : n.chars = '-' :: (digitChars n.whole.digits ++ n.rest) := by
        simp [Numeral.chars, Whole.chars, hsign]
      rw [hchars] at h
      obtain ⟨k, hk, hi⟩ := Option.bind_eq_some_iff.1 h
      obtain ⟨rfl, hvalue⟩ := Numeral.parseDigits_rest hk
      split at hi
      case isFalse => cases hi
      case isTrue hle =>
        rw [← Option.some.inj hi, hvalue, Int64.toInt_ofInt_of_le]
        · simp [Whole.value, hsign]
        · simp only [Json.i64Bound] at hle
          omega
        · omega
  | false =>
      have hchars : n.chars = digitChars n.whole.digits ++ n.rest := by
        simp [Numeral.chars, Whole.chars, hsign]
      rw [hchars] at h
      obtain ⟨d, ds, hds⟩ := List.exists_cons_of_ne_nil n.whole.digits_ne
      have hfirst : ∀ cs : List Char, ∀ c, c.isDigit = false →
          digitChars n.whole.digits ++ n.rest ≠ c :: cs := by
        intro cs c hc heq
        rw [hds] at heq
        have hhead := (List.cons.inj heq).1
        rw [← hhead, isDigit_digitChar] at hc
        cases hc
      split at h
      case h_1 cs heq => exact absurd heq (hfirst cs '-' rfl)
      case h_2 cs heq => exact absurd heq (hfirst cs '+' rfl)
      case h_3 =>
        obtain ⟨k, hk, hi⟩ := Option.bind_eq_some_iff.1 h
        obtain ⟨rfl, hvalue⟩ := Numeral.parseDigits_rest hk
        split at hi
        case isFalse => cases hi
        case isTrue hlt =>
          simp only [Json.i64Bound] at hlt
          rw [← Option.some.inj hi, hvalue, Int64.toInt_ofNat_of_lt hlt]
          simp [Whole.value, hsign]

/-! ## Dates and times of day -/

/-- `n` in decimal, with zeros in front up to a width. -/
def padded (width n : ℕ) : List Char :=
  let ds := (toString n).toList
  List.replicate (width - ds.length) '0' ++ ds

/-- A day of the Gregorian calendar. -/
structure CivilDate where
  year : ℕ
  month : ℕ
  day : ℕ
  year_range : 1 ≤ year ∧ year ≤ 9999
  month_range : 1 ≤ month ∧ month ≤ 12
  day_range : 1 ≤ day ∧ day ≤ 31
  /-- the short months -/
  day_le : (month = 4 ∨ month = 6 ∨ month = 9 ∨ month = 11 → day ≤ 30) ∧
    (month = 2 → day ≤ if year % 4 = 0 ∧ (year % 100 ≠ 0 ∨ year % 400 = 0) then 29 else 28)

namespace CivilDate

/-- `YYYY-MM-DD` -/
def chars (d : CivilDate) : List Char :=
  padded 4 d.year ++ '-' :: padded 2 d.month ++ '-' :: padded 2 d.day

/-- Days since 1970-01-01. The year begins in March here, so that a leap day is its last. -/
def days (d : CivilDate) : ℤ :=
  let year := if d.month ≤ 2 then d.year - 1 else d.year
  let month := if d.month ≤ 2 then d.month + 9 else d.month - 3
  ((365 * year + year / 4 - year / 100 + year / 400 + (153 * month + 2) / 5 + d.day - 1 : ℕ) : ℤ) -
    719468

theorem days_range (d : CivilDate) : -719468 ≤ d.days ∧ d.days < 4000000 := by
  have hyear := d.year_range
  have hmonth := d.month_range
  have hday := d.day_range
  unfold days
  dsimp only
  split <;> omega

def naive (d : CivilDate) : NaiveDate := ⟨d.days⟩

end CivilDate

/-- A time of day, to the microsecond. -/
structure ClockTime where
  hour : ℕ
  minute : ℕ
  second : ℕ
  fraction : List (Fin 10)
  hour_lt : hour < 24
  minute_lt : minute < 60
  second_lt : second < 60
  micros : fraction.length ≤ 6

namespace ClockTime

/-- `HH:MM:SS`, and a fraction where there is one. -/
def chars (t : ClockTime) : List Char :=
  padded 2 t.hour ++ ':' :: padded 2 t.minute ++ ':' :: padded 2 t.second ++
    if t.fraction = [] then [] else '.' :: digitChars t.fraction

def seconds (t : ClockTime) : ℕ := t.hour * 3600 + t.minute * 60 + t.second

/-- Seconds since midnight. -/
def value (t : ClockTime) : ℚ :=
  t.seconds + digitsValue t.fraction / 10 ^ t.fraction.length

def naive (t : ClockTime) : NaiveTime :=
  ⟨t.seconds, digitsValue t.fraction * 10 ^ (9 - t.fraction.length)⟩

end ClockTime

/-! ## Values and the cells that denote them -/

/-- The value of a double's bits. -/
def F64.value (f : F64) : Binary.Value :=
  let negative := decide (2 ^ 63 ≤ f.bits.toNat)
  let exponent : ℕ := f.bits.toNat / 2 ^ 52 % 2 ^ 11
  let fraction : ℕ := f.bits.toNat % 2 ^ 52
  let sign : ℚ := if negative then -1 else 1
  if exponent = 2047 then if fraction = 0 then .infinite negative else .nan
  else if exponent = 0 then .finite (sign * fraction * 2 ^ (-1074 : ℤ))
  else .finite (sign * (2 ^ 52 + fraction) * 2 ^ ((exponent : ℤ) - 1075))

/-- What a value of a service stands for. Times and instants are in seconds, since midnight
and since 1970-01-01. -/
inductive RestValue where
  | text (s : String)
  | number (q : ℚ)
  | double (v : Binary.Value)
  | boolean (b : Bool)
  | date (days : ℤ)
  | time (seconds : ℚ)
  | instant (seconds : ℚ)
  | structured (v : Json)

/-- The cell denotes the value. Records and arrays are denoted by their JSON text. -/
def Cell.Denotes (fmt : Formats) : Cell → RestValue → Prop
  | .utf8 s, .text s' => s = s'
  | .utf8 s, .structured v => fmt.parseJson s = some v
  | .float64 x, .number q => x.value = .finite q
  | .float64 x, .double v => x.value = v
  | .boolean b, .boolean b' => b = b'
  | .date32 d, .date days => d.toInt = days
  | .time64 micros, .time seconds => (micros.toInt : ℚ) = seconds * 1000000
  | .timestamp micros, .instant seconds => (micros.toInt : ℚ) = seconds * 1000000
  | _, _ => False

/-! ## The readers of numbers and dates -/

/-- What the readers refuse: a date without a second hyphen, times without a colon, numbers
with a blank. -/
structure Formats.Refuses (fmt : Formats) : Prop where
  date : ∀ {s}, (fmt.parseDate "%Y-%m-%d" s).isSome → '-' ∈ s.toList.tail
  time : ∀ {format s}, format ∈ ["%H:%M:%S", "%H:%M:%S%.f"] →
    (fmt.parseTime format s).isSome → ':' ∈ s.toList
  dateTime : ∀ {format s}, format ∈ naiveFormats →
    (fmt.parseDateTime format s).isSome → ':' ∈ s.toList
  rfc3339 : ∀ {s}, (fmt.parseRfc3339 s).isSome → ':' ∈ s.toList
  number : ∀ {s}, (fmt.parseF64 s).isSome → ' ' ∉ s.toList

/-- `(f * 1_000_000.0) as i64` -/
def microsOf (v : Binary.Value) : ℤ :=
  Binary.toInteger (-2 ^ 63) (2 ^ 63 - 1) (Binary.binary64.mul v 1000000)

namespace Numeral

/-- The nearest double. -/
def double (n : Numeral) : Binary.Value := Binary.binary64.round n.value

/-- What the readers make of a numeral: its nearest double, from the text and from an integer
of its value, and the double's microseconds. -/
structure Reads (fmt : Formats) (n : Numeral) : Prop where
  text : ∃ x, fmt.parseF64 n.text = some x ∧ x.value = n.double
  integer : ∀ i : Int64, n.value = i.toInt → (fmt.i64ToF64 i).value = n.double
  micros : ∀ x : F64, x.value = n.double → (fmt.epochMicros x).toInt = microsOf n.double

/-- A number that is a double. -/
def IsDouble (n : Numeral) : Prop := Binary.binary64.Representable n.value

/-- Seconds whose microseconds are what they are after rounding the seconds and rounding the
product. -/
def MicrosExact (n : Numeral) : Prop := (microsOf n.double : ℚ) = n.value * 1000000

end Numeral

def CivilDate.Reads (fmt : Formats) (d : CivilDate) : Prop :=
  fmt.parseDate "%Y-%m-%d" (.ofList d.chars) = some d.naive

/-- A text with a fraction of a second is read with the format that has one. -/
def ClockTime.Reads (fmt : Formats) (t : ClockTime) : Prop :=
  let read (format : String) := fmt.parseTime format (.ofList t.chars)
  if t.fraction = [] then read "%H:%M:%S" = some t.naive
  else read "%H:%M:%S" = none ∧ read "%H:%M:%S%.f" = some t.naive

/-- `YYYY-MM-DDTHH:MM:SS`, and a fraction where there is one. -/
def dateTimeText (d : CivilDate) (t : ClockTime) : String := .ofList (d.chars ++ 'T' :: t.chars)

def ReadsDateTime (fmt : Formats) (d : CivilDate) (t : ClockTime) : Prop :=
  let read (format : String) := fmt.parseDateTime format (dateTimeText d t)
  if t.fraction = [] then read "%Y-%m-%dT%H:%M:%S" = some ⟨d.naive, t.naive⟩
  else read "%Y-%m-%dT%H:%M:%S" = none ∧ read "%Y-%m-%d %H:%M:%S" = none ∧
    read "%Y-%m-%dT%H:%M:%S%.f" = some ⟨d.naive, t.naive⟩

/-- serde_json reads what it has printed. -/
def ReadsJson (fmt : Formats) (v : Json) : Prop := fmt.parseJson (fmt.jsonToString v) = some v

/-! ## The cells of the services -/

/-- The values that are no numbers, and how they are spelled. -/
def specialFloats : List (String × Binary.Value) :=
  [("NaN", .nan), ("inf", .infinite false), ("-inf", .infinite true),
    ("Infinity", .infinite false), ("-Infinity", .infinite true)]

/-- A double as text. -/
inductive FloatText where
  | numeral (n : Numeral)
  | special (text : String) (value : Binary.Value) (known : (text, value) ∈ specialFloats)

namespace FloatText

def text : FloatText → String
  | .numeral n => n.text
  | .special text _ _ => text

def value : FloatText → Binary.Value
  | .numeral n => n.double
  | .special _ value _ => value

def Reads (fmt : Formats) : FloatText → Prop
  | .numeral n => n.Reads fmt
  | .special text value _ => ∃ x, fmt.parseF64 text = some x ∧ x.value = value

end FloatText

def booleanTexts : List (String × Bool) :=
  [("true", true), ("false", false), ("1", true), ("0", false)]

/-- Snowflake's types whose values are texts of their own. -/
def snowflakeTextTypes : List String :=
  ["text", "binary", "variant", "object", "array", "geography", "geometry", "vector"]

/-- The cells of Snowflake's SQL API that are not null. -/
inductive SnowflakeCell where
  | text (typeName : String) (known : typeName ∈ snowflakeTextTypes) (s : String)
  | fixed (n : Numeral)
  | real (x : FloatText)
  | boolean (s : String) (b : Bool) (known : (s, b) ∈ booleanTexts)
  /-- the days since 1970-01-01 -/
  | date (days : Whole)
  /-- the seconds since midnight -/
  | time (n : Numeral)
  /-- the seconds since 1970-01-01 -/
  | timestampNtz (n : Numeral)
  | timestampLtz (n : Numeral)
  /-- the same, and the zone's offset -/
  | timestampTz (n : Numeral) (offset : List (Fin 10))

namespace SnowflakeCell

/-- The type in `rowType`. -/
def typeName : SnowflakeCell → String
  | .text typeName _ _ => typeName
  | .fixed _ => "fixed"
  | .real _ => "real"
  | .boolean _ _ _ => "boolean"
  | .date _ => "date"
  | .time _ => "time"
  | .timestampNtz _ => "timestamp_ntz"
  | .timestampLtz _ => "timestamp_ltz"
  | .timestampTz _ _ => "timestamp_tz"

def content : SnowflakeCell → String
  | .text _ _ s | .boolean s _ _ => s
  | .fixed n | .time n | .timestampNtz n | .timestampLtz n => n.text
  | .real x => x.text
  | .date days => .ofList days.chars
  | .timestampTz n offset => .ofList (n.chars ++ ' ' :: digitChars offset)

def json (cell : SnowflakeCell) : Json := .string cell.content

def value : SnowflakeCell → RestValue
  | .text _ _ s => .text s
  | .fixed n => .number n.value
  | .real x => .double x.value
  | .boolean _ b _ => .boolean b
  | .date days => .date days.value
  | .time n => .time n.value
  | .timestampNtz n | .timestampLtz n | .timestampTz n _ => .instant n.value

/-- What the readers make of the cell's text. -/
def Reads (fmt : Formats) : SnowflakeCell → Prop
  | .fixed n | .timestampNtz n | .timestampLtz n => n.Reads fmt
  | .real x => x.Reads fmt
  | _ => True

/-- The cells that keep their values. -/
def Kept : SnowflakeCell → Prop
  | .text _ _ _ | .real _ | .boolean _ _ _ => True
  | .fixed n => n.IsDouble
  | .timestampNtz n | .timestampLtz n => n.MicrosExact
  | .date _ | .time _ | .timestampTz _ _ => False

end SnowflakeCell

/-- BigQuery's types whose values are texts of their own. -/
def bigqueryTextTypes : List String := ["STRING", "BYTES", "GEOGRAPHY", "JSON", "RANGE", "INTERVAL"]

def bigqueryNumberTypes : List String := ["INTEGER", "INT64", "NUMERIC", "BIGNUMERIC"]

/-- The cells of BigQuery's rows that are not null, `{"v": …}` each. -/
inductive BigqueryCell where
  | text (typeName : String) (known : typeName ∈ bigqueryTextTypes) (s : String)
  | number (typeName : String) (known : typeName ∈ bigqueryNumberTypes) (n : Numeral)
  | float (x : FloatText)
  | boolean (b : Bool)
  | date (d : CivilDate)
  | time (t : ClockTime)
  | datetime (d : CivilDate) (t : ClockTime)
  /-- the seconds since 1970-01-01 -/
  | timestamp (n : Numeral)
  | record (fields : List Json)
  /-- of a type, whatever its elements are -/
  | repeated (elementType : String) (elements : List Json)

namespace BigqueryCell

/-- The type in `schema.fields`, where REPEATED is a mode and no type. -/
def typeName : BigqueryCell → String
  | .text typeName _ _ | .number typeName _ _ => typeName
  | .float _ => "FLOAT"
  | .boolean _ => "BOOLEAN"
  | .date _ => "DATE"
  | .time _ => "TIME"
  | .datetime _ _ => "DATETIME"
  | .timestamp _ => "TIMESTAMP"
  | .record _ => "RECORD"
  | .repeated elementType _ => elementType

/-- The values of a record or of a repeated field. -/
def entries (values : List Json) : Json := .array (values.map fun v => .object [("v", v)])

def json : BigqueryCell → Json
  | .text _ _ s => .string s
  | .number _ _ n | .timestamp n => .string n.text
  | .float x => .string x.text
  | .boolean b => .string (if b then "true" else "false")
  | .date d => .string (.ofList d.chars)
  | .time t => .string (.ofList t.chars)
  | .datetime d t => .string (dateTimeText d t)
  | .record fields => .object [("f", entries fields)]
  | .repeated _ elements => entries elements

def value : BigqueryCell → RestValue
  | .text _ _ s => .text s
  | .number _ _ n => .number n.value
  | .float x => .double x.value
  | .boolean b => .boolean b
  | .date d => .date d.days
  | .time t => .time t.value
  | .datetime d t => .instant (d.days * 86400 + t.value)
  | .timestamp n => .instant n.value
  | .record fields => .structured (.object [("f", entries fields)])
  | .repeated _ elements => .structured (entries elements)

/-- What the readers make of the cell's text. -/
def Reads (fmt : Formats) : BigqueryCell → Prop
  | .text _ _ _ | .boolean _ => True
  | .number _ _ n | .timestamp n => n.Reads fmt
  | .float x => x.Reads fmt
  | .date d => d.Reads fmt
  | .time t => t.Reads fmt
  | .datetime d t => ReadsDateTime fmt d t
  | .record fields => ReadsJson fmt (.object [("f", entries fields)])
  | .repeated _ elements => ReadsJson fmt (entries elements)

/-- The cells that keep their values. -/
def Kept : BigqueryCell → Prop
  | .number _ _ n => n.IsDouble
  | .timestamp n => n.MicrosExact
  | .repeated elementType _ =>
      mapBigqueryType elementType = .string ∨ mapBigqueryType elementType = .unknown
  | _ => True

end BigqueryCell

end KyomiConnect
