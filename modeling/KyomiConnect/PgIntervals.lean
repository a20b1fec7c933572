import KyomiConnect.Sqlx

/-! # Intervals as text

`format_pg_interval` writes years, months and days with their units, and the time as
`hours:minutes:seconds`, each part of it with the sign it has. PostgreSQL takes a sign before
the hours only, for the whole of the time, and the microseconds below a second are not
written.
-/

namespace KyomiConnect

/-! ## Interval literals -/

/-- An interval as PostgreSQL writes and reads it: quantities with units, and a time. -/
structure IntervalLiteral where
  years : Option ℤ
  mons : Option ℤ
  days : Option ℤ
  /-- hours, minutes and seconds -/
  time : Option (ℤ × ℤ × ℤ)
deriving DecidableEq

namespace IntervalLiteral

variable (t : IntervalLiteral)

def parts : List String :=
  (t.years.map (counted · "year")).toList ++ (t.mons.map (counted · "mon")).toList ++
    (t.days.map (counted · "day")).toList ++
    (t.time.map fun (h, m, s) => ":".intercalate [twoDigits h, twoDigits m, twoDigits s]).toList

def text : String := " ".intercalate t.parts

def totalMonths : ℤ := 12 * t.years.getD 0 + t.mons.getD 0

/-- The sign of the hours is the sign of the time. -/
def totalMicros : ℤ :=
  match t.time with
  | none => 0
  | some (h, m, s) => (if h < 0 then h * 3600 - m * 60 - s else h * 3600 + m * 60 + s) * 1000000

/-- The minutes and the seconds of the time are those of a clock. -/
def OnClock : Prop := ∀ h m s, t.time = some (h, m, s) → 0 ≤ m ∧ m < 60 ∧ 0 ≤ s ∧ s < 60

/-- The interval that a literal stands for. -/
def StandsFor (iv : PgInterval) : Prop :=
  iv.months.toInt = t.totalMonths ∧ iv.days.toInt = t.days.getD 0 ∧
    iv.microseconds.toInt = t.totalMicros

/-- PostgreSQL's reader at a literal: it reads quantities and a time of a clock, and refuses
minutes and seconds with a sign of their own. -/
structure ReadBy (read : String → Option PgInterval) : Prop where
  reads : t.parts ≠ [] → t.OnClock → ∀ iv, t.StandsFor iv → read t.text = some iv
  refuses : ∀ h m s, t.time = some (h, m, s) → m < 0 ∨ s < 0 → read t.text = none

end IntervalLiteral

/-! ## The literal that is written -/

/-- `n.abs()` of an `i32`, none if it overflows. -/
def checkedAbs (n : ℤ) : Option ℤ := if n = Int32.minValue.toInt then none else some n.natAbs

/-- `format_pg_interval`, with the absolute values it takes; none if one overflows. -/
def checkedFormatPgInterval (iv : PgInterval) : Option String := do
  let years := iv.months.toInt.tdiv 12
  let mons := iv.months.toInt.tmod 12
  if years ≠ 0 then
    let _ ← checkedAbs years
  if mons ≠ 0 then
    let _ ← checkedAbs mons
  if iv.days.toInt ≠ 0 then
    let _ ← checkedAbs iv.days.toInt
  return formatPgInterval iv

/-- The literal that `format_pg_interval` writes. -/
def PgInterval.literal (iv : PgInterval) : IntervalLiteral :=
  let years := iv.months.toInt.tdiv 12
  let mons := iv.months.toInt.tmod 12
  let secs := iv.microseconds.toInt.tdiv 1000000
  { years := if years ≠ 0 then some years else none
    mons := if mons ≠ 0 then some mons else none
    days := if iv.days.toInt ≠ 0 then some iv.days.toInt else none
    time :=
      if iv.microseconds.toInt ≠ 0 then
        some (secs.tdiv 3600, (secs.tmod 3600).tdiv 60, secs.tmod 60)
      else if iv.months.toInt = 0 ∧ iv.days.toInt = 0 then some (0, 0, 0)
      else none }

/-- Division and remainder that round towards zero, by those that round down. -/
theorem tdiv_tmod_cases (a b : ℤ) :
    (0 ≤ a ∧ a.tdiv b = a / b ∧ a.tmod b = a % b) ∨
      (a < 0 ∧ a.tdiv b = -(-a / b) ∧ a.tmod b = -(-a % b)) := by
  by_cases ha : 0 ≤ a
  · left
    exact ⟨ha, Int.tdiv_eq_ediv_of_nonneg ha, Int.tmod_eq_emod_of_nonneg ha⟩
  · right
    obtain ⟨n, rfl⟩ : ∃ n, a = -n := ⟨-a, (Int.neg_neg a).symm⟩
    have hn : 0 ≤ n := by omega
    rw [Int.neg_tdiv, Int.neg_tmod, Int.neg_neg, Int.tdiv_eq_ediv_of_nonneg hn,
      Int.tmod_eq_emod_of_nonneg hn]
    exact ⟨by omega, rfl, rfl⟩

section Literal

variable (iv : PgInterval)

theorem literal_totalMonths : iv.literal.totalMonths = iv.months.toInt := by
  have hmonths := Int.mul_tdiv_add_tmod iv.months.toInt 12
  unfold IntervalLiteral.totalMonths PgInterval.literal
  by_cases hyears : iv.months.toInt.tdiv 12 = 0 <;>
    by_cases hmons : iv.months.toInt.tmod 12 = 0 <;> simp [hyears, hmons] <;> omega

theorem literal_days : iv.literal.days.getD 0 = iv.days.toInt := by
  unfold PgInterval.literal
  by_cases hdays : iv.days.toInt = 0 <;> simp [hdays]

/-- The text is that of the literal. -/
theorem formatPgInterval_eq : formatPgInterval iv = iv.literal.text := by
  have hmonths := Int.mul_tdiv_add_tmod iv.months.toInt 12
  unfold formatPgInterval IntervalLiteral.text IntervalLiteral.parts PgInterval.literal
  by_cases hzero : iv.months.toInt = 0 ∧ iv.days.toInt = 0
  · -- a time alone
    obtain ⟨hmonths', hdays⟩ := hzero
    by_cases hmicros : iv.microseconds.toInt = 0
    · simp only [hmonths', hdays, hmicros]
      decide
    · simp [hmonths', hdays, hmicros]
  · by_cases hmicros : iv.microseconds.toInt = 0
    · -- no time
      by_cases hdays : iv.days.toInt = 0
      · have hmonths' : iv.months.toInt ≠ 0 := fun h => hzero ⟨h, hdays⟩
        by_cases hyears : iv.months.toInt.tdiv 12 = 0
        · have hmons : iv.months.toInt.tmod 12 ≠ 0 := by omega
          simp [hyears, hmons, hdays, hmicros, hmonths']
        · by_cases hmons : iv.months.toInt.tmod 12 = 0 <;>
            simp [hyears, hmons, hdays, hmicros, hmonths']
      · by_cases hyears : iv.months.toInt.tdiv 12 = 0 <;>
          by_cases hmons : iv.months.toInt.tmod 12 = 0 <;>
            simp [hyears, hmons, hdays, hmicros]
    · by_cases hyears : iv.months.toInt.tdiv 12 = 0 <;>
        by_cases hmons : iv.months.toInt.tmod 12 = 0 <;>
          by_cases hdays : iv.days.toInt = 0 <;>
            simp [hyears, hmons, hdays, hmicros]

/-- The absolute values of years and months are of quotients and remainders by twelve. -/
theorem checkedFormatPgInterval_eq :
    checkedFormatPgInterval iv =
      if iv.days.toInt = Int32.minValue.toInt then none else some (formatPgInterval iv) := by
  have hlow := iv.months.le_toInt
  have hhigh := iv.months.toInt_lt
  have hmin : Int32.minValue.toInt = -2147483648 := rfl
  have hparts := tdiv_tmod_cases iv.months.toInt 12
  have hyears : iv.months.toInt.tdiv 12 ≠ -2147483648 := by omega
  have hmons : iv.months.toInt.tmod 12 ≠ -2147483648 := by omega
  unfold checkedFormatPgInterval checkedAbs
  rw [hmin]
  generalize iv.months.toInt.tdiv 12 = years at hyears
  generalize iv.months.toInt.tmod 12 = mons at hmons
  generalize iv.days.toInt = days
  generalize formatPgInterval iv = text
  by_cases hdays : days = -2147483648
  · subst hdays
    by_cases hy : years = 0 <;> by_cases hm : mons = 0 <;> simp [hy, hm, hyears, hmons]
  · by_cases hy : years = 0 <;> by_cases hm : mons = 0 <;> by_cases hd : days = 0 <;>
      simp [hy, hm, hd, hyears, hmons, hdays]

theorem literal_parts_ne_nil : iv.literal.parts ≠ [] := by
  have hmonths := Int.mul_tdiv_add_tmod iv.months.toInt 12
  unfold IntervalLiteral.parts PgInterval.literal
  by_cases hmicros : iv.microseconds.toInt = 0
  · by_cases hdays : iv.days.toInt = 0
    · by_cases hyears : iv.months.toInt.tdiv 12 = 0
      · by_cases hmons : iv.months.toInt.tmod 12 = 0
        · have hmonths' : iv.months.toInt = 0 := by omega
          simp [hmicros, hdays, hmonths']
        · simp [hmons]
      · simp [hyears]
    · simp [hdays]
  · simp [hmicros]

/-- A time that is not negative, or that is a number of hours, is one of a clock, and has the
microseconds of its whole seconds. -/
theorem literal_onClock
    (h : 0 ≤ iv.microseconds.toInt ∨ (iv.microseconds.toInt.tdiv 1000000).tmod 3600 = 0) :
    iv.literal.OnClock ∧
      iv.literal.totalMicros = iv.microseconds.toInt.tdiv 1000000 * 1000000 := by
  have hsecs := tdiv_tmod_cases iv.microseconds.toInt 1000000
  unfold IntervalLiteral.OnClock IntervalLiteral.totalMicros PgInterval.literal
  by_cases hmicros : iv.microseconds.toInt = 0
  · by_cases hzero : iv.months.toInt = 0 ∧ iv.days.toInt = 0
    · simp [hmicros, hzero]
    · simp [hmicros, hzero]
  · generalize iv.microseconds.toInt.tdiv 1000000 = secs at h hsecs
    have hhours := tdiv_tmod_cases secs 3600
    have hmins := tdiv_tmod_cases (secs.tmod 3600) 60
    have hlast := tdiv_tmod_cases secs 60
    simp only [ne_eq, hmicros, not_false_eq_true, if_true, Option.some.injEq, Prod.mk.injEq]
    refine ⟨?_, ?_⟩
    · rintro _ _ _ ⟨rfl, rfl, rfl⟩
      omega
    · split <;> omega

/-- In any other the minutes or the seconds have a sign. -/
theorem literal_signed (hneg : iv.microseconds.toInt < 0)
    (hhours : (iv.microseconds.toInt.tdiv 1000000).tmod 3600 ≠ 0) :
    ∃ h m s, iv.literal.time = some (h, m, s) ∧ (m < 0 ∨ s < 0) := by
  have hsecs := tdiv_tmod_cases iv.microseconds.toInt 1000000
  unfold PgInterval.literal
  have hmicros : iv.microseconds.toInt ≠ 0 := by omega
  generalize iv.microseconds.toInt.tdiv 1000000 = secs at hhours hsecs
  refine ⟨secs.tdiv 3600, (secs.tmod 3600).tdiv 60, secs.tmod 60, ?_, ?_⟩
  · simp only [ne_eq, hmicros, not_false_eq_true, if_true]
  · have hhours' := tdiv_tmod_cases secs 3600
    have hmins := tdiv_tmod_cases (secs.tmod 3600) 60
    have hlast := tdiv_tmod_cases secs 60
    omega

/-- The interval without its microseconds below a second. -/
def wholeSeconds : PgInterval :=
  { iv with microseconds := .ofInt (iv.microseconds.toInt.tdiv 1000000 * 1000000) }

theorem wholeSeconds_micros :
    (wholeSeconds iv).microseconds.toInt = iv.microseconds.toInt.tdiv 1000000 * 1000000 := by
  have hlow := iv.microseconds.le_toInt
  have hhigh := iv.microseconds.toInt_lt
  have hsecs := tdiv_tmod_cases iv.microseconds.toInt 1000000
  exact Int64.toInt_ofInt_of_le (by omega) (by omega)

theorem wholeSeconds_eq_self_iff :
    wholeSeconds iv = iv ↔ iv.microseconds.toInt % 1000000 = 0 := by
  have hmicros := wholeSeconds_micros iv
  have hsecs := tdiv_tmod_cases iv.microseconds.toInt 1000000
  constructor
  · intro heq
    rw [heq] at hmicros
    omega
  · intro hwhole
    have hsame : (wholeSeconds iv).microseconds = iv.microseconds := by
      rw [← Int64.toInt_inj, hmicros]
      omega
    obtain ⟨months, days, microseconds⟩ := iv
    exact congrArg (PgInterval.mk months days) hsame

end Literal

/-- An interval is written without overflow, and its text is read back as the same interval,
if and only if its days are not the least `i32`, its time is in whole seconds, and a time
below zero is in whole hours. -/
theorem interval_read_back_iff (read : String → Option PgInterval) (iv : PgInterval)
    (hread : iv.literal.ReadBy read) :
    (∃ text, checkedFormatPgInterval iv = some text ∧ read text = some iv) ↔
      iv.days ≠ Int32.minValue ∧ iv.microseconds.toInt % 1000000 = 0 ∧
        (0 ≤ iv.microseconds.toInt ∨ iv.microseconds.toInt % 3600000000 = 0) := by
  have hdays : iv.days.toInt = Int32.minValue.toInt ↔ iv.days = Int32.minValue := Int32.toInt_inj
  rw [checkedFormatPgInterval_eq]
  by_cases hmin : iv.days = Int32.minValue
  · rw [if_pos (hdays.2 hmin)]
    refine iff_of_false ?_ fun h => h.1 hmin
    rintro ⟨text, htext, -⟩
    cases htext
  rw [if_neg fun h => hmin (hdays.1 h), formatPgInterval_eq]
  have htext : (∃ text, some iv.literal.text = some text ∧ read text = some iv) ↔
      read iv.literal.text = some iv := by
    constructor
    · rintro ⟨text, htext, hback⟩
      cases htext
      exact hback
    · intro hback
      exact ⟨_, rfl, hback⟩
  rw [htext]
  have hsecs := tdiv_tmod_cases iv.microseconds.toInt 1000000
  have hhours := tdiv_tmod_cases (iv.microseconds.toInt.tdiv 1000000) 3600
  by_cases hclock : 0 ≤ iv.microseconds.toInt ∨
      (iv.microseconds.toInt.tdiv 1000000).tmod 3600 = 0
  · obtain ⟨honClock, hmicros⟩ := literal_onClock iv hclock
    have hstands : iv.literal.StandsFor (wholeSeconds iv) :=
      ⟨(literal_totalMonths iv).symm, (literal_days iv).symm,
        (wholeSeconds_micros iv).trans hmicros.symm⟩
    rw [hread.reads (literal_parts_ne_nil iv) honClock _ hstands, Option.some.injEq,
      wholeSeconds_eq_self_iff]
    constructor
    · intro hwhole
      exact ⟨hmin, hwhole, by omega⟩
    · rintro ⟨-, hwhole, -⟩
      exact hwhole
  · obtain ⟨h, m, s, htime, hsign⟩ := literal_signed iv (by omega) (by omega)
    rw [hread.refuses h m s htime hsign]
    refine iff_of_false nofun ?_
    rintro ⟨-, hwhole, hnonneg⟩
    omega

/-! ## Two intervals -/

/-- A reader that knows two texts. -/
def twoIntervals (text : String) : Option PgInterval :=
  if text = "1 year 2 mons 3 days 04:05:05" then some ⟨14, 3, 14705000000⟩
  else if text = "00:00:00" then some ⟨0, 0, 0⟩
  else none

/-- An interval has the three parts that a literal stands for. -/
theorem IntervalLiteral.StandsFor.unique {t : IntervalLiteral} {iv iv' : PgInterval}
    (h : t.StandsFor iv) (h' : t.StandsFor iv') : iv = iv' := by
  obtain ⟨hmonths, hdays, hmicros⟩ := h
  obtain ⟨hmonths', hdays', hmicros'⟩ := h'
  obtain ⟨months, days, microseconds⟩ := iv
  obtain ⟨months', days', microseconds'⟩ := iv'
  congr
  · exact Int32.toInt_inj.1 (hmonths.trans hmonths'.symm)
  · exact Int32.toInt_inj.1 (hdays.trans hdays'.symm)
  · exact Int64.toInt_inj.1 (hmicros.trans hmicros'.symm)

/-- A reader at a literal of a clock, by the one interval it has to read there. -/
theorem IntervalLiteral.ReadBy.of_eq {t : IntervalLiteral} {read : String → Option PgInterval}
    {iv : PgInterval} (hclock : t.OnClock) (hstands : t.StandsFor iv)
    (hread : read t.text = some iv) : t.ReadBy read := by
  constructor
  · intro _ _ iv' hstands'
    rw [hread, hstands.unique hstands']
  · intro h m s htime hsign
    have hmins := hclock h m s htime
    omega

theorem interval_read_back_seconds :
    ∃ text, checkedFormatPgInterval ⟨14, 3, 14705000000⟩ = some text ∧
      twoIntervals text = some ⟨14, 3, 14705000000⟩ := by
  have hclock : (PgInterval.literal ⟨14, 3, 14705000000⟩).OnClock := by
    intro h m s htime
    cases htime
    decide
  have hstands : (PgInterval.literal ⟨14, 3, 14705000000⟩).StandsFor ⟨14, 3, 14705000000⟩ :=
    ⟨rfl, rfl, rfl⟩
  exact (interval_read_back_iff twoIntervals ⟨14, 3, 14705000000⟩
    (.of_eq hclock hstands (by decide))).2 (by decide)

/-- Half a second is written as no time. -/
theorem half_second_lost :
    ¬ ∀ (read : String → Option PgInterval) (iv : PgInterval), iv.literal.ReadBy read →
      ∃ text, checkedFormatPgInterval iv = some text ∧ read text = some iv := by
  intro h
  have hclock : (PgInterval.literal ⟨0, 0, 500000⟩).OnClock := by
    intro h m s htime
    cases htime
    decide
  have hstands : (PgInterval.literal ⟨0, 0, 500000⟩).StandsFor ⟨0, 0, 0⟩ := ⟨rfl, rfl, rfl⟩
  obtain ⟨text, htext, hback⟩ :=
    h twoIntervals ⟨0, 0, 500000⟩ (.of_eq hclock hstands (by decide))
  cases htext
  revert hback
  decide

end KyomiConnect
