import KyomiConnect.ErrorPositions

/-! # Where a dry run finds the error

A dry run sends the statement behind an EXPLAIN, and the database locates the error in the
text it got. The line is that of the statement, since EXPLAIN breaks no line; a column on
the first line is off by the length of the EXPLAIN, and so is a position, which is looked up
in the statement as it was submitted.
-/

namespace KyomiConnect

variable {σ : Type}

/-! ## The dry run of ClickHouse -/

namespace ClickHouseProvider

variable (p : ClickHouseProvider) (net : Net σ)

/-- The request of a dry run: no format is asked for. -/
def dryRunRequest (sql : String) : HttpRequest where
  method := .post
  url := s!"{p.baseUrl}/?database={urlencoded p.database}"
  headers := []
  body := none
  text := some (explainSql sql)

/-- `ClickHouseProvider::dry_run`; `none` if it panics. -/
def dryRun (captures : ClickHouseCaptures) (sql : String) (s : σ) : Option DryRunResult × σ :=
  let request := net.requestWithin DATASOURCE_TIMEOUT_QUERY_SECS
    s!"ClickHouse query timed out after {DATASOURCE_TIMEOUT_QUERY_SECS}s"
    "ClickHouse HTTP request failed" (p.dryRunRequest sql)
  match request.runs s with
  | (.error e, s) => (some (.failure e.toString none none), s)
  | (.ok response, s) =>
      if response.isSuccess then (some (.success "Query valid"), s)
      else
        ((parseClickhouseErrorLocation captures response.text sql).map fun (line, column) =>
          .failure response.text line column, s)

end ClickHouseProvider

/-! ## What an error reports -/

/-- What is read from an error, and then resolved in a text. -/
inductive Report where
  | lineColumn (line : UInt32) (column : Option UInt32)
  | line (line : UInt32)
  | position (pos : ℕ)
  | nothing
deriving DecidableEq, Repr

/-- The line and the column of a report in a text; none if it panics. -/
def Report.locate (sql : String) : Report → Option Position
  | .lineColumn l col => some (some l, col)
  | .line l => some (some l, none)
  | .position pos => charPositionToLineCol sql pos
  | .nothing => some (none, none)

/-- The report of a PostgreSQL error. -/
def postgresReport (e : SqlxError) : Report :=
  ((e.database.bind fun msg =>
    (extractCharacterPosition msg).or (extractCharacterPosition e.message)).map
      Report.position).getD .nothing

/-- The report of a Redshift error. -/
def redshiftReport (captures : Captures) (e : SqlxError) : Report :=
  match (captures.redshiftLine e.message).bind parseU32,
    (captures.redshiftPosition e.message).bind parseUsize, extractCharacterPosition e.message with
  | some line, _, _ => .line line
  | none, some pos, _ => .position pos
  | none, none, some pos => .position pos
  | none, none, none => .nothing

/-- The report of a ClickHouse error. -/
def clickhouseReport (captures : ClickHouseCaptures) (errorMsg : String) : Report :=
  match (captures.lineCol errorMsg).bind fun (line, col) =>
      (parseU32 line).map fun line => (line, parseU32 col) with
  | some (line, col) => .lineColumn line col
  | none =>
      match (captures.line errorMsg).bind parseU32,
        (captures.position errorMsg).bind parseUsize with
      | some line, _ => .line line
      | none, some pos => .position pos
      | none, none => .nothing

/-- PostgreSQL's errors, as reports. -/
theorem parsePgErrorPosition_eq_locate (e : SqlxError) (sql : String) :
    parsePgErrorPosition e sql = (postgresReport e).locate sql := by
  unfold parsePgErrorPosition postgresReport
  cases e.database with
  | none => rfl
  | some msg =>
      simp only [Option.bind_some]
      cases (extractCharacterPosition msg).or (extractCharacterPosition e.message) <;> rfl

/-- Redshift's errors, as reports. -/
theorem parseRedshiftErrorPosition_eq_locate (captures : Captures) (e : SqlxError)
    (sql : String) :
    parseRedshiftErrorPosition captures e sql = (redshiftReport captures e).locate sql := by
  have hline : (captures.redshiftLine e.message).bind parseU32 =
      ((captures.redshiftLine e.message).bind fun s =>
        parseUnsigned UInt32.size s.toList).map UInt32.ofNat := by
    cases captures.redshiftLine e.message <;> rfl
  have hpos : (captures.redshiftPosition e.message).bind parseUsize =
      (captures.redshiftPosition e.message).bind fun s =>
        parseUnsigned UInt64.size s.toList := rfl
  unfold parseRedshiftErrorPosition redshiftReport
  rw [hline, hpos]
  cases (captures.redshiftLine e.message).bind fun s => parseUnsigned UInt32.size s.toList with
  | some line => rfl
  | none =>
      cases (captures.redshiftPosition e.message).bind fun s =>
          parseUnsigned UInt64.size s.toList with
      | some pos => rfl
      | none => cases extractCharacterPosition e.message <;> rfl

/-- ClickHouse's errors, as reports. -/
theorem parseClickhouseErrorLocation_eq_locate (captures : ClickHouseCaptures)
    (errorMsg sql : String) :
    parseClickhouseErrorLocation captures errorMsg sql =
      (clickhouseReport captures errorMsg).locate sql := by
  unfold parseClickhouseErrorLocation clickhouseReport
  cases (captures.lineCol errorMsg).bind fun (line, col) =>
      (parseU32 line).map fun line => (line, parseU32 col) with
  | some lineCol => rfl
  | none =>
      cases (captures.line errorMsg).bind parseU32 with
      | some line => rfl
      | none =>
          cases (captures.position errorMsg).bind parseUsize with
          | none => rfl
          | some pos =>
              simp only [Report.locate, charPositionToLineCol]
              by_cases hout : pos = 0 ∨ Text.byteLen sql.toList < pos
              · rw [if_pos hout, if_neg (by omega)]
              · rw [if_neg hout, if_pos (by omega)]

/-! ## Reports behind an EXPLAIN -/

/-- A report of the character at an index of a text. A position counts from one. -/
def Report.Of (received : List Char) (k : ℕ) : Report → Prop
  | .lineColumn l col => l.toNat = Lines.line '\n' received k ∧
      ∀ c, col = some c → c.toNat = Lines.column '\n' received k
  | .line l => l.toNat = Lines.line '\n' received k
  | .position pos => pos = k + 1
  | .nothing => False

/-- A line and a column that point at the character at an index: the line is given, and the
column is that of the character as far as it is given. -/
structure PointsAt (sql : List Char) (k : ℕ) (position : Position) : Prop where
  line : ∃ line, position.1 = some line ∧ line.toNat = Lines.line '\n' sql k
  column : ∀ col, position.2 = some col → col.toNat = Lines.column '\n' sql k

/-- The reports that an EXPLAIN before the statement does not spoil: a line without a column,
and a column behind a line break. -/
def Report.Unshifted (sql : List Char) (k : ℕ) : Report → Prop
  | .lineColumn _ col => col.isSome = true → '\n' ∈ sql.take k
  | .line _ => True
  | .position _ => False
  | .nothing => False

/-- The length of the EXPLAIN. -/
abbrev explainLen : ℕ := "EXPLAIN ".toList.length

/-- The text that is explained. -/
theorem explainSql_toList (sql : String) :
    (explainSql sql).toList = "EXPLAIN ".toList ++ sql.toList := by
  unfold explainSql
  rw [String.toList_append]

/-- The word in front adds no line. -/
theorem explained_line (sql : String) (k : ℕ) :
    Lines.line '\n' (explainSql sql).toList (explainLen + k) = Lines.line '\n' sql.toList k := by
  rw [explainSql_toList, Lines.line_append]
  have hcount : "EXPLAIN ".toList.count '\n' = 0 := by decide
  omega

/-- It moves the columns of the first line. -/
theorem explained_column (sql : String) (k : ℕ) :
    Lines.column '\n' (explainSql sql).toList (explainLen + k) =
      if '\n' ∈ sql.toList.take k then Lines.column '\n' sql.toList k
      else 8 + Lines.column '\n' sql.toList k := by
  rw [explainSql_toList, Lines.column_append]
  rfl

/-- A position of the explained text, looked up in an ASCII statement, points elsewhere. -/
theorem not_pointsAt_position {sql : String} (hascii : ∀ c ∈ sql.toList, c.utf8Size = 1) {k : ℕ}
    (hk : k < sql.toList.length) {position : Position}
    (hposition : charPositionToLineCol sql (explainLen + k + 1) = some position) :
    ¬ PointsAt sql.toList k position := by
  intro hpoints
  have hlen := (byteLen_eq_length_iff sql.toList).2 hascii
  have hexplain : explainLen = 8 := rfl
  unfold charPositionToLineCol at hposition
  by_cases hout : explainLen + k + 1 = 0 ∨ Text.byteLen sql.toList < explainLen + k + 1
  · rw [if_pos hout] at hposition
    cases hposition
    obtain ⟨line, hline, -⟩ := hpoints.line
    cases hline
  rw [if_neg hout, Nat.add_sub_cancel] at hposition
  -- the slice takes in eight characters more
  obtain ⟨gap, hgap, htake⟩ : ∃ gap : List Char, gap.length = 8 ∧
      sql.toList.take (explainLen + k) = sql.toList.take k ++ gap := by
    refine ⟨(sql.toList.drop k).take 8, ?_, ?_⟩
    · rw [List.length_take, List.length_drop]
      omega
    · rw [hexplain, Nat.add_comm, List.take_add]
  have hnarrow : ∀ n, Text.byteLen (sql.toList.take n) = (sql.toList.take n).length := by
    intro n
    rw [byteLen_eq_length_iff]
    intro c hc
    exact hascii c (List.mem_of_mem_take hc)
  have hsplit : Text.splitAtByte sql.toList (explainLen + k) =
      some (sql.toList.take (explainLen + k), sql.toList.drop (explainLen + k)) := by
    rw [Text.splitAtByte_eq_some_iff, hnarrow, List.length_take]
    exact ⟨(List.take_append_drop _ _).symm, by omega⟩
  rw [hsplit] at hposition
  cases hposition
  obtain ⟨line, hline, hlineAt⟩ := hpoints.line
  have hcolumnAt := hpoints.column _ rfl
  cases hline
  have hbytes : bytesAfterBreak (sql.toList.take (explainLen + k)) =
      (Lines.after '\n' (sql.toList.take (explainLen + k))).length := by
    refine (byteLen_eq_length_iff _).2 fun c hc => hascii c ?_
    have hmem := List.takeWhile_subset _ hc
    exact List.mem_of_mem_take (List.mem_reverse.1 hmem)
  have hadd : UInt32.ofNat ((sql.toList.take (explainLen + k)).count '\n') + 1 =
      UInt32.ofNat ((sql.toList.take (explainLen + k)).count '\n' + 1) :=
    (UInt32.ofNat_add _ 1).symm
  rw [hadd, UInt32.toNat_ofNat', htake, List.count_append] at hlineAt
  rw [UInt32.toNat_ofNat', hbytes, htake] at hcolumnAt
  unfold Lines.line at hlineAt
  unfold Lines.column at hcolumnAt
  have hcount := List.count_le_length (a := '\n') (l := gap)
  have hnone : gap.count '\n' = 0 := by omega
  rw [Lines.after_append_of_not_mem (List.count_eq_zero.1 hnone), List.length_append,
    List.length_reverse, hgap] at hcolumnAt
  omega

/-- What a report of a character of the explained statement comes to. -/
theorem Report.locate_pointsAt_iff {sql : String} (hascii : ∀ c ∈ sql.toList, c.utf8Size = 1)
    {k : ℕ} (hk : k < sql.toList.length) {r : Report}
    (hof : r.Of (explainSql sql).toList (explainLen + k)) :
    (∃ position, r.locate sql = some position ∧ PointsAt sql.toList k position) ↔
      r.Unshifted sql.toList k := by
  cases r with
  | nothing => exact hof.elim
  | position pos =>
      cases hof
      refine iff_of_false ?_ id
      rintro ⟨position, hposition, hpoints⟩
      exact not_pointsAt_position hascii hk hposition hpoints
  | line l =>
      refine iff_of_true ⟨_, rfl, ⟨l, rfl, ?_⟩, nofun⟩ trivial
      exact hof.trans (explained_line sql k)
  | lineColumn l col =>
      obtain ⟨hline, hcolumn⟩ := hof
      rw [explained_line] at hline
      rw [explained_column] at hcolumn
      constructor
      · rintro ⟨position, hposition, hpoints⟩ hsome
        cases hposition
        obtain ⟨c, rfl⟩ := Option.isSome_iff_exists.1 hsome
        have hshifted := hcolumn c rfl
        have hright := hpoints.column c rfl
        by_contra hfirst
        rw [if_neg hfirst] at hshifted
        omega
      · intro hunshifted
        refine ⟨_, rfl, ⟨l, rfl, hline⟩, ?_⟩
        rintro c rfl
        rw [hcolumn c rfl, if_pos (hunshifted rfl)]

/-! ## Dry runs that fail -/

/-- The outcome of a dry run that the database answers with an error, and the report of the
error. -/
inductive FailedDryRun (sql : String) : Report → Option DryRunResult → Prop
  | postgres {σ : Type} (fetchAll : String → StateM σ SqlxAnswer) (s : σ) (e : SqlxError)
      (h : (fetchAll (explainSql sql) s).1 = .error e) :
      FailedDryRun sql (postgresReport e) (PostgresProvider.dryRun fetchAll sql s).1
  | redshift {σ : Type} (captures : Captures) (fetchAll : String → StateM σ SqlxAnswer) (s : σ)
      (e : SqlxError) (h : (fetchAll (explainSql sql) s).1 = .error e) :
      FailedDryRun sql (redshiftReport captures e)
        (RedshiftProvider.dryRun captures fetchAll sql s).1
  | clickhouse {σ : Type} (p : ClickHouseProvider) (net : Net σ) (captures : ClickHouseCaptures)
      (s s' : σ) (response : HttpResponse)
      (h : (net.requestWithin DATASOURCE_TIMEOUT_QUERY_SECS
        s!"ClickHouse query timed out after {DATASOURCE_TIMEOUT_QUERY_SECS}s"
        "ClickHouse HTTP request failed" (p.dryRunRequest sql)).runs s = (.ok response, s'))
      (hstatus : response.isSuccess = false) :
      FailedDryRun sql (clickhouseReport captures response.text) (p.dryRun net captures sql s).1

/-- The outcome is the report, resolved in the statement as it was submitted. -/
theorem FailedDryRun.outcome {sql : String} {r : Report} {outcome : Option DryRunResult}
    (h : FailedDryRun sql r outcome) :
    ∃ message, outcome =
      (r.locate sql).map fun position => .failure message position.1 position.2 := by
  cases h with
  | postgres fetchAll s e h =>
      refine ⟨e.message, ?_⟩
      rw [← parsePgErrorPosition_eq_locate]
      unfold PostgresProvider.dryRun explainDryRun
      rw [step_bind, h]
      rfl
  | redshift captures fetchAll s e h =>
      refine ⟨e.message, ?_⟩
      rw [← parseRedshiftErrorPosition_eq_locate]
      unfold RedshiftProvider.dryRun explainDryRun
      rw [step_bind, h]
      rfl
  | clickhouse p net captures s s' response h hstatus =>
      refine ⟨response.text, ?_⟩
      rw [← parseClickhouseErrorLocation_eq_locate]
      unfold ClickHouseProvider.dryRun
      simp only [h, hstatus, Bool.false_eq_true, if_false]

/-- The line and the column of a dry run that fails at a character of the statement point at
that character if and only if the EXPLAIN does not spoil the report. -/
theorem dry_run_points_iff {sql : String} {r : Report} {outcome : Option DryRunResult}
    (hfailed : FailedDryRun sql r outcome) (hascii : ∀ c ∈ sql.toList, c.utf8Size = 1) {k : ℕ}
    (hk : k < sql.toList.length) (hof : r.Of (explainSql sql).toList (explainLen + k)) :
    (∃ result, outcome = some result ∧ PointsAt sql.toList k (result.line, result.column)) ↔
      r.Unshifted sql.toList k := by
  obtain ⟨message, rfl⟩ := hfailed.outcome
  rw [← Report.locate_pointsAt_iff hascii hk hof]
  constructor
  · rintro ⟨result, hresult, hpoints⟩
    obtain ⟨position, hposition, rfl⟩ := Option.map_eq_some_iff.1 hresult
    exact ⟨position, hposition, hpoints⟩
  · rintro ⟨position, hposition, hpoints⟩
    refine ⟨.failure message position.1 position.2, ?_, hpoints⟩
    rw [hposition]
    rfl

/-! ## Two errors -/

/-- Captures that know two lines and columns. -/
def twoErrors : ClickHouseCaptures where
  lineCol msg :=
    if msg = "Syntax error (line 2, col 3)" then some ("2", "3")
    else if msg = "Syntax error (line 1, col 16)" then some ("1", "16")
    else none
  line _ := none
  position _ := none

/-- A syntax error in ClickHouse. -/
def syntaxError (text : String) : HttpResponse where
  status := 400
  headers := []
  text
  body := .error "expected value"

/-- A dry run that fails with a syntax error. -/
theorem failedDryRun_syntaxError (sql text : String) :
    FailedDryRun sql (clickhouseReport twoErrors text)
      (plainClickHouse.dryRun (Net.answering fun _ _ => syntaxError text) twoErrors sql 0).1 :=
  .clickhouse plainClickHouse (Net.answering fun _ _ => syntaxError text) twoErrors 0 1
    (syntaxError text) rfl rfl

/-- Characters of one byte each. -/
theorem all_ascii {cs : List Char} (h : (cs.all fun c => c.utf8Size == 1) = true) :
    ∀ c ∈ cs, c.utf8Size = 1 := by
  intro c hc
  exact beq_iff_eq.1 (List.all_eq_true.1 h c hc)

/-- On the second line the position is right. -/
theorem second_line_points :
    ∃ result, (plainClickHouse.dryRun
        (Net.answering fun _ _ => syntaxError "Syntax error (line 2, col 3)") twoErrors
        "SELECT\n  x" 0).1 = some result ∧
      PointsAt "SELECT\n  x".toList 9 (result.line, result.column) := by
  have hreport : clickhouseReport twoErrors "Syntax error (line 2, col 3)" =
      .lineColumn 2 (some 3) := by decide
  have hfailed := failedDryRun_syntaxError "SELECT\n  x" "Syntax error (line 2, col 3)"
  rw [hreport] at hfailed
  have hof : (Report.lineColumn 2 (some 3)).Of (explainSql "SELECT\n  x").toList
      (explainLen + 9) := by
    refine ⟨by decide, ?_⟩
    rintro col hcol
    cases hcol
    decide
  refine (dry_run_points_iff hfailed (all_ascii (by decide)) (by decide) hof).2 ?_
  intro _
  decide

/-- The column of an error on the first line counts the EXPLAIN. -/
theorem first_line_shifted :
    ¬ ∀ (sql : String) (r : Report) (outcome : Option DryRunResult) (k : ℕ),
      FailedDryRun sql r outcome → (∀ c ∈ sql.toList, c.utf8Size = 1) →
      k < sql.toList.length → r.Of (explainSql sql).toList (explainLen + k) →
      ∃ result, outcome = some result ∧ PointsAt sql.toList k (result.line, result.column) := by
  intro h
  have hreport : clickhouseReport twoErrors "Syntax error (line 1, col 16)" =
      .lineColumn 1 (some 16) := by decide
  have hfailed := failedDryRun_syntaxError "SELECT x" "Syntax error (line 1, col 16)"
  rw [hreport] at hfailed
  have hof : (Report.lineColumn 1 (some 16)).Of (explainSql "SELECT x").toList
      (explainLen + 7) := by
    refine ⟨by decide, ?_⟩
    rintro col hcol
    cases hcol
    decide
  obtain ⟨result, hresult, hpoints⟩ :=
    h "SELECT x" _ _ 7 hfailed (all_ascii (by decide)) (by decide) hof
  obtain ⟨message, houtcome⟩ := hfailed.outcome
  rw [houtcome] at hresult
  cases hresult
  have hcolumn := hpoints.column 16 rfl
  revert hcolumn
  decide

end KyomiConnect
