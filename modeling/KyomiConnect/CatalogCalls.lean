import KyomiConnect.CatalogAccounting
import KyomiConnect.Executor

/-! # What a crawl asks the provider

`discover_catalog` asks for the containers, for the tables of each and for the columns of each
table, and indexes the columns of the batches it gets without looking how many there are. The
calls of a crawl are listed here with the answers the provider gives to them in the state it is
in by then. `discoverCatalog_ends_calls`: the crawl comes to an end exactly when each of these
answers has the columns that are indexed.
-/

namespace KyomiConnect

open Handler (Ends)

/-- A metadata query: how many columns of its batch are indexed, and the provider's answer. -/
structure MetadataCall where
  indexed : ℕ
  answer : Except Error QueryResult

/-- The answer is a failure, has no batch, or has a batch with the columns that are indexed. -/
def MetadataCall.Fits (call : MetadataCall) : Prop :=
  ∀ result batch, call.answer = .ok result → result.status ≠ .error → result.error = none →
    result.recordBatch = some batch → call.indexed ≤ batch.columns.length

section Calls

variable {σ Bytes : Type} (provider : DatasourceProvider σ Bytes) (dbType : String)

/-- The provider's answer to a metadata query, and the state after it. -/
def asked (sql : String) (s : σ) : Except Error QueryResult × σ :=
  (provider.executeQuery sql none none false none).run s

/-- An answer as `metadataQuery` passes it on. -/
def checkedAnswer (context : String) : Except Error QueryResult → Except String QueryResult
  | .error e => .error (context ++ ": " ++ e.toString)
  | .ok result =>
      if result.status = .error ∨ result.error.isSome then
        .error (context ++ ": " ++ result.error.getD "query failed with no error message")
      else .ok result

/-- The containers that an answer lists. -/
def containersOf (answer : Except Error QueryResult) : Except String (List String) :=
  (checkedAnswer "Failed to list containers" answer).map fun result =>
    let items := extractStringColFromBatch result.recordBatch 0
    if dbType = "redshift" then items.filter fun n => !isRedshiftSystemSchema n else items

/-- The tables that an answer lists. -/
def tablesOf (container : String) (answer : Except Error QueryResult) :
    Except String (List (String × String)) :=
  (checkedAnswer ("Failed to list tables in '" ++ container ++ "'") answer).map fun result =>
    match result.recordBatch with
    | none => []
    | some batch =>
        match batch.columns[0]?.bind ArrowArray.strings,
            batch.columns[1]?.bind ArrowArray.strings with
        | some names, some types => tableEntries names types
        | _, _ => []

/-- The calls for the columns of tables, one a table. -/
def columnCalls (container : String) : List (String × String) → σ → List MetadataCall × σ
  | [], s => ([], s)
  | (name, _) :: rest, s =>
      match columnsSql dbType container name with
      | none => columnCalls container rest s
      | some sql =>
          let (answer, s₁) := asked provider sql s
          let (calls, s') := columnCalls container rest s₁
          (⟨3, answer⟩ :: calls, s')

/-- The calls for containers: one for the tables of each, and those for the tables' columns. -/
def tableCalls : List String → σ → List MetadataCall × σ
  | [], s => ([], s)
  | name :: rest, s =>
      match tablesSql dbType name with
      | none => tableCalls rest s
      | some sql =>
          let (answer, s₁) := asked provider sql s
          let (inner, s₂) := columnCalls provider dbType name
            ((tablesOf name answer).toOption.getD []) s₁
          let (calls, s') := tableCalls rest s₂
          (⟨2, answer⟩ :: (inner ++ calls), s')

/-- The calls of a crawl. No column of the list of containers is indexed unchecked. -/
def catalogCalls (params : DiscoverCatalogParams) (s : σ) : List MetadataCall :=
  match containersSql dbType with
  | none => []
  | some sql =>
      let (answer, s₁) := asked provider sql s
      match containersOf dbType answer with
      | .error _ => [⟨0, answer⟩]
      | .ok names =>
          if params.containersOnly then [⟨0, answer⟩]
          else ⟨0, answer⟩ ::
            (tableCalls provider dbType (filterContainersToScope names params.containers) s₁).1

/-! ## One query -/

/-- A handler that is known to end from a state ends in this way only. -/
theorem ends_iff_of_run {α : Type} {x : Handler σ α} {s t : σ} {r : Except String α}
    (hrun : (ExceptT.run x).run s = some (r, t)) {outcome : Except String α} {s' : σ} :
    Ends x s outcome s' ↔ outcome = r ∧ s' = t := by
  unfold Ends
  rw [hrun]
  constructor
  · intro h
    cases h
    exact ⟨rfl, rfl⟩
  · rintro ⟨rfl, rfl⟩
    rfl

/-- What follows a handler that gave a value starts from there. -/
theorem ends_bind_iff_of_ok {α β : Type} {x : Handler σ α} {f : α → Handler σ β} {s t : σ} {a : α}
    (hrun : (ExceptT.run x).run s = some (.ok a, t)) {outcome : Except String β} {s' : σ} :
    Ends (x >>= f) s outcome s' ↔ Ends (f a) t outcome s' := by
  rw [Handler.ends_bind_iff]
  simp only [ends_iff_of_run hrun]
  constructor
  · rintro (⟨e, ⟨he, _⟩, _⟩ | ⟨b, s₁, ⟨hb, rfl⟩, h⟩)
    · cases he
    · cases hb
      exact h
  · intro h
    exact .inr ⟨a, t, ⟨rfl, rfl⟩, h⟩

/-- Nothing follows a handler that failed. -/
theorem ends_bind_iff_of_error {α β : Type} {x : Handler σ α} {f : α → Handler σ β} {s t : σ}
    {e : String} (hrun : (ExceptT.run x).run s = some (.error e, t))
    {outcome : Except String β} {s' : σ} :
    Ends (x >>= f) s outcome s' ↔ outcome = .error e ∧ s' = t := by
  rw [Handler.ends_bind_iff]
  simp only [ends_iff_of_run hrun]
  constructor
  · rintro (⟨e', ⟨he, rfl⟩, rfl⟩ | ⟨b, s₁, ⟨hb, _⟩, _⟩)
    · exact ⟨congrArg Except.error (Except.error.inj he), rfl⟩
    · cases hb
  · rintro ⟨rfl, rfl⟩
    exact .inl ⟨e, ⟨rfl, rfl⟩, rfl⟩

/-- A metadata query ends with the checked answer. -/
theorem run_metadataQuery (sql context : String) (s : σ) :
    (ExceptT.run (metadataQuery provider sql context)).run s =
      some (checkedAnswer context (asked provider sql s).1, (asked provider sql s).2) := by
  unfold metadataQuery
  have hcall : (ExceptT.run (Handler.call
      (provider.executeQuery sql none none false none))).run s =
        some (.ok (asked provider sql s).1, (asked provider sql s).2) := rfl
  rw [ExceptT.run_bind, StateT.run_bind, hcall]
  cases (asked provider sql s).1 with
  | error e => rfl
  | ok result =>
      by_cases hfailed : result.status = .error ∨ result.error.isSome
      · have hcheck : checkedAnswer context (.ok result) = .error (context ++ ": " ++
            result.error.getD "query failed with no error message") := if_pos hfailed
        rw [hcheck]
        simp only [Option.bind_eq_bind, Option.bind_some, Handler.ofExcept, pure_bind,
          ensureQueryOk, if_pos hfailed]
        rfl
      · have hcheck : checkedAnswer context (.ok result) = .ok result := if_neg hfailed
        rw [hcheck]
        simp only [Option.bind_eq_bind, Option.bind_some, Handler.ofExcept, pure_bind,
          ensureQueryOk, if_neg hfailed]
        rfl

/-- A column that is there is read, and without it nothing ends. -/
theorem ends_columnStrings_iff {batch : RecordBatch} {i : ℕ} {s s' : σ}
    {outcome : Except String (Option (List (Option String)))} :
    Ends (columnStrings batch i : Handler σ _) s outcome s' ↔
      ∃ col, batch.columns[i]? = some col ∧ outcome = .ok col.strings ∧ s' = s := by
  unfold columnStrings
  cases batch.columns[i]? with
  | none =>
      constructor
      · intro h
        cases h
      · rintro ⟨col, hcol, _⟩
        cases hcol
  | some col => simp [Handler.ends_pure_iff]

theorem ends_columnStrings_bind_iff {α : Type} {batch : RecordBatch} {i : ℕ}
    {f : Option (List (Option String)) → Handler σ α} {s s' : σ} {outcome : Except String α} :
    Ends (columnStrings batch i >>= f) s outcome s' ↔
      ∃ col, batch.columns[i]? = some col ∧ Ends (f col.strings) s outcome s' := by
  rw [Handler.ends_bind_iff]
  simp only [ends_columnStrings_iff]
  constructor
  · rintro (⟨e, ⟨col, _, he, _⟩, _⟩ | ⟨a, s₁, ⟨col, hcol, ha, rfl⟩, h⟩)
    · cases he
    · cases ha
      exact ⟨col, hcol, h⟩
  · rintro ⟨col, hcol, h⟩
    exact .inr ⟨col.strings, s, ⟨col, hcol, rfl, rfl⟩, h⟩

/-- The answers that the check lets through. -/
theorem checkedAnswer_eq_ok_iff {context : String} {answer : Except Error QueryResult}
    {result : QueryResult} :
    checkedAnswer context answer = .ok result ↔
      answer = .ok result ∧ result.status ≠ .error ∧ result.error = none := by
  cases answer with
  | error e => simp [checkedAnswer]
  | ok result' =>
      by_cases hfailed : result'.status = .error ∨ result'.error.isSome
      · rw [checkedAnswer, if_pos hfailed]
        constructor
        · intro h
          cases h
        · rintro ⟨h, hstatus, herror⟩
          cases h
          rcases hfailed with h | h
          · exact absurd h hstatus
          · rw [herror] at h
            cases h
      · rw [checkedAnswer, if_neg hfailed]
        rw [not_or, Bool.not_eq_true, Option.isSome_eq_false_iff, Option.isNone_iff_eq_none]
          at hfailed
        constructor
        · intro h
          cases h
          exact ⟨rfl, hfailed⟩
        · rintro ⟨h, _⟩
          exact congrArg Except.ok (Except.ok.inj h)

/-- Where the check lets a result through, its batch is what has to fit. -/
theorem fits_iff_of_ok {indexed : ℕ} {context : String} {answer : Except Error QueryResult}
    {result : QueryResult} (h : checkedAnswer context answer = .ok result) :
    (MetadataCall.mk indexed answer).Fits ↔
      ∀ batch, result.recordBatch = some batch → indexed ≤ batch.columns.length := by
  obtain ⟨hanswer, hstatus, herror⟩ := checkedAnswer_eq_ok_iff.1 h
  constructor
  · intro hfits batch hbatch
    exact hfits result batch hanswer hstatus herror hbatch
  · intro hall result' batch hanswer' _ _ hbatch
    obtain rfl : result = result' := Except.ok.inj (hanswer.symm.trans hanswer')
    exact hall batch hbatch

/-- An answer that the check stops fits. -/
theorem fits_of_error {indexed : ℕ} {context e : String} {answer : Except Error QueryResult}
    (h : checkedAnswer context answer = .error e) : (MetadataCall.mk indexed answer).Fits := by
  intro result batch hanswer hstatus herror _
  have hok : checkedAnswer context answer = .ok result :=
    checkedAnswer_eq_ok_iff.2 ⟨hanswer, hstatus, herror⟩
  rw [h] at hok
  cases hok

/-- Listing the tables of a container ends exactly when the answer has two columns to index. -/
theorem discoverTables_ends_iff {container sql : String}
    (hsql : tablesSql dbType container = some sql) {s s' : σ}
    {outcome : Except String (List (String × String))} :
    Ends (discoverTables provider dbType container) s outcome s' ↔
      (MetadataCall.mk 2 (asked provider sql s).1).Fits ∧
        outcome = tablesOf container (asked provider sql s).1 ∧ s' = (asked provider sql s).2 := by
  unfold discoverTables tablesOf
  simp only [hsql]
  have hquery := run_metadataQuery provider sql ("Failed to list tables in '" ++ container ++ "'") s
  cases hchecked : checkedAnswer ("Failed to list tables in '" ++ container ++ "'")
      (asked provider sql s).1 with
  | error e =>
      rw [hchecked] at hquery
      rw [ends_bind_iff_of_error hquery]
      have hfits : (MetadataCall.mk 2 (asked provider sql s).1).Fits := fits_of_error hchecked
      simp [hfits, Except.map]
  | ok result =>
      rw [hchecked] at hquery
      rw [ends_bind_iff_of_ok hquery, fits_iff_of_ok hchecked]
      cases hbatch : result.recordBatch with
      | none => simp [Handler.ends_pure_iff, Except.map, hbatch]
      | some batch =>
          simp only [ends_columnStrings_bind_iff, Option.some.injEq, forall_eq', Except.map, hbatch]
          constructor
          · rintro ⟨names, hnames, types, htypes, h⟩
            refine ⟨(List.getElem?_eq_some_iff.1 htypes).1, ?_⟩
            rw [hnames, htypes]
            simp only [Option.bind_some]
            cases hnames' : names.strings <;> cases htypes' : types.strings <;>
              simp only [hnames', htypes'] at h ⊢ <;> exact Handler.ends_pure_iff.1 h
          · rintro ⟨hlength, rfl, rfl⟩
            -- both columns are there
            obtain ⟨names, hnames⟩ : ∃ col, batch.columns[0]? = some col :=
              ⟨_, List.getElem?_eq_getElem (by omega)⟩
            obtain ⟨types, htypes⟩ : ∃ col, batch.columns[1]? = some col :=
              ⟨_, List.getElem?_eq_getElem (by omega)⟩
            refine ⟨names, hnames, types, htypes, ?_⟩
            rw [hnames, htypes]
            simp only [Option.bind_some]
            cases names.strings <;> cases types.strings <;> exact Handler.ends_pure_iff.2 ⟨rfl, rfl⟩

/-- Listing the columns of a table ends exactly when the answer has three columns to index. -/
theorem discoverColumns_ends_iff {container table sql : String}
    (hsql : columnsSql dbType container table = some sql) {s s' : σ} :
    (∃ outcome, Ends (discoverColumns provider dbType container table) s outcome s') ↔
      (MetadataCall.mk 3 (asked provider sql s).1).Fits ∧ s' = (asked provider sql s).2 := by
  unfold discoverColumns
  simp only [hsql]
  have hquery := run_metadataQuery provider sql
    ("Failed to list columns for '" ++ container ++ "." ++ table ++ "'") s
  cases hchecked : checkedAnswer
    ("Failed to list columns for '" ++ container ++ "." ++ table ++ "'")
      (asked provider sql s).1 with
  | error e =>
      rw [hchecked] at hquery
      simp only [ends_bind_iff_of_error hquery]
      have hfits : (MetadataCall.mk 3 (asked provider sql s).1).Fits := fits_of_error hchecked
      simp [hfits]
  | ok result =>
      rw [hchecked] at hquery
      simp only [ends_bind_iff_of_ok hquery]
      rw [fits_iff_of_ok hchecked]
      cases hbatch : result.recordBatch with
      | none => simp [Handler.ends_pure_iff]
      | some batch =>
          simp only [ends_columnStrings_bind_iff, Option.some.injEq, forall_eq']
          constructor
          · rintro ⟨outcome, names, _, types, _, descs, hdescs, h⟩
            refine ⟨(List.getElem?_eq_some_iff.1 hdescs).1, ?_⟩
            cases hnames' : names.strings <;> cases htypes' : types.strings <;>
              cases hdescs' : descs.strings <;> simp only [hnames', htypes', hdescs'] at h <;>
              exact (Handler.ends_pure_iff.1 h).2
          · rintro ⟨hlength, rfl⟩
            -- all three columns are there
            have hcol : ∀ i < 3, ∃ col, batch.columns[i]? = some col := fun i hi =>
              ⟨_, List.getElem?_eq_getElem (by omega)⟩
            obtain ⟨names, hnames⟩ := hcol 0 (by omega)
            obtain ⟨types, htypes⟩ := hcol 1 (by omega)
            obtain ⟨descs, hdescs⟩ := hcol 2 (by omega)
            -- whichever of them are texts, the handler ends with its entries
            simp only [hnames, htypes, hdescs, Option.some.injEq, exists_eq_left']
            cases names.strings <;> cases types.strings <;> cases descs.strings <;>
              exact ⟨_, Handler.ends_pure_iff.2 ⟨rfl, rfl⟩⟩

/-! ## The crawl -/

/-- The columns of tables are visited exactly when each answer has its columns to index. -/
theorem visits_columnCalls_iff (container : String) (tables : List (String × String)) (s s' : σ) :
    (∃ visits, InTurn (TableVisited provider dbType container) s tables visits s') ↔
      (∀ call ∈ (columnCalls provider dbType container tables s).1, call.Fits) ∧
        s' = (columnCalls provider dbType container tables s).2 := by
  -- over the tables still to be visited, in the state that the earlier calls have left
  induction tables generalizing s with
  | nil =>
      constructor
      · rintro ⟨visits, h⟩
        cases h
        exact ⟨List.forall_mem_nil _, rfl⟩
      · rintro ⟨_, rfl⟩
        exact ⟨[], .done _⟩
  | cons table rest ih =>
      obtain ⟨name, type⟩ := table
      have hcons : (∃ visits,
          InTurn (TableVisited provider dbType container) s ((name, type) :: rest)
          visits s') ↔ ∃ s₁, (∃ outcome, Ends (discoverColumns provider dbType container name) s
            outcome s₁) ∧ ∃ visits, InTurn (TableVisited provider dbType container) s₁ rest visits
              s' := by
        constructor
        · rintro ⟨visits, h⟩
          cases h with
          | next head tail => exact ⟨_, ⟨_, head.2.2⟩, _, tail⟩
        · rintro ⟨s₁, ⟨columns, hends⟩, visits, htail⟩
          exact ⟨⟨name, type, columns⟩ :: visits, .next ⟨rfl, rfl, hends⟩ htail⟩
      rw [hcons]
      simp only [ih]
      rw [columnCalls]
      cases hsql : columnsSql dbType container name with
      | none =>
          -- no query for this type of database: the handler fails and nothing is asked
          have hends : ∀ s₁, (∃ outcome,
              Ends (discoverColumns provider dbType container name) s outcome s₁) ↔ s₁ = s := by
            intro s₁
            unfold discoverColumns
            simp [hsql, Handler.ends_throw_iff]
          simp [hends]
      | some sql =>
          simp only [discoverColumns_ends_iff provider dbType hsql, List.forall_mem_cons]
          constructor
          · rintro ⟨s₁, ⟨hfits, rfl⟩, hrest, rfl⟩
            exact ⟨⟨hfits, hrest⟩, rfl⟩
          · rintro ⟨⟨hfits, hrest⟩, rfl⟩
            exact ⟨_, ⟨hfits, rfl⟩, hrest, rfl⟩

/-- So are the containers: each answer about tables and each about columns has to fit. -/
theorem visits_tableCalls_iff (names : List String) (s s' : σ) :
    (∃ visits, InTurn (ContainerVisited provider dbType) s names visits s') ↔
      (∀ call ∈ (tableCalls provider dbType names s).1, call.Fits) ∧
        s' = (tableCalls provider dbType names s).2 := by
  -- over the containers still to be visited; each has its own calls for the columns
  induction names generalizing s with
  | nil =>
      constructor
      · rintro ⟨visits, h⟩
        cases h
        exact ⟨List.forall_mem_nil _, rfl⟩
      · rintro ⟨_, rfl⟩
        exact ⟨[], .done _⟩
  | cons name rest ih =>
      -- a visit asks for the tables, and for the columns of those that were listed
      have hcons : (∃ visits,
          InTurn (ContainerVisited provider dbType) s (name :: rest) visits s') ↔
          ∃ listed s₁ s₂, Ends (discoverTables provider dbType name) s listed s₁ ∧
            (∃ visits, InTurn (TableVisited provider dbType name) s₁
              (listed.toOption.getD []) visits s₂) ∧
            ∃ visits, InTurn (ContainerVisited provider dbType) s₂ rest visits s' := by
        constructor
        · rintro ⟨visits, h⟩
          cases h with
          | next head tail =>
              cases head with
              | listed hlisted inner => exact ⟨_, _, _, hlisted, ⟨_, inner⟩, _, tail⟩
              | failed hfailed => exact ⟨_, _, _, hfailed, ⟨[], .done _⟩, _, tail⟩
        · rintro ⟨listed, s₁, s₂, hlisted, ⟨inner, hinner⟩, visits, htail⟩
          cases listed with
          | ok tables => exact ⟨_, .next (.listed hlisted hinner) htail⟩
          | error e =>
              cases hinner
              exact ⟨_, .next (.failed hlisted) htail⟩
      rw [hcons]
      simp only [ih, visits_columnCalls_iff]
      rw [tableCalls]
      cases hsql : tablesSql dbType name with
      | none =>
          have hends : ∀ listed s₁, Ends (discoverTables provider dbType name) s listed s₁ ↔
              listed = .error ("Unsupported database type: " ++ dbType) ∧ s₁ = s := by
            intro listed s₁
            unfold discoverTables
            simp only [hsql, Handler.ends_throw_iff]
          simp only [hends]
          constructor
          · rintro ⟨listed, s₁, s₂, ⟨rfl, rfl⟩, ⟨_, rfl⟩, hrest⟩
            exact hrest
          · intro hrest
            exact ⟨_, s, s, ⟨rfl, rfl⟩, ⟨List.forall_mem_nil _, rfl⟩, hrest⟩
      | some sql =>
          simp only [discoverTables_ends_iff provider dbType hsql, List.forall_mem_cons,
            List.forall_mem_append]
          constructor
          · rintro ⟨listed, s₁, s₂, ⟨hfits, rfl, rfl⟩, ⟨hinner, rfl⟩, hrest, rfl⟩
            exact ⟨⟨hfits, hinner, hrest⟩, rfl⟩
          · rintro ⟨⟨hfits, hinner, hrest⟩, rfl⟩
            exact ⟨_, _, _, ⟨hfits, rfl, rfl⟩, ⟨hinner, rfl⟩, hrest, rfl⟩

/-- Listing the containers always ends. -/
theorem discoverContainers_ends_iff {sql : String} (hsql : containersSql dbType = some sql)
    {s s' : σ} {outcome : Except String (List String)} :
    Ends (discoverContainers provider dbType) s outcome s' ↔
      outcome = containersOf dbType (asked provider sql s).1 ∧ s' = (asked provider sql s).2 := by
  unfold discoverContainers containersOf
  simp only [hsql]
  have hquery := run_metadataQuery provider sql "Failed to list containers" s
  cases hchecked : checkedAnswer "Failed to list containers" (asked provider sql s).1 with
  | error e =>
      rw [hchecked] at hquery
      exact ends_bind_iff_of_error hquery
  | ok result =>
      rw [hchecked] at hquery
      rw [ends_bind_iff_of_ok hquery]
      exact Handler.ends_pure_iff

/-- A crawl ends exactly when each answer that it gets has the columns that it indexes. -/
theorem discoverCatalog_ends_calls (params : DiscoverCatalogParams) (s : σ) :
    (∃ outcome s', Ends (discoverCatalog provider dbType params) s outcome s') ↔
      ∀ call ∈ catalogCalls provider dbType params s, call.Fits := by
  unfold catalogCalls
  cases hsql : containersSql dbType with
  | none =>
      have hcontainers : Ends (discoverContainers provider dbType) s
          (.error ("Unsupported database type for catalog discovery: " ++ dbType)) s := by
        unfold discoverContainers
        simp only [hsql]
        exact Handler.ends_throw_iff.2 ⟨rfl, rfl⟩
      refine ⟨fun _ => List.forall_mem_nil _, fun _ => ?_⟩
      exact ⟨_, s, Handler.ends_bind_iff.2 (.inl ⟨_, hcontainers, rfl⟩)⟩
  | some sql =>
      have hnothing : ∀ answer, (MetadataCall.mk 0 answer).Fits :=
        fun _ _ _ _ _ _ _ => Nat.zero_le _
      have hlist : (ExceptT.run (discoverContainers provider dbType)).run s =
          some (containersOf dbType (asked provider sql s).1, (asked provider sql s).2) :=
        (discoverContainers_ends_iff provider dbType hsql).2 ⟨rfl, rfl⟩
      unfold discoverCatalog
      cases hcontainers : containersOf dbType (asked provider sql s).1 with
      | error e =>
          rw [hcontainers] at hlist
          simp only [ends_bind_iff_of_error hlist, hcontainers]
          constructor
          · rintro _ call hcall
            rw [List.mem_singleton.1 hcall]
            exact hnothing _
          · intro _
            exact ⟨_, _, rfl, rfl⟩
      | ok names =>
          rw [hcontainers] at hlist
          simp only [ends_bind_iff_of_ok hlist, hcontainers]
          cases hscope : params.containersOnly with
          | true =>
              constructor
              · rintro _ call hcall
                rw [List.mem_singleton.1 hcall]
                exact hnothing _
              · intro _
                exact ⟨_, _, Handler.ends_pure_iff.2 ⟨rfl, rfl⟩⟩
          | false =>
              -- after the list, the crawl ends when the containers' visits do
              have hvisits := visits_tableCalls_iff provider dbType
                (filterContainersToScope names params.containers) (asked provider sql s).2
              simp only [Bool.false_eq_true, if_false, List.forall_mem_cons]
              constructor
              · rintro ⟨outcome, s', h⟩
                rcases Handler.ends_bind_iff.1 h with ⟨e, he, _⟩ | ⟨crawled, s₂, hcrawled, _⟩
                · rcases (crawlContainers_ends_iff provider dbType _ _ _ _).1 he with ⟨_, _, hno⟩
                  cases hno
                · rcases (crawlContainers_ends_iff provider dbType _ _ _ _).1 hcrawled with
                    ⟨visits, hdone, _⟩
                  exact ⟨hnothing _, ((hvisits _).1 ⟨visits, hdone⟩).1⟩
              · rintro ⟨_, hfits⟩
                obtain ⟨visits, hdone⟩ := (hvisits _).2 ⟨hfits, rfl⟩
                have hcrawl := (crawlContainers_ends_iff provider dbType _ _ _ _).2
                  ⟨visits, hdone, rfl⟩
                exact ⟨_, _, hcrawl.bind (Handler.ends_check_iff.2 ⟨rfl, rfl⟩)⟩

end Calls

end KyomiConnect
