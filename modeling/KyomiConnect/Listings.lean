import KyomiConnect.Catalog
import KyomiConnect.Http
import KyomiConnect.Sqlx

/-! # Listings

`list_databases`, `list_schemas`, `list_warehouses` and `list_catalogs` of every
provider. A `Listing` is what such a method does: most run one query through the
provider's `execute_query` and read a column of its batch, and differ in the query,
the column and the name in the error message.

A query has failed if `execute_query` returns an error, or a result with the status
`error`. The listings check for the first only.
-/

namespace KyomiConnect

variable {σ : Type}

/-- Standard result format for catalog discovery operations. -/
structure DiscoveryResult where
  items : List String
  error : Option String
deriving DecidableEq, Repr

/-- A listing that runs a query and reads a column of its batch. -/
structure ListingQuery where
  sql : String
  /-- The start of the error message. -/
  failure : String
  colIdx : ℕ := 0
  keep : String → Bool := fun _ => true
  sorted : Bool := false

/-- What a listing method does. -/
inductive Listing where
  /-- the trait's default: an error -/
  | unsupported (message : String)
  | constant (items : List String)
  | query (q : ListingQuery)
  /-- a query that answers with Arrow batches -/
  | arrow (sql : String)

/-- The queries a provider runs for its listings. -/
structure Queries (σ : Type) where
  executeQuery (sql : String) (limit offset : Option UInt32) (includeTotal : Bool)
    (jobId : Option String) : StateM σ (Except Error QueryResult)
  /-- `DataFusionClickHouseProvider::query_arrow` -/
  queryArrow (sql : String) : StateM σ (Except Error (List RecordBatch))
  /-- `concat_batches` -/
  concatBatches : List RecordBatch → Except Error RecordBatch

/-! ## Running a listing -/

/-- The items of a result's batch. -/
def ListingQuery.itemsOf (q : ListingQuery) (result : QueryResult) : List String :=
  let items := (extractStringColFromBatch result.recordBatch q.colIdx).filter q.keep
  if q.sorted then items.mergeSort fun a b => decide (a ≤ b) else items

def ListingQuery.run (q : ListingQuery) (p : Queries σ) : StateM σ DiscoveryResult := do
  match ← p.executeQuery q.sql none none false none with
  | .ok result => return { items := q.itemsOf result, error := none }
  | .error e => return { items := [], error := some (q.failure ++ ": " ++ e.toString) }

/-- `combine_batches` -/
def Queries.combineBatches (p : Queries σ) : List RecordBatch → Except Error (Option RecordBatch)
  | [] => .ok none
  | [batch] => .ok (some batch)
  | batches => (p.concatBatches batches).map some

/-- Batches that cannot be combined have no items. -/
def runArrow (p : Queries σ) (sql : String) : StateM σ DiscoveryResult := do
  match ← p.queryArrow sql with
  | .ok batches =>
      let batch := (p.combineBatches batches).toOption.join
      return { items := extractStringColFromBatch batch 0, error := none }
  | .error e => return { items := [], error := some e.toString }

def Listing.run (p : Queries σ) : Listing → StateM σ DiscoveryResult
  | .unsupported message => pure { items := [], error := some message }
  | .constant items => pure { items, error := none }
  | .query q => q.run p
  | .arrow sql => runArrow p sql

/-! ## The methods -/

def PostgresProvider.listDatabases : Listing := .query
  { sql := "SELECT datname FROM pg_database WHERE datistemplate = false ORDER BY datname"
    failure := "Failed to list PostgreSQL databases" }

def PostgresProvider.listSchemas : Listing := .query
  { sql := "SELECT schema_name FROM information_schema.schemata " ++
      "WHERE schema_name NOT IN ('pg_catalog', 'information_schema', 'pg_toast') " ++
      "ORDER BY schema_name"
    failure := "Failed to list PostgreSQL schemas" }

def MySqlProvider.listSchemas : Listing := .query
  { sql := "SELECT SCHEMA_NAME FROM information_schema.SCHEMATA WHERE SCHEMA_NAME NOT IN " ++
      "('information_schema', 'mysql', 'performance_schema', 'sys') ORDER BY SCHEMA_NAME"
    failure := "Failed to list MySQL databases" }

def MySqlProvider.listDatabases : Listing := MySqlProvider.listSchemas

def RedshiftProvider.listSchemas : Listing := .query
  { sql := "SELECT schema_name FROM information_schema.schemata WHERE schema_name NOT IN " ++
      "('pg_catalog', 'pg_internal', 'information_schema', 'pg_toast') " ++
      "AND schema_name NOT LIKE 'pg_temp_%' ORDER BY schema_name"
    failure := "Failed to list Redshift schemas" }

def ClickHouseProvider.listDatabases : Listing := .query
  { sql := "SELECT name FROM system.databases " ++
      "WHERE name NOT IN ('system', 'INFORMATION_SCHEMA', 'information_schema') ORDER BY name"
    failure := "Failed to list ClickHouse databases" }

def DataFusionClickHouseProvider.listDatabases : Listing := .arrow
  ("SELECT name FROM system.databases WHERE name NOT IN " ++
    "('system', 'information_schema', 'INFORMATION_SCHEMA')")

/-- The name is the second column of `SHOW DATABASES`. -/
def SnowflakeProvider.listDatabases : Listing := .query
  { sql := "SHOW DATABASES"
    failure := "Failed to list Snowflake databases"
    colIdx := 1
    keep := fun name => Text.toUppercase name ∉ ["SNOWFLAKE", "SNOWFLAKE_SAMPLE_DATA"]
    sorted := true }

def SnowflakeProvider.listWarehouses : Listing := .query
  { sql := "SHOW WAREHOUSES", failure := "Failed to list Snowflake warehouses", sorted := true }

def DatabricksProvider.listCatalogs : Listing := .query
  { sql := "SHOW CATALOGS"
    failure := "Failed to list Databricks catalogs"
    keep := fun name => Text.toLowercase name ∉ ["system", "hive_metastore"]
    sorted := true }

def SqlServerProvider.listDatabases : Listing := .query
  { sql := "SELECT name FROM sys.databases WHERE state = 0 " ++
      "AND name NOT IN ('master', 'tempdb', 'model', 'msdb') ORDER BY name"
    failure := "Failed to list SQL Server databases" }

/-- The schemas of a T-SQL database that are not the system's. -/
def tsqlSchemasSql : String :=
  "SELECT schema_name FROM INFORMATION_SCHEMA.SCHEMATA WHERE schema_name NOT IN " ++
  "('sys', 'INFORMATION_SCHEMA', 'guest', 'db_owner', 'db_accessadmin', 'db_securityadmin', " ++
  "'db_ddladmin', 'db_backupoperator', 'db_datareader', 'db_datawriter', 'db_denydatareader', " ++
  "'db_denydatawriter') ORDER BY schema_name"

def SqlServerProvider.listSchemas : Listing := .query
  { sql := tsqlSchemasSql, failure := "Failed to list SQL Server schemas" }

def SynapseProvider.listDatabases : Listing := .query
  { sql := "SELECT name FROM sys.databases WHERE state = 0 ORDER BY name"
    failure := "Failed to list Synapse databases" }

def SynapseProvider.listSchemas : Listing := .query
  { sql := tsqlSchemasSql, failure := "Failed to list Synapse schemas" }

/-- FlareDB is single-database. -/
def FlareDbProvider.listDatabases : Listing := .constant ["default"]

def FlareDbProvider.listSchemas : Listing := .query
  { sql := "SELECT DISTINCT table_schema FROM information_schema.tables ORDER BY table_schema"
    failure := "Failed to list FlareDB schemas" }

/-- The listing methods of the trait. -/
inductive ListMethod where
  | listDatabases
  | listSchemas
  | listWarehouses
  | listCatalogs
deriving DecidableEq, Repr

/-- The trait's default of a method. -/
def ListMethod.default (m : ListMethod) : Listing :=
  let what := match m with
    | .listDatabases => "Database"
    | .listSchemas => "Schema"
    | .listWarehouses => "Warehouse"
    | .listCatalogs => "Catalog"
  .unsupported (what ++ " listing is not supported for this datasource type")

/-- What a method does for a type of datasource; `dataFusion` is the feature that
sets the provider for ClickHouse. -/
def listing (dataFusion : Bool) : DatasourceType → ListMethod → Listing
  | .postgres, .listDatabases => PostgresProvider.listDatabases
  | .postgres, .listSchemas => PostgresProvider.listSchemas
  | .mySql, .listDatabases => MySqlProvider.listDatabases
  | .mySql, .listSchemas => MySqlProvider.listSchemas
  | .redshift, .listSchemas => RedshiftProvider.listSchemas
  | .clickHouse, .listDatabases =>
      if dataFusion then DataFusionClickHouseProvider.listDatabases
      else ClickHouseProvider.listDatabases
  | .snowflake, .listDatabases => SnowflakeProvider.listDatabases
  | .snowflake, .listWarehouses => SnowflakeProvider.listWarehouses
  | .databricks, .listCatalogs => DatabricksProvider.listCatalogs
  | .sqlServer, .listDatabases => SqlServerProvider.listDatabases
  | .sqlServer, .listSchemas => SqlServerProvider.listSchemas
  | .synapse, .listDatabases => SynapseProvider.listDatabases
  | .synapse, .listSchemas => SynapseProvider.listSchemas
  | .flareDb, .listDatabases => FlareDbProvider.listDatabases
  | .flareDb, .listSchemas => FlareDbProvider.listSchemas
  | _, m => m.default

/-! ## Failed queries -/

/-- The answer to the query of a listing. -/
def ListingQuery.answer (q : ListingQuery) (p : Queries σ) (s : σ) : Except Error QueryResult :=
  (p.executeQuery q.sql none none false none s).1

/-- The query underneath a listing succeeds. A listing without a query succeeds if
it is supported. -/
def Listing.Succeeds (p : Queries σ) (s : σ) : Listing → Prop
  | .unsupported _ => False
  | .constant _ => True
  | .query q => ∃ result, q.answer p s = .ok result ∧ result.status = .success
  | .arrow sql => ∃ batches, (p.queryArrow sql s).1 = .ok batches

/-- The query underneath a listing fails with a result. -/
def Listing.FailsInResult (p : Queries σ) (s : σ) : Listing → Prop
  | .query q => ∃ result, q.answer p s = .ok result ∧ result.status = .error
  | _ => False

/-- The result of a listing without an error stands for a query that succeeded. -/
def Listing.Sound (p : Queries σ) (s : σ) (l : Listing) : Prop :=
  (l.run p s).1.error = none → l.Succeeds p s

section Rules

variable {p : Queries σ} {s : σ}

theorem ListingQuery.run_ok {q : ListingQuery} {result : QueryResult}
    (h : q.answer p s = .ok result) :
    (q.run p s).1 = { items := q.itemsOf result, error := none } := by
  unfold ListingQuery.answer at h
  simp only [ListingQuery.run, step_bind, h]
  rfl

/-- A result without a batch, as every failed query has, lists nothing. -/
theorem ListingQuery.run_without_batch {q : ListingQuery} {result : QueryResult}
    (h : q.answer p s = .ok result) (hbatch : result.recordBatch = none) :
    (q.run p s).1 = { items := [], error := none } := by
  have hitems : q.itemsOf result = [] := by
    simp [itemsOf, hbatch, extractStringColFromBatch]
  rw [run_ok h, hitems]

theorem ListingQuery.run_error {q : ListingQuery} {e : Error} (h : q.answer p s = .error e) :
    (q.run p s).1 = { items := [], error := some (q.failure ++ ": " ++ e.toString) } := by
  unfold ListingQuery.answer at h
  simp only [ListingQuery.run, step_bind, h]
  rfl

theorem runArrow_error {sql : String} {e : Error} (h : (p.queryArrow sql s).1 = .error e) :
    (runArrow p sql s).1 = { items := [], error := some e.toString } := by
  simp only [runArrow, step_bind, h]
  rfl

/-- A query listing takes every result for a success. -/
theorem ListingQuery.sound_iff (q : ListingQuery) :
    (Listing.query q).Sound p s ↔ ¬ (Listing.query q).FailsInResult p s := by
  cases h : q.answer p s with
  | error e =>
      have hrun : ((Listing.query q).run p s).1.error = some (q.failure ++ ": " ++ e.toString) := by
        rw [Listing.run, q.run_error h]
      constructor
      · rintro _ ⟨result, hok, _⟩
        rw [h] at hok
        cases hok
      · intro _ hnone
        rw [hrun] at hnone
        cases hnone
  | ok result =>
      have hrun : ((Listing.query q).run p s).1.error = none := by
        rw [Listing.run, q.run_ok h]
      constructor
      · rintro hsound ⟨result', hok, herror⟩
        rcases hsound hrun with ⟨result'', hok', hsuccess⟩
        rw [hok] at hok'
        cases hok'
        rw [herror] at hsuccess
        cases hsuccess
      · intro hnot _
        refine ⟨result, h, ?_⟩
        cases hstatus : result.status with
        | success => rfl
        | error => exact absurd ⟨result, h, hstatus⟩ hnot

end Rules

/-- A listing method never passes off a failed query as a success, but for a query
whose failure is a result with the status `error`. -/
theorem listing_sound_iff (dataFusion : Bool) (ds : DatasourceType) (m : ListMethod)
    (p : Queries σ) (s : σ) :
    (listing dataFusion ds m).Sound p s ↔ ¬ (listing dataFusion ds m).FailsInResult p s := by
  cases listing dataFusion ds m with
  | unsupported message =>
      refine iff_of_true ?_ id
      intro hnone
      cases hnone
  | constant items => exact iff_of_true (fun _ => trivial) id
  | query q => exact q.sound_iff
  | arrow sql =>
      refine iff_of_true ?_ id
      intro hnone
      cases h : (p.queryArrow sql s).1 with
      | ok batches => exact ⟨batches, h⟩
      | error e =>
          rw [Listing.run, runArrow_error h] at hnone
          cases hnone

/-! ## The sqlx providers -/

/-- The queries of a sqlx provider. -/
def SqlxDialect.queries (d : SqlxDialect) (pool : SqlxPool σ) (fmt : Formats) : Queries σ where
  executeQuery := d.executeQuery pool fmt
  queryArrow _ := pure (.ok [])
  concatBatches _ := .error (.internal "")

/-- The answer to a listing's query is the result for the pool's answer. -/
theorem SqlxDialect.answer_queries (d : SqlxDialect) (pool : SqlxPool σ) (fmt : Formats)
    (q : ListingQuery) (s : σ) :
    ∃ executionTimeMs, q.answer (d.queries pool fmt) s = .ok (d.answerResult fmt none none
      executionTimeMs (pool.fetchAll (prepareQuery q.sql none none).sql s).1) := by
  have hcount : countFirst pool (prepareQuery q.sql none none) false = pure none := by
    simp [countFirst]
  refine ⟨(pool.elapsedMs (pool.fetchAll (prepareQuery q.sql none none).sql s).2).1, ?_⟩
  simp only [ListingQuery.answer, queries, executeQuery, hcount, step_bind]
  rfl

/-- On a pool the query of a listing fails in its result unless the pool answers it
with rows. -/
theorem SqlxDialect.sound_iff_rows (d : SqlxDialect) (pool : SqlxPool σ) (fmt : Formats)
    (q : ListingQuery) (s : σ) :
    (Listing.query q).Sound (d.queries pool fmt) s ↔
      ∃ rows, (pool.fetchAll (prepareQuery q.sql none none).sql s).1 = .rows rows := by
  rcases d.answer_queries pool fmt q s with ⟨executionTimeMs, hanswer⟩
  rw [q.sound_iff]
  cases hfetch : (pool.fetchAll (prepareQuery q.sql none none).sql s).1 with
  | rows rows =>
      refine iff_of_true ?_ ⟨rows, rfl⟩
      rintro ⟨result, hok, herror⟩
      rw [hanswer, hfetch] at hok
      cases hok
      cases herror
  | error e =>
      rw [hfetch] at hanswer
      exact iff_of_false (fun hnot => hnot ⟨_, hanswer, rfl⟩) nofun
  | timedOut =>
      rw [hfetch] at hanswer
      exact iff_of_false (fun hnot => hnot ⟨_, hanswer, rfl⟩) nofun

/-- PostgreSQL denies the query of `list_databases`, which reports no databases and
no error. -/
theorem denied_listing_is_empty :
    let queries := PostgresProvider.queries
      (.fixed (.error (.ofDatabase "permission denied for table pg_database"))) .blank
    (PostgresProvider.listDatabases.run queries ()).1 = { items := [], error := none } ∧
      ¬ (listing false .postgres .listDatabases).Sound queries () := by
  intro queries
  obtain ⟨q, hq⟩ : ∃ q, PostgresProvider.listDatabases = .query q := ⟨_, rfl⟩
  have hlisting : listing false .postgres .listDatabases = .query q := hq
  constructor
  · rcases PostgresProvider.answer_queries (.fixed (.error _)) .blank q () with ⟨ms, hanswer⟩
    rw [hq, Listing.run]
    exact q.run_without_batch hanswer rfl
  · rw [hlisting, PostgresProvider.sound_iff_rows]
    rintro ⟨rows, hrows⟩
    rw [SqlxPool.fetchAll_fixed] at hrows
    cases hrows

end KyomiConnect
