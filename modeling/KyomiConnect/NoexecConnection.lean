import KyomiConnect.DryRunSafety

/-! # The shared SQL Server connection

A SQL Server provider has one connection, which every call locks. What a call does to
the session is what the batches that it sends do, one after the other. A dry run sends
one batch, which sets NOEXEC and resets it behind the user's SQL: the reset takes effect
only if the SQL runs to its end and does not end in a comment to the end of the line.

`noexec_off_iff` is about any run of calls: NOEXEC is off after every batch exactly if
every dry run resets it, or does not set it at all, and the batches of every other call keep it
off. Options that act when a batch is parsed, such as `SET PARSEONLY`, are outside the model.
-/

namespace KyomiConnect

open Noexec (Session Statement)
open SqlText (Token EndsInComment)

variable {σ Bytes : Type}

/-! ## Calls -/

/-- `SqlServerProvider::test_connection` -/
def SqlServerProvider.testConnection (simpleQuery : String → StateM σ TdsAnswer) :
    StateM σ (Except Error Bool) := do
  match ← simpleQuery "SELECT 1" with
  | .rows _ => return .ok true
  | .timedOut => return .error (.internal "SQL Server test connection timed out")
  | .queryError e | .collectionError e =>
      return .error (.internal ("SQL Server test connection failed: " ++ e))

/-- A call that uses the connection. -/
inductive SqlServerCall where
  | testConnection
  | executeQuery (sql : String) (limit offset : Option UInt32) (includeTotal : Bool)
  | executeQueryStreamArrow (sql : String) (limit offset chunkSize : Option UInt32)
  | dryRun (sql : String)

namespace SqlServerCall

section Perform

variable (ipc : ArrowIpc Bytes) (fmt : Formats) (captures : Captures) (executionTimeMs : Int64)
  (server : SqlServer σ)

/-- The session after a call. -/
def perform (s : Session (List Token) σ) : SqlServerCall → Session (List Token) σ
  | .testConnection => (SqlServerProvider.testConnection server.simpleQuery s).2
  | .executeQuery sql limit offset includeTotal =>
      (executeTdsQuery fmt server.simpleQuery executionTimeMs sql limit offset includeTotal s).2
  | .executeQueryStreamArrow sql limit offset chunkSize =>
      (executeTdsStreamArrow ipc fmt server.simpleQuery "SQL Server" executionTimeMs sql limit
        offset chunkSize s).2
  | .dryRun sql => (SqlServerProvider.dryRun captures server.simpleQuery sql s).2

/-- The session after some calls. -/
def performAll (calls : List SqlServerCall) (s : Session (List Token) σ) :
    Session (List Token) σ :=
  calls.foldl (perform ipc fmt captures executionTimeMs server) s

end Perform

/-- The batches that a call sends. -/
def batches : SqlServerCall → List String
  | .testConnection => ["SELECT 1"]
  | .executeQuery sql limit offset includeTotal =>
      (if isSelectText (Text.toUppercase (stripSql sql)) && includeTotal then
        ["SELECT COUNT(*) FROM (" ++ stripSql sql ++ ") AS _count_subquery"] else []) ++
      [prepareTsql sql (limit.getD 1000) (offset.getD 0)]
  | .executeQueryStreamArrow sql limit offset _ =>
      [prepareTsql sql (limit.getD 10000) (offset.getD 0)]
  | .dryRun sql => [showplanSql sql]

end SqlServerCall

/-- Run batches one after the other. -/
def SqlServer.runBatches (server : SqlServer σ) (texts : List String)
    (s : Session (List Token) σ) : Session (List Token) σ :=
  texts.foldl (fun s text => server.runBatch text s) s

variable {ipc : ArrowIpc Bytes} {fmt : Formats} {captures : Captures} {executionTimeMs : Int64}
  {server : SqlServer σ}

theorem SqlServer.runBatches_append (xs ys : List String) (s : Session (List Token) σ) :
    server.runBatches (xs ++ ys) s = server.runBatches ys (server.runBatches xs s) :=
  List.foldl_append

theorem tdsCountFirst_state (simpleQuery : String → StateM σ TdsAnswer) (sql : String)
    (includeTotal : Bool) (s : σ) :
    (tdsCountFirst simpleQuery sql includeTotal s).2 =
      if isSelectText (Text.toUppercase (stripSql sql)) && includeTotal then
        (simpleQuery ("SELECT COUNT(*) FROM (" ++ stripSql sql ++ ") AS _count_subquery") s).2
      else s := by
  unfold tdsCountFirst
  split
  · rw [getTdsTotalCount, step_bind]
    generalize simpleQuery ("SELECT COUNT(*) FROM (" ++ stripSql sql ++ ") AS _count_subquery") s =
      answered
    rcases answered with ⟨answer, t⟩
    cases answer <;> rfl
  · rfl

theorem executeTdsQuery_state (fmt : Formats) (simpleQuery : String → StateM σ TdsAnswer)
    (executionTimeMs : Int64) (sql : String) (limit offset : Option UInt32) (includeTotal : Bool)
    (s : σ) :
    (executeTdsQuery fmt simpleQuery executionTimeMs sql limit offset includeTotal s).2 =
      (simpleQuery (prepareTsql sql (limit.getD 1000) (offset.getD 0))
        (tdsCountFirst simpleQuery sql includeTotal s).2).2 := by
  unfold executeTdsQuery
  generalize prepareTsql sql (limit.getD 1000) (offset.getD 0) = text
  rw [step_bind]
  generalize tdsCountFirst simpleQuery sql includeTotal s = counted
  rw [step_bind]
  rfl

theorem executeTdsStreamArrow_state (ipc : ArrowIpc Bytes) (fmt : Formats)
    (simpleQuery : String → StateM σ TdsAnswer) (name : String) (executionTimeMs : Int64)
    (sql : String) (limit offset chunkSize : Option UInt32) (s : σ) :
    (executeTdsStreamArrow ipc fmt simpleQuery name executionTimeMs sql limit offset
      chunkSize s).2 =
      (simpleQuery (prepareTsql sql (limit.getD 10000) (offset.getD 0)) s).2 := by
  unfold executeTdsStreamArrow
  generalize prepareTsql sql (limit.getD 10000) (offset.getD 0) = text
  rw [step_bind]
  generalize simpleQuery text s = answered
  rcases answered with ⟨answer, t⟩
  cases answer <;> rfl

theorem SqlServerProvider.testConnection_state (simpleQuery : String → StateM σ TdsAnswer) (s : σ) :
    (SqlServerProvider.testConnection simpleQuery s).2 = (simpleQuery "SELECT 1" s).2 := by
  rw [testConnection, step_bind]
  generalize simpleQuery "SELECT 1" s = answered
  rcases answered with ⟨answer, t⟩
  cases answer <;> rfl

/-- A call does to the session what its batches do. -/
theorem SqlServerCall.perform_eq (ipc : ArrowIpc Bytes) (fmt : Formats) (captures : Captures)
    (executionTimeMs : Int64) (call : SqlServerCall) (s : Session (List Token) σ) :
    call.perform ipc fmt captures executionTimeMs server s = server.runBatches call.batches s := by
  cases call with
  | testConnection =>
      rw [perform, SqlServerProvider.testConnection_state]
      rfl
  | executeQuery sql limit offset includeTotal =>
      dsimp only [perform, batches]
      rw [executeTdsQuery_state, SqlServer.runBatches_append]
      generalize prepareTsql sql (limit.getD 1000) (offset.getD 0) = text
      rw [tdsCountFirst_state]
      generalize "SELECT COUNT(*) FROM (" ++ stripSql sql ++ ") AS _count_subquery" = count
      generalize (isSelectText (Text.toUppercase (stripSql sql)) && includeTotal) = counts
      cases counts <;> rfl
  | executeQueryStreamArrow sql limit offset chunkSize =>
      dsimp only [perform, batches]
      rw [executeTdsStreamArrow_state]
      generalize prepareTsql sql (limit.getD 10000) (offset.getD 0) = text
      rfl
  | dryRun sql =>
      rw [perform, SqlServerProvider.dryRun_state]
      rfl

/-! ## What a dry run leaves behind -/

/-- The dry run's batch is not run, or NOEXEC is off behind it: the user's statements
turn it off themselves, or run to their end, where no comment swallows the reset. -/
def SqlServer.Resets (server : SqlServer σ) (sql : String) (s : Session (List Token) σ) : Prop :=
  server.Rejects (showplanSql sql) s.db ∨
    (Noexec.run server.engine (server.userStatements sql) { s with noexec := true }).1.noexec =
      false ∨
    (Noexec.run server.engine (server.userStatements sql) { s with noexec := true }).2 = true ∧
      ¬ EndsInComment tsqlDialect sql.toList

theorem SqlServer.noexec_showplanSql {s : Session (List Token) σ} (hs : s.noexec = false)
    (sql : String) :
    (server.runBatch (showplanSql sql) s).noexec = false ↔ server.Resets sql s := by
  unfold Resets
  by_cases hrejects : server.Rejects (showplanSql sql) s.db
  · rw [runBatch_of_rejects hrejects]
    exact ⟨fun _ => .inl hrejects, fun _ => hs⟩
  · rw [or_iff_right hrejects, runBatch_showplanSql hrejects, Noexec.run_append, noexecReset]
    rcases Noexec.run server.engine (server.userStatements sql) { s with noexec := true } with
      ⟨t, ended⟩
    by_cases hcomment : EndsInComment tsqlDialect sql.toList
    · -- the comment has swallowed the reset
      cases ended <;> simp [hcomment, Noexec.run_nil]
    · cases ended with
      | false => simp
      | true => simp [hcomment, Noexec.run_setNoexec, Noexec.run_nil]

/-- A text without a SET NOEXEC of its own resets exactly if it is rejected or all its
statements compile and it does not end in a comment to the end of the line. -/
theorem SqlServer.resets_iff_of_others {sql : String} {stmts : List (List Token)}
    (h : server.userStatements sql = stmts.map .other) (s : Session (List Token) σ) :
    server.Resets sql s ↔ server.Rejects (showplanSql sql) s.db ∨
      (∀ stmt ∈ stmts, server.engine.compiles stmt s.db = true) ∧
        ¬ EndsInComment tsqlDialect sql.toList := by
  unfold Resets
  rw [h, Noexec.run_others rfl]
  simp

/-! ## Runs -/

namespace SqlServerCall

/-- Between the batches of a call, and before and after them, NOEXEC is off. -/
def OffThroughout (server : SqlServer σ) (s : Session (List Token) σ) (call : SqlServerCall) :
    Prop :=
  ∀ texts, texts <+: call.batches → (server.runBatches texts s).noexec = false

/-- A call leaves NOEXEC off: a dry run resets it, and the batches of another call keep it off
when they are run from NOEXEC OFF. -/
def KeepsOff (server : SqlServer σ) (s : Session (List Token) σ) : SqlServerCall → Prop
  | .dryRun sql => server.Resets sql s
  | call => call.OffThroughout server { s with noexec := false }

/-- If the batch is accepted, its first statement is executed. -/
def Executes (server : SqlServer σ) (s : Session (List Token) σ) (text : String) : Prop :=
  ∀ ts stmt rest, SqlText.tokens tsqlDialect text.toList = some ts →
    server.accepts ts s.db = true → server.statements ts = .other stmt :: rest →
    s.executed ++ [stmt] <+: (server.runBatch text s).executed

/-- A call of one batch. -/
theorem offThroughout_iff_of_batch {call : SqlServerCall} {text : String}
    (hbatches : call.batches = [text]) (s : Session (List Token) σ) :
    call.OffThroughout server s ↔ s.noexec = false ∧ (server.runBatch text s).noexec = false := by
  unfold OffThroughout
  rw [hbatches]
  constructor
  · intro h
    exact ⟨h [] List.nil_prefix, h [text] List.prefix_rfl⟩
  · rintro ⟨hbefore, hafter⟩ texts htexts
    rcases List.prefix_cons_iff.mp htexts with rfl | ⟨rest, rfl, hrest⟩
    · exact hbefore
    · rw [List.prefix_nil.mp hrest]
      exact hafter

theorem keepsOff_iff {s : Session (List Token) σ} (hs : s.noexec = false) (call : SqlServerCall) :
    call.KeepsOff server s ↔ call.OffThroughout server s := by
  cases call with
  | dryRun sql =>
      have hbatch : (SqlServerCall.dryRun sql).batches = [showplanSql sql] := rfl
      rw [offThroughout_iff_of_batch hbatch, SqlServer.noexec_showplanSql hs]
      constructor
      · intro h
        exact ⟨hs, h⟩
      · intro h
        exact h.2
  | _ =>
      have hsame : { s with noexec := false } = s := by
        rw [← hs]
      unfold KeepsOff
      rw [hsame]

/-- While NOEXEC is off, batches execute. -/
theorem executes_of_off {s : Session (List Token) σ} (hs : s.noexec = false) (text : String) :
    Executes server s text := by
  intro ts stmt rest htokens haccepts hstatements
  unfold SqlServer.runBatch
  rw [htokens]
  dsimp only
  rw [if_pos haccepts, hstatements]
  exact Noexec.executed_of_off hs stmt rest

/-- The state after calls that leave NOEXEC off. -/
theorem off_performAll {calls : List SqlServerCall} {s : Session (List Token) σ}
    (hs : s.noexec = false)
    (h : ∀ done call rest, calls = done ++ call :: rest →
      call.KeepsOff server (performAll ipc fmt captures executionTimeMs server done s))
    {done : List SqlServerCall} (hdone : done <+: calls) :
    (performAll ipc fmt captures executionTimeMs server done s).noexec = false := by
  -- call by call; each begins with NOEXEC off and leaves it off
  induction done using List.reverseRecOn with
  | nil => exact hs
  | append_singleton done call ih =>
      rcases hdone with ⟨rest, hcalls⟩
      rw [List.append_assoc, List.singleton_append] at hcalls
      have hbefore := ih ⟨call :: rest, hcalls⟩
      have hthroughout := (keepsOff_iff hbefore call).mp (h done call rest hcalls.symm)
      have hafter := hthroughout call.batches List.prefix_rfl
      rw [← perform_eq ipc fmt captures executionTimeMs] at hafter
      rw [performAll, List.foldl_append]
      exact hafter

end SqlServerCall

open SqlServerCall in
/-- In a run of calls from NOEXEC OFF, NOEXEC is off before and after every batch exactly if
every call leaves it off; and then every batch executes its first statement. -/
theorem noexec_off_iff (calls : List SqlServerCall) {s : Session (List Token) σ}
    (hs : s.noexec = false) :
    ((∀ done call rest, calls = done ++ call :: rest → call.OffThroughout server
          (performAll ipc fmt captures executionTimeMs server done s)) ↔
        ∀ done call rest, calls = done ++ call :: rest → call.KeepsOff server
          (performAll ipc fmt captures executionTimeMs server done s)) ∧
      ((∀ done call rest, calls = done ++ call :: rest → call.KeepsOff server
          (performAll ipc fmt captures executionTimeMs server done s)) →
        ∀ done call rest, calls = done ++ call :: rest → ∀ before text,
          before ++ [text] <+: call.batches → Executes server
            (server.runBatches before
              (performAll ipc fmt captures executionTimeMs server done s)) text) := by
  have hthroughout (h : ∀ done call rest, calls = done ++ call :: rest → call.KeepsOff server
      (performAll ipc fmt captures executionTimeMs server done s)) :
      ∀ done call rest, calls = done ++ call :: rest → call.OffThroughout server
        (performAll ipc fmt captures executionTimeMs server done s) := by
    intro done call rest hcalls
    have hoff := off_performAll hs h ⟨call :: rest, hcalls.symm⟩
    exact (keepsOff_iff hoff call).mp (h done call rest hcalls)
  refine ⟨⟨?_, hthroughout⟩, ?_⟩
  · intro h done call rest hcalls
    have hoff := h done call rest hcalls [] List.nil_prefix
    exact (keepsOff_iff hoff call).mpr (h done call rest hcalls)
  · intro h done call rest hcalls before text hbefore
    have hoff := hthroughout h done call rest hcalls before
      ((List.prefix_append before [text]).trans hbefore)
    exact executes_of_off hoff text

/-- A dry run and a query. -/
theorem noexec_off_select :
    (SqlServerCall.executeQuery "SELECT TOP 1 n FROM t" none none false).OffThroughout
      SqlServer.oneTable
      (SqlServerCall.performAll ArrowIpc.byContent .blank .none 0 SqlServer.oneTable
        [.dryRun "SELECT 1"] ⟨3, false, []⟩) := by
  refine (noexec_off_iff [.dryRun "SELECT 1", .executeQuery "SELECT TOP 1 n FROM t" none none false]
    rfl).1.mpr ?_ [.dryRun "SELECT 1"] _ [] rfl
  intro done call rest hcalls
  rcases done with _ | ⟨_, _ | ⟨_, done⟩⟩
  · obtain ⟨rfl, _⟩ := List.cons.inj hcalls
    exact .inr (.inr ⟨by decide, by decide⟩)
  · obtain ⟨rfl, hquery⟩ := List.cons.inj hcalls
    obtain ⟨rfl, _⟩ := List.cons.inj hquery
    have hbatches : (SqlServerCall.executeQuery "SELECT TOP 1 n FROM t" none none false).batches =
        ["SELECT TOP 1 n FROM t"] := by decide
    refine (SqlServerCall.offThroughout_iff_of_batch hbatches _).mpr ?_
    rw [SqlServerCall.performAll, List.foldl_cons, List.foldl_nil, SqlServerCall.perform_eq]
    exact ⟨by decide, by decide⟩
  · simp at hcalls

/-- A query is executed, but not after a dry run whose SQL ends in a comment or reads from a
table that does not exist. -/
theorem query_skipped_after_dry_run :
    (SqlServerCall.performAll ArrowIpc.byContent .blank .none 0 SqlServer.oneTable
      [.executeQuery "SELECT TOP 1 n FROM t" none none false] ⟨3, false, []⟩).executed.length = 1 ∧
    SqlServerCall.performAll ArrowIpc.byContent .blank .none 0 SqlServer.oneTable
        [.dryRun "SELECT 1 -- one", .executeQuery "SELECT TOP 1 n FROM t" none none false]
        ⟨3, false, []⟩ = ⟨3, true, []⟩ ∧
    SqlServerCall.performAll ArrowIpc.byContent .blank .none 0 SqlServer.oneTable
        [.dryRun "SELECT * FROM missing", .executeQuery "SELECT TOP 1 n FROM t" none none false]
        ⟨3, false, []⟩ = ⟨3, true, []⟩ := by
  simp only [SqlServerCall.performAll, List.foldl_cons, List.foldl_nil, SqlServerCall.perform_eq]
  refine ⟨?_, ?_, ?_⟩
  · decide
  · decide
  · decide

end KyomiConnect
