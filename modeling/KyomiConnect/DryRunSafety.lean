import KyomiConnect.DryRun
import KyomiConnect.Lib.Logged
import KyomiConnect.Lib.Noexec
import KyomiConnect.Lib.SqlText

/-! # What a dry run executes

The text of a dry run is the user's SQL in a wrapper, so what it means depends on how
the SQL begins and what is in it. Two servers read such texts as their documentation
says:

* `PgServer`: EXPLAIN plans a statement, and executes it only with the option ANALYZE,
  which stands right behind EXPLAIN or in a list in parentheses;
* `SqlServer`: a batch whose statements are compiled but not executed while NOEXEC
  is on. SET NOEXEC has an effect in either case.

A text of several commands is no statement that a `PgServer` accepts, since the pool
prepares what it sends.
-/

namespace KyomiConnect

open Noexec (Session Statement Engine Untouched)
open SqlText (Token Dialect EndsInComment Plain)

variable {σ : Type}

def apostrophe : Char := Char.ofNat 0x27

/-- The token is this word, which is in lower case, in any spelling. -/
def isWord (name : String) : Token → Bool
  | .word cs => cs.map Char.toLower = name.toList
  | _ => false

/-! ## EXPLAIN -/

/-- The name of an option. A quoted name is as it is; ANALYSE is ANALYZE. -/
def optionName : Token → Option (List Char)
  | .word cs =>
      let name := cs.map Char.toLower
      some (if name = "analyse".toList then "analyze".toList else name)
  | .quoted '"' cs => some cs
  | _ => none

/-- The words that begin a query. -/
def beginsQuery (name : List Char) : Bool :=
  name ∈ ["select", "with", "values", "table"].map String.toList

/-- One option of EXPLAIN: its name and what is behind it. -/
def explainOption : List Token → Option (List Char × List Token)
  | t :: value => ((optionName t).filter (!beginsQuery ·)).map (·, value)
  | [] => none

def explainWord : Token := .word "EXPLAIN".toList

/-- What is behind VERBOSE, which may be left out. -/
def afterVerbose : List Token → List Token
  | t :: rest => if isWord "verbose" t then rest else t :: rest
  | [] => []

/-- A PostgreSQL or Redshift server. -/
structure PgServer (σ : Type) where
  /-- The lexer; none if a quotation or a comment is unterminated. -/
  tokens : List Char → Option (List Token)
  /-- A blank separates tokens. -/
  tokens_explain : ∀ cs, tokens ("EXPLAIN ".toList ++ cs) =
    (tokens cs).map (explainWord :: ·)
  /-- How the value of an option that is on or off is read. -/
  isOn : List Token → Bool
  /-- The text is one command that is valid in this state. -/
  accepts : List Token → σ → Bool
  execute : List Token → StateM σ SqlxAnswer
  plan : List Token → σ → SqlxAnswer
  reject : List Char → σ → SqlxAnswer

namespace PgServer

variable (server : PgServer σ)

/-- Read what is behind EXPLAIN: whether ANALYZE is on, and the statement. -/
def explained : List Token → Bool × List Token
  | .symbol '(' :: rest =>
      match ((rest.takeWhile (· ≠ .symbol ')')).splitOn (.symbol ',')).mapM explainOption with
      | some options =>
          (((options.filter (·.1 = "analyze".toList)).getLast?.map (server.isOn ·.2)).getD false,
            (rest.dropWhile (· ≠ .symbol ')')).tail)
      -- a query in parentheses
      | none => (false, .symbol '(' :: rest)
  | t :: rest =>
      if isWord "analyze" t || isWord "analyse" t then (true, afterVerbose rest)
      else (false, afterVerbose (t :: rest))
  | [] => (false, [])

/-- The statement that a command executes, if it executes one. -/
def executes : List Token → Option (List Token)
  | t :: rest =>
      if isWord "explain" t then
        if (server.explained rest).1 then some (server.explained rest).2 else none
      else some (t :: rest)
  | [] => none

/-- The server's answer to a text, and the statements it has executed. -/
def fetchAll (text : String) : StateM (σ × List (List Token)) SqlxAnswer := fun (db, executed) =>
  match server.tokens text.toList with
  | none => (server.reject text.toList db, db, executed)
  | some ts =>
      if server.accepts ts db then
        match server.executes ts with
        | some stmt => Logged.note [stmt] (server.execute stmt) (db, executed)
        | none => (server.plan ts db, db, executed)
      else (server.reject text.toList db, db, executed)

/-- The SQL, behind EXPLAIN, is accepted and asks for ANALYZE. -/
def Analyzes (sql : String) (db : σ) : Prop :=
  ∃ ts, server.tokens sql.toList = some ts ∧
    server.accepts (explainWord :: ts) db = true ∧ (server.explained ts).1 = true

variable {server}

theorem executes_explain (ts : List Token) : server.executes (explainWord :: ts) =
    if (server.explained ts).1 then some (server.explained ts).2 else none := by
  have hword : isWord "explain" explainWord = true := by decide
  rw [executes, if_pos hword]

/-- The wrapped SQL leaves the server as it was unless ANALYZE is asked for. -/
theorem fetchAll_explainSql (sql : String) (st : σ × List (List Token)) :
    (server.fetchAll (explainSql sql) st).2 = st ↔ ¬ server.Analyzes sql st.1 := by
  rcases st with ⟨db, executed⟩
  have htokens : server.tokens (explainSql sql).toList =
      (server.tokens sql.toList).map (explainWord :: ·) := by
    rw [explainSql, String.toList_append]
    exact server.tokens_explain sql.toList
  unfold fetchAll Analyzes
  rw [htokens]
  cases hsql : server.tokens sql.toList with
  | none =>
      constructor
      · rintro _ ⟨ts, hts, _⟩
        cases hts
      · intro _
        rfl
  | some ts =>
      rw [Option.map_some]
      dsimp only
      by_cases haccepts : server.accepts (explainWord :: ts) db = true
      · rw [if_pos haccepts, executes_explain]
        by_cases hanalyze : (server.explained ts).1 = true
        · -- the log of executed statements is longer
          rw [if_pos hanalyze]
          constructor
          · intro h
            have hlog : executed ++ [(server.explained ts).2] = executed := congrArg Prod.snd h
            have hlen := congrArg List.length hlog
            rw [List.length_append, List.length_singleton] at hlen
            omega
          · intro h
            exact absurd ⟨ts, rfl, haccepts, hanalyze⟩ h
        · rw [if_neg hanalyze]
          constructor
          · rintro _ ⟨us, hus, _, hus'⟩
            cases hus
            exact hanalyze hus'
          · intro _
            rfl
      · rw [if_neg haccepts]
        constructor
        · rintro _ ⟨us, hus, haccepts', _⟩
          cases hus
          exact haccepts haccepts'
        · intro _
          rfl

end PgServer

/-! ## SET NOEXEC -/

/-- T-SQL's quotes, words and blanks. -/
def tsqlDialect : Dialect where
  closing c :=
    if c = apostrophe ∨ c = '"' then some c else if c = '[' then some ']' else none
  isWordChar c := c.isAlphanum || c ∈ ['_', '@', '#', '$'] || 0xA0 < c.toNat
  isBlank c := c.toNat ≤ 0x20 || c.toNat = 0xA0
  endsLine c := c = '\n'
  semicolon_symbol := by
    refine ⟨by decide, by decide, by decide, by decide, fun o h => ?_⟩
    split at h
    · rename_i ho
      rcases ho with rfl | rfl <;> exact absurd h (by decide)
    · split at h
      · exact absurd h (by decide)
      · cases h

/-- `SET NOEXEC ON;` -/
def noexecOn : List Token := ["SET", "NOEXEC", "ON"].map (.word ·.toList) ++ [.symbol ';']

/-- `; SET NOEXEC OFF;` -/
def noexecOff : List Token :=
  .symbol ';' :: ["SET", "NOEXEC", "OFF"].map (.word ·.toList) ++ [.symbol ';']

/-- A SQL Server. A statement with the statements that it controls is one. -/
structure SqlServer (σ : Type) where
  /-- The batch is compiled, with the objects that it refers to as they are. -/
  accepts : List Token → σ → Bool
  statements : List Token → List (Statement (List Token))
  engine : Engine (List Token) σ
  answer : String → Session (List Token) σ → TdsAnswer
  /-- A semicolon ends a statement: no statement that is accepted reaches beyond it. -/
  statements_on : ∀ ts db, accepts (noexecOn ++ ts) db = true →
    statements (noexecOn ++ ts) = .setNoexec true :: statements ts
  statements_wrapped : ∀ ts db, accepts (noexecOn ++ (ts ++ noexecOff)) db = true →
    statements (noexecOn ++ (ts ++ noexecOff)) =
      .setNoexec true :: (statements ts ++ [.setNoexec false])

namespace SqlServer

variable (server : SqlServer σ)

/-- Run a batch, to its end whether or not the client waits for it. -/
def runBatch (text : String) (s : Session (List Token) σ) : Session (List Token) σ :=
  match SqlText.tokens tsqlDialect text.toList with
  | none => s
  | some ts =>
      if server.accepts ts s.db then (Noexec.run server.engine (server.statements ts) s).1 else s

/-- The client of the one connection. -/
def simpleQuery (text : String) : StateM (Session (List Token) σ) TdsAnswer :=
  fun s => (server.answer text s, server.runBatch text s)

/-- The server does not run the batch. -/
def Rejects (text : String) (db : σ) : Prop :=
  ∀ ts, SqlText.tokens tsqlDialect text.toList = some ts → server.accepts ts db = false

/-- The statements of the user's SQL. -/
def userStatements (sql : String) : List (Statement (List Token)) :=
  ((SqlText.tokens tsqlDialect sql.toList).map server.statements).getD []

end SqlServer

/-- What is behind the user's SQL: nothing if a comment has swallowed it. -/
def noexecReset (sql : String) : List (Statement (List Token)) :=
  if EndsInComment tsqlDialect sql.toList then [] else [.setNoexec false]

/-- What closes a quotation. -/
theorem mem_of_closing {o c : Char} (h : tsqlDialect.closing o = some c) :
    c ∈ [apostrophe, '"', ']'] := by
  unfold tsqlDialect at h
  simp only at h
  split at h
  · rename_i ho
    rcases ho with rfl | rfl <;> (cases h; decide)
  · split at h
    · cases h
      decide
    · cases h

theorem plain_noexecOff : Plain tsqlDialect " SET NOEXEC OFF;".toList := by
  have hplain : (" SET NOEXEC OFF;".toList.all fun c => !tsqlDialect.endsLine c && c ≠ '*' &&
      c ≠ '/' && c ∉ [apostrophe, '"', ']']) = true := by decide
  intro c hc
  have hchar := List.all_eq_true.mp hplain c hc
  simp only [Bool.and_eq_true, Bool.not_eq_true', decide_eq_true_eq] at hchar
  rcases hchar with ⟨⟨⟨hline, hstar⟩, hslash⟩, hquote⟩
  exact ⟨hline, hstar, hslash, fun o h => hquote (mem_of_closing h)⟩

/-- The tokens of a dry run's batch. -/
theorem tokens_showplanSql (sql : String) :
    SqlText.tokens tsqlDialect (showplanSql sql).toList =
      (SqlText.tokens tsqlDialect sql.toList).map fun ts =>
        noexecOn ++ if EndsInComment tsqlDialect sql.toList then ts else ts ++ noexecOff := by
  have hon : SqlText.read tsqlDialect (.code []) "SET NOEXEC ON; ".toList =
      (noexecOn, .code []) := by decide
  have hoff : SqlText.tokens tsqlDialect " SET NOEXEC OFF;".toList = some noexecOff.tail := by
    decide
  have hend : "; SET NOEXEC OFF;".toList = ';' :: " SET NOEXEC OFF;".toList := by decide
  have htext : (showplanSql sql).toList =
      "SET NOEXEC ON; ".toList ++ (sql.toList ++ ';' :: " SET NOEXEC OFF;".toList) := by
    unfold showplanSql
    rw [String.toList_append, String.toList_append, hend, List.append_assoc]
  rw [htext, SqlText.tokens_after hon, SqlText.tokens_append sql.toList plain_noexecOff, hoff]
  by_cases hcomment : EndsInComment tsqlDialect sql.toList
  · simp [hcomment]
  · cases SqlText.tokens tsqlDialect sql.toList with
    | none => simp [hcomment]
    | some ts => simp [hcomment, noexecOff]

namespace SqlServer

variable {server : SqlServer σ}

/-- A batch that is rejected leaves the session as it is. -/
theorem runBatch_of_rejects {text : String} {s : Session (List Token) σ}
    (h : server.Rejects text s.db) : server.runBatch text s = s := by
  unfold runBatch
  cases htokens : SqlText.tokens tsqlDialect text.toList with
  | none => rfl
  | some ts => simp [h ts htokens]

/-- A dry run's batch that is not rejected: the user's statements under NOEXEC, and
the reset. -/
theorem runBatch_showplanSql {sql : String} {s : Session (List Token) σ}
    (h : ¬ server.Rejects (showplanSql sql) s.db) :
    server.runBatch (showplanSql sql) s =
      (Noexec.run server.engine (server.userStatements sql ++ noexecReset sql)
        { s with noexec := true }).1 := by
  unfold Rejects at h
  push Not at h
  rcases h with ⟨us, htokens, haccepts⟩
  rw [Bool.ne_false_iff] at haccepts
  have hus := htokens
  rw [tokens_showplanSql, Option.map_eq_some_iff] at hus
  rcases hus with ⟨ts, hsql, rfl⟩
  simp only [runBatch, htokens, haccepts, if_true, userStatements, hsql, Option.map_some,
    Option.getD_some]
  by_cases hcomment : EndsInComment tsqlDialect sql.toList
  · rw [if_pos hcomment] at haccepts ⊢
    rw [noexecReset, if_pos hcomment, server.statements_on ts s.db haccepts, List.append_nil,
      Noexec.run_setNoexec]
  · rw [if_neg hcomment] at haccepts ⊢
    rw [noexecReset, if_neg hcomment, server.statements_wrapped ts s.db haccepts,
      Noexec.run_setNoexec]

/-- The user's SQL, in a dry run that is not rejected, executes nothing. -/
theorem untouched_showplanSql_iff (sql : String) (s : Session (List Token) σ) :
    Untouched s (server.runBatch (showplanSql sql) s) ↔
      server.Rejects (showplanSql sql) s.db ∨
        Noexec.skips server.engine s.db true (server.userStatements sql) = true := by
  by_cases hrejects : server.Rejects (showplanSql sql) s.db
  · rw [runBatch_of_rejects hrejects]
    exact ⟨fun _ => .inl hrejects, fun _ => ⟨rfl, rfl⟩⟩
  · have hskips : Noexec.skips server.engine s.db true
        (server.userStatements sql ++ noexecReset sql) =
          Noexec.skips server.engine s.db true (server.userStatements sql) := by
      unfold noexecReset
      split
      · rw [List.append_nil]
      · exact Noexec.skips_append_setNoexec _ _ _ _
    rw [runBatch_showplanSql hrejects]
    have hrun := Noexec.untouched_run_iff (e := server.engine)
      (server.userStatements sql ++ noexecReset sql) { s with noexec := true }
    simp only [hskips] at hrun
    rw [or_iff_right hrejects, ← hrun]
    rfl

end SqlServer

/-! ## The dry runs -/

/-- A dry run leaves no effect on the database exactly if the server does not accept its
text or the text does not execute anything: behind EXPLAIN if the SQL does not ask for
ANALYZE, in SQL Server if no statement of the SQL stands behind a SET NOEXEC OFF of its
own. -/
theorem dry_run_without_effect_iff :
    (∀ (server : PgServer σ) (sql : String) (st : σ × List (List Token)),
      (PostgresProvider.dryRun server.fetchAll sql st).2 = st ↔ ¬ server.Analyzes sql st.1) ∧
    (∀ (captures : Captures) (server : PgServer σ) (sql : String) (st : σ × List (List Token)),
      (RedshiftProvider.dryRun captures server.fetchAll sql st).2 = st ↔
        ¬ server.Analyzes sql st.1) ∧
    ∀ (captures : Captures) (server : SqlServer σ) (sql : String) (s : Session (List Token) σ),
      Untouched s (SqlServerProvider.dryRun captures server.simpleQuery sql s).2 ↔
        server.Rejects (showplanSql sql) s.db ∨
          Noexec.skips server.engine s.db true (server.userStatements sql) = true := by
  refine ⟨?_, ?_, ?_⟩
  · intro server sql st
    rw [PostgresProvider.dryRun, explainDryRun_state]
    exact PgServer.fetchAll_explainSql sql st
  · intro captures server sql st
    rw [RedshiftProvider.dryRun, explainDryRun_state]
    exact PgServer.fetchAll_explainSql sql st
  · intro captures server sql s
    rw [SqlServerProvider.dryRun_state]
    exact SqlServer.untouched_showplanSql_iff sql s

/-! ## Servers with one table -/

/-- `DELETE FROM t` -/
def deleteFromT : List Token := ["DELETE", "FROM", "t"].map (.word ·.toList)

/-- PostgreSQL's quotes, words and blanks. -/
def pgDialect : Dialect where
  closing c := if c = apostrophe ∨ c = '"' then some c else none
  isWordChar c := c.isAlphanum || c ∈ ['_', '$'] || 0x80 ≤ c.toNat
  isBlank c := c = ' ' || (0x9 ≤ c.toNat && c.toNat ≤ 0xD)
  endsLine c := c = '\n' || c = '\r'
  semicolon_symbol := by
    refine ⟨by decide, by decide, by decide, by decide, fun o h => ?_⟩
    split at h
    · rename_i ho
      rcases ho with rfl | rfl <;> exact absurd h (by decide)
    · cases h

/-- A server whose state is the number of rows of the table `t`, which it can delete. -/
def PgServer.oneTable : PgServer ℕ where
  tokens := SqlText.tokens pgDialect
  tokens_explain _ :=
    SqlText.tokens_after (by decide : SqlText.read pgDialect _ _ = ([explainWord], .code []))
  isOn value := value ∈ [[], [.word "on".toList], [.word "true".toList], [.word "1".toList]]
  accepts ts _ := deleteFromT.isSuffixOf ts
  execute stmt db := (.rows [], if stmt = deleteFromT then 0 else db)
  plan _ _ := .rows []
  reject _ _ := .error (.ofDatabase "syntax error")

/-- What a statement between semicolons is. -/
def tsqlStatement (ts : List Token) : Statement (List Token) :=
  if ts = noexecOn.dropLast then .setNoexec true
  else if ts = noexecOff.tail.dropLast then .setNoexec false
  else .other ts

/-- The statements between semicolons. -/
def tsqlStatements (ts : List Token) : List (Statement (List Token)) :=
  ((ts.splitOnP (· = .symbol ';')).filter (· ≠ [])).map tsqlStatement

theorem tsqlStatements_append (xs ys : List Token) :
    tsqlStatements (xs ++ .symbol ';' :: ys) = tsqlStatements xs ++ tsqlStatements ys := by
  unfold tsqlStatements
  rw [List.splitOnP_append_cons _ _ (by simp), List.filter_append, List.map_append]

theorem tsqlStatements_on (ts : List Token) :
    tsqlStatements (noexecOn ++ ts) = .setNoexec true :: tsqlStatements ts := by
  have hon : noexecOn ++ ts = noexecOn.dropLast ++ .symbol ';' :: ts := rfl
  rw [hon, tsqlStatements_append]
  rfl

theorem tsqlStatements_off (ts : List Token) :
    tsqlStatements (ts ++ noexecOff) = tsqlStatements ts ++ [.setNoexec false] := by
  unfold noexecOff
  rw [List.cons_append, tsqlStatements_append]
  rfl

/-- A SQL Server that knows the table `t`, by the number of its rows, and no other. A
statement that reads from another table stops its batch. -/
def SqlServer.oneTable : SqlServer ℕ where
  accepts _ _ := true
  statements := tsqlStatements
  engine := {
    execute := fun stmt db =>
      { db := if stmt = deleteFromT then 0 else db, noexec := false, goesOn := true }
    compiles := fun stmt _ => .word "FROM".toList ∉ stmt || .word "t".toList ∈ stmt }
  answer _ _ := .rows []
  statements_on ts _ _ := tsqlStatements_on ts
  statements_wrapped ts _ _ := by rw [tsqlStatements_on, tsqlStatements_off]

/-- Dry runs that delete the three rows of the table. -/
theorem dry_runs_delete :
    (PostgresProvider.dryRun PgServer.oneTable.fetchAll "ANALYZE DELETE FROM t" (3, [])).2 =
        (0, [deleteFromT]) ∧
      (SqlServerProvider.dryRun .none SqlServer.oneTable.simpleQuery
          "SET NOEXEC OFF; DELETE FROM t" ⟨3, false, []⟩).2 = ⟨0, false, [deleteFromT]⟩ := by
  constructor
  · rw [PostgresProvider.dryRun, explainDryRun_state]
    decide
  · rw [SqlServerProvider.dryRun_state]
    decide

end KyomiConnect
