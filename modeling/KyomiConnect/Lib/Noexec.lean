import Mathlib.Data.List.Infix
import Mathlib.Tactic.Common

/-! # Batches of statements under NOEXEC

A session of a database with an option NOEXEC. While it is off the statements of a
batch are executed; while it is on they are only compiled, and nothing but the
statement that sets the option has an effect. A statement may stop the batch: an
executed one by failing, a compiled one by not compiling.

`run_append` is the rule for one part of a batch after another, `run_others` the
rule for a part that is only compiled, and `untouched_run_iff` says exactly when a
batch executes nothing.
-/

namespace Noexec

variable {α σ : Type}

/-- A statement of a batch. -/
inductive Statement (α : Type) where
  | setNoexec (on : Bool)
  | other (stmt : α)
deriving DecidableEq, Repr

/-- A session, with the statements it has executed. -/
structure Session (α σ : Type) where
  db : σ
  noexec : Bool
  executed : List α
deriving DecidableEq, Repr

/-- What executing a statement does. -/
structure Effect (σ : Type) where
  db : σ
  /-- the option after a statement, which may set it within itself -/
  noexec : Bool
  goesOn : Bool

/-- How statements are executed and compiled. -/
structure Engine (α σ : Type) where
  execute : α → σ → Effect σ
  compiles : α → σ → Bool

section Run

variable (e : Engine α σ)

/-- Run a statement; the flag says whether the batch goes on. -/
def runStatement (s : Session α σ) : Statement α → Session α σ × Bool
  | .setNoexec on => ({ s with noexec := on }, true)
  | .other stmt =>
      if s.noexec then (s, e.compiles stmt s.db)
      else
        let effect := e.execute stmt s.db
        ({ db := effect.db, noexec := effect.noexec, executed := s.executed ++ [stmt] },
          effect.goesOn)

/-- Run the statements of a batch; the flag says whether its end is reached. -/
def run : List (Statement α) → Session α σ → Session α σ × Bool
  | [], s => (s, true)
  | stmt :: rest, s =>
      match runStatement e s stmt with
      | (s, true) => run rest s
      | (s, false) => (s, false)

/-- The statements, run in this state with this option, execute nothing: up to one
that does not compile, those that do not set the option stand under NOEXEC. -/
def skips (db : σ) : Bool → List (Statement α) → Bool
  | _, [] => true
  | _, .setNoexec on :: rest => skips db on rest
  | false, .other _ :: _ => false
  | true, .other stmt :: rest => !e.compiles stmt db || skips db true rest

/-- Neither the database nor the list of executed statements has changed. -/
def Untouched (s t : Session α σ) : Prop := t.db = s.db ∧ t.executed = s.executed

end Run

variable {e : Engine α σ}

theorem run_nil (s : Session α σ) : run e [] s = (s, true) := rfl

theorem run_setNoexec (on : Bool) (rest : List (Statement α)) (s : Session α σ) :
    run e (.setNoexec on :: rest) s = run e rest { s with noexec := on } := rfl

theorem runStatement_suppressed {s : Session α σ} (h : s.noexec = true) (stmt : α) :
    runStatement e s (.other stmt) = (s, e.compiles stmt s.db) := by
  rw [runStatement, if_pos h]

theorem runStatement_executed {s : Session α σ} (h : s.noexec = false) (stmt : α) :
    runStatement e s (.other stmt) =
      ({ db := (e.execute stmt s.db).db, noexec := (e.execute stmt s.db).noexec,
         executed := s.executed ++ [stmt] }, (e.execute stmt s.db).goesOn) := by
  rw [runStatement, if_neg (by simp [h])]

/-- One part of a batch after another. -/
theorem run_append (xs ys : List (Statement α)) (s : Session α σ) :
    run e (xs ++ ys) s =
      if (run e xs s).2 then run e ys (run e xs s).1 else run e xs s := by
  -- statement by statement; a failure ends both
  induction xs generalizing s with
  | nil => rfl
  | cons x xs ih =>
      rw [List.cons_append, run, run]
      rcases runStatement e s x with ⟨s', _ | _⟩
      · rfl
      · exact ih s'

/-- Under NOEXEC, statements that do not set it are compiled, up to one that does not
compile. -/
theorem run_others {stmts : List α} {s : Session α σ} (h : s.noexec = true) :
    run e (stmts.map .other) s = (s, stmts.all (e.compiles · s.db)) := by
  -- while NOEXEC is on a statement is compiled only
  induction stmts with
  | nil => rfl
  | cons stmt rest ih =>
      rw [List.map_cons, run, runStatement_suppressed h, List.all_cons]
      cases hcompiles : e.compiles stmt s.db with
      | false => rfl
      | true => simpa using ih

/-- Nothing that was executed is taken back. -/
theorem executed_prefix_run (stmts : List (Statement α)) (s : Session α σ) :
    s.executed <+: (run e stmts s).1.executed := by
  -- statement by statement; nothing is taken back
  induction stmts generalizing s with
  | nil => exact List.prefix_rfl
  | cons stmt rest ih =>
      have hstep : s.executed <+: (runStatement e s stmt).1.executed := by
        cases stmt with
        | setNoexec on => exact List.prefix_rfl
        | other stmt =>
            cases hnoexec : s.noexec with
            | true =>
                rw [runStatement_suppressed hnoexec]
            | false =>
                rw [runStatement_executed hnoexec]
                exact List.prefix_append _ _
      rw [run]
      rcases hrun : runStatement e s stmt with ⟨s', _ | _⟩ <;> rw [hrun] at hstep
      · exact hstep
      · exact hstep.trans (ih s')

/-- While NOEXEC is off, the first statement is executed. -/
theorem executed_of_off {s : Session α σ} (h : s.noexec = false) (stmt : α)
    (rest : List (Statement α)) :
    s.executed ++ [stmt] <+: (run e (.other stmt :: rest) s).1.executed := by
  rw [run, runStatement_executed h]
  cases (e.execute stmt s.db).goesOn with
  | true =>
      exact executed_prefix_run (e := e) rest
        { db := (e.execute stmt s.db).db, noexec := (e.execute stmt s.db).noexec,
          executed := s.executed ++ [stmt] }
  | false => exact List.prefix_rfl

/-- Setting the option at the end executes nothing. -/
theorem skips_append_setNoexec (db : σ) (noexec on : Bool) (stmts : List (Statement α)) :
    skips e db noexec (stmts ++ [.setNoexec on]) = skips e db noexec stmts := by
  -- over the statements in front of it
  induction stmts generalizing noexec with
  | nil => rfl
  | cons stmt rest ih =>
      cases stmt with
      | setNoexec on' => exact ih on'
      | other stmt =>
          cases noexec with
          | false => rfl
          | true =>
              rw [List.cons_append, skips, skips, ih true]

/-- Statements that execute nothing leave the session as it is, but for the option. -/
theorem untouched_run {stmts : List (Statement α)} {s : Session α σ}
    (h : skips e s.db s.noexec stmts = true) : Untouched s (run e stmts s).1 := by
  -- statement by statement: one that is skipped leaves the session as it is
  induction stmts generalizing s with
  | nil => exact ⟨rfl, rfl⟩
  | cons stmt rest ih =>
      cases stmt with
      | setNoexec on => exact ih (s := { s with noexec := on }) h
      | other stmt =>
          cases hnoexec : s.noexec with
          | false =>
              rw [hnoexec] at h
              cases h
          | true =>
              rw [hnoexec, skips, Bool.or_eq_true, Bool.not_eq_true'] at h
              rw [run, runStatement_suppressed hnoexec]
              cases hcompiles : e.compiles stmt s.db with
              | false => exact ⟨rfl, rfl⟩
              | true =>
                  rw [hcompiles] at h
                  refine ih ?_
                  rw [hnoexec]
                  exact h.resolve_left (by simp)

/-- A batch executes nothing exactly if its statements say so. -/
theorem untouched_run_iff (stmts : List (Statement α)) (s : Session α σ) :
    Untouched s (run e stmts s).1 ↔ skips e s.db s.noexec stmts = true := by
  refine ⟨fun h => ?_, untouched_run⟩
  -- statement by statement: one that is executed stays in the log
  induction stmts generalizing s with
  | nil => rfl
  | cons stmt rest ih =>
      cases stmt with
      | setNoexec on => exact ih { s with noexec := on } h
      | other stmt =>
          cases hnoexec : s.noexec with
          | true =>
              rw [skips, Bool.or_eq_true, Bool.not_eq_true']
              cases hcompiles : e.compiles stmt s.db with
              | false => exact .inl rfl
              | true =>
                  rw [run, runStatement_suppressed hnoexec, hcompiles] at h
                  have hrest := ih s h
                  rw [hnoexec] at hrest
                  exact .inr hrest
          | false =>
              -- the statement is executed, and stays so
              exfalso
              have hgrown := executed_of_off (e := e) hnoexec stmt rest
              rw [h.2] at hgrown
              have hlen := hgrown.length_le
              rw [List.length_append, List.length_singleton] at hlen
              omega

end Noexec
