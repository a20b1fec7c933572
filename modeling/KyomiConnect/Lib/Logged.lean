import Mathlib.Control.Monad.Basic
import Mathlib.Tactic.Common

/-! # Computations that keep a log

A state with a log beside it. `note` adds entries to the log as it runs a
computation on the state; `Notes x entries` says that `x` adds exactly these
entries, from whatever state it starts and whatever is in the log.

The rules follow the shape of a computation: a value adds nothing, one computation
after the other adds the entries of both, and where the first may stop with an
exception, the entries of the first, if the second adds none.
-/

namespace Logged

variable {σ ε α β E : Type}

/-- Run a computation on the state and add entries to the log. -/
def note (entries : List ε) (x : StateM σ α) : StateM (σ × List ε) α :=
  fun st => ((x st.1).1, (x st.1).2, st.2 ++ entries)

/-- The computation adds exactly these entries. -/
def Notes (x : StateM (σ × List ε) α) (entries : List ε) : Prop :=
  ∀ s log, (x (s, log)).2.2 = log ++ entries

theorem notes_note (entries : List ε) (x : StateM σ α) : Notes (note entries x) entries :=
  fun _ _ => rfl

theorem notes_pure (a : α) : Notes (pure a : StateM (σ × List ε) α) [] :=
  fun _ log => (List.append_nil log).symm

/-- A quiet computation keeps the log. -/
theorem Notes.keeps {x : StateM (σ × List ε) α} (hx : Notes x []) {log : List ε}
    {st : σ × List ε} (hst : st.2 = log) : (x st).2.2 = log := by
  rw [← hst, ← List.append_nil st.2]
  exact hx st.1 st.2

/-- One computation after the other. -/
theorem Notes.bind {x : StateM (σ × List ε) α} {f : α → StateM (σ × List ε) β}
    {entries entries' : List ε} (hx : Notes x entries) (hf : ∀ a, Notes (f a) entries') :
    Notes (x >>= f) (entries ++ entries') := by
  intro s log
  have hx := hx s log
  have hf := hf (x (s, log)).1 (x (s, log)).2.1 (x (s, log)).2.2
  rw [← List.append_assoc, ← hx]
  exact hf

/-- A quiet computation first. -/
theorem Notes.quietly {x : StateM (σ × List ε) α} {f : α → StateM (σ × List ε) β}
    {entries : List ε} (hx : Notes x []) (hf : ∀ a, Notes (f a) entries) :
    Notes (x >>= f) entries :=
  hx.bind hf

/-- A quiet computation last. -/
theorem Notes.thenQuiet {x : StateM (σ × List ε) α} {f : α → StateM (σ × List ε) β}
    {entries : List ε} (hx : Notes x entries) (hf : ∀ a, Notes (f a) []) :
    Notes (x >>= f) entries := by
  have h := hx.bind hf
  rwa [List.append_nil] at h

/-! ## Exceptions -/

/-- A computation that may stop before a quiet one. -/
theorem Notes.bindExcept {x : ExceptT E (StateM (σ × List ε)) α}
    {f : α → ExceptT E (StateM (σ × List ε)) β} {entries : List ε} (hx : Notes x.run entries)
    (hf : ∀ a, Notes (f a).run []) : Notes (x >>= f).run entries := by
  rw [ExceptT.run_bind]
  refine hx.thenQuiet fun outcome => ?_
  cases outcome with
  | ok a => exact hf a
  | error e => exact notes_pure _

end Logged
