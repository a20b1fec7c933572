import Mathlib.Logic.Relation
import Mathlib.Tactic.Common

/-! # Runs of a system

A run is a sequence of states without an end: each state comes from the one before by a
step of the system, or is that state once more.

What holds at the start and is kept by every step holds throughout (`IsRun.invariant`).
What is said about a state and its place in the run is carried on from any place
(`IsRun.since`): this is how a value that was read at one moment and is used at a later
one is accounted for. A map of the states that takes every step to a step, or to none,
takes runs to runs (`IsRun.map`).
-/

variable {σ τ : Type}

def IsRun (step : σ → σ → Prop) (run : ℕ → σ) : Prop :=
  ∀ i, step (run i) (run (i + 1)) ∨ run (i + 1) = run i

namespace IsRun

variable {step : σ → σ → Prop} {run : ℕ → σ}

/-- What is said about a state and its place, from place `i` on. -/
theorem since (hrun : IsRun step run) {P : ℕ → σ → Prop} {i j : ℕ} (hij : i ≤ j)
    (hstart : P i (run i))
    (hstep : ∀ n, i ≤ n → step (run n) (run (n + 1)) → P n (run n) → P (n + 1) (run (n + 1)))
    (hlater : ∀ n s, P n s → P (n + 1) s) : P j (run j) := by
  -- on the steps since `i`
  induction hij with
  | refl => exact hstart
  | @step n hn ih =>
      rcases hrun n with hs | hs
      · exact hstep n hn hs ih
      · rw [hs]
        exact hlater n _ ih

/-- An invariant of the system. -/
theorem invariant (hrun : IsRun step run) {Inv : σ → Prop} (hstart : Inv (run 0))
    (hstep : ∀ s s', step s s' → Inv s → Inv s') (i : ℕ) : Inv (run i) := by
  apply hrun.since (P := fun _ s => Inv s) (Nat.zero_le i) hstart
  · intro n _ hs hn
    exact hstep _ _ hs hn
  · intro _ _ hs
    exact hs

theorem reaches (hrun : IsRun step run) {i j : ℕ} (hij : i ≤ j) :
    Relation.ReflTransGen step (run i) (run j) := by
  apply hrun.since (P := fun _ s => Relation.ReflTransGen step (run i) s) hij .refl
  · intro n _ hs hn
    exact hn.tail hs
  · intro _ _ hs
    exact hs

/-- A run as the run of a coarser system. -/
theorem map {step' : τ → τ → Prop} (hrun : IsRun step run) (f : σ → τ)
    (hstep : ∀ i, step (run i) (run (i + 1)) →
      step' (f (run i)) (f (run (i + 1))) ∨ f (run (i + 1)) = f (run i)) :
    IsRun step' fun i => f (run i) := by
  intro i
  rcases hrun i with hs | hs
  · exact hstep i hs
  · exact .inr (congrArg f hs)

end IsRun
