import Mathlib.Order.Basic
import Mathlib.Tactic.Common

/-! # Loops with an explicit stop

A loop body either stops with a result or goes on from a new state. `run`
unrolls the body at most `fuel` times and is `none` when the fuel is used up,
so a loop that never stops is `none` at every fuel. `Yields` is the reading
without fuel: the loop stops and its result is `r`.

The rules are the usual ones: a result does not depend on the fuel
(`Yields.unique`), an invariant of the body holds where the loop stops
(`Yields.invariant`), and a decreasing measure makes it stop
(`exists_yields_of_measure`).
-/

namespace Loop

universe u v

/-- One turn of a loop body: stop with a result, or go on. -/
inductive Turn (σ : Type u) (ρ : Type v) where
  | stop (r : ρ)
  | again (s : σ)

variable {σ : Type u} {ρ : Type v} (body : σ → Turn σ ρ)

/-- Unroll the body at most `fuel` times. -/
def run : ℕ → σ → Option ρ
  | 0, _ => none
  | fuel + 1, s =>
      match body s with
      | .stop r => some r
      | .again s' => run fuel s'

/-- The loop started in `s` stops with the result `r`. -/
def Yields (s : σ) (r : ρ) : Prop := ∃ fuel, run body fuel s = some r

variable {body}

theorem run_stop {s : σ} {r : ρ} (h : body s = .stop r) (fuel : ℕ) :
    run body (fuel + 1) s = some r := by
  simp only [run, h]

theorem run_again {s s' : σ} (h : body s = .again s') (fuel : ℕ) :
    run body (fuel + 1) s = run body fuel s' := by
  simp only [run, h]

/-- More fuel does not change a result. -/
theorem run_mono {fuel fuel' : ℕ} (hle : fuel ≤ fuel') {s : σ} {r : ρ}
    (h : run body fuel s = some r) : run body fuel' s = some r := by
  -- on the fuel: both runs make the same turns
  induction fuel generalizing s fuel' with
  | zero => simp [run] at h
  | succ fuel ih =>
      obtain ⟨k, rfl⟩ : ∃ k, fuel' = k + 1 := ⟨fuel' - 1, by omega⟩
      cases hb : body s with
      | stop r' =>
          rw [run_stop hb] at h ⊢
          exact h
      | again s' =>
          rw [run_again hb] at h ⊢
          exact ih (by omega) h

/-- A body that stops at once. -/
theorem Yields.stop {s : σ} {r : ρ} (h : body s = .stop r) : Yields body s r :=
  ⟨1, run_stop h 0⟩

/-- A body that goes on has the result of the state it goes on from. -/
theorem Yields.again {s s' : σ} {r : ρ} (h : body s = .again s') (hr : Yields body s' r) :
    Yields body s r := by
  obtain ⟨fuel, hf⟩ := hr
  exact ⟨fuel + 1, by rw [run_again h, hf]⟩

theorem yields_iff_of_stop {s : σ} {r r' : ρ} (h : body s = .stop r) :
    Yields body s r' ↔ r = r' := by
  constructor
  · rintro ⟨fuel, hf⟩
    cases fuel with
    | zero => simp [run] at hf
    | succ fuel =>
        rw [run_stop h] at hf
        exact Option.some.inj hf
  · rintro rfl
    exact Yields.stop h

/-- A loop has at most one result. -/
theorem Yields.unique {s : σ} {r r' : ρ} (h : Yields body s r) (h' : Yields body s r') :
    r = r' := by
  obtain ⟨n, hn⟩ := h
  obtain ⟨m, hm⟩ := h'
  have h1 := run_mono (Nat.le_max_left n m) hn
  have h2 := run_mono (Nat.le_max_right n m) hm
  exact Option.some.inj (h1.symm.trans h2)

/-- Invariant rule: what every turn preserves holds where the loop stops. -/
theorem Yields.invariant {Inv : σ → Prop} {Post : ρ → Prop}
    (hstop : ∀ s r, Inv s → body s = .stop r → Post r)
    (hstep : ∀ s s', Inv s → body s = .again s' → Inv s')
    {s : σ} {r : ρ} (hs : Inv s) (h : Yields body s r) : Post r := by
  obtain ⟨fuel, hf⟩ := h
  -- on the fuel that the run has taken
  induction fuel generalizing s with
  | zero => simp [run] at hf
  | succ fuel ih =>
      cases hb : body s with
      | stop r' =>
          rw [run_stop hb] at hf
          exact Option.some.inj hf ▸ hstop s r' hs hb
      | again s' =>
          rw [run_again hb] at hf
          exact ih (hstep s s' hs hb) hf

/-- Termination rule: a measure that every further turn decreases. -/
theorem exists_yields_of_measure (Inv : σ → Prop) (measure : σ → ℕ)
    (hstep : ∀ s s', Inv s → body s = .again s' → Inv s' ∧ measure s' < measure s)
    {s : σ} (hs : Inv s) : ∃ r, Yields body s r := by
  -- on the measure, which every turn lowers
  induction hm : measure s using Nat.strongRecOn generalizing s with
  | ind n ih =>
      cases hb : body s with
      | stop r => exact ⟨r, Yields.stop hb⟩
      | again s' =>
          obtain ⟨hs', hlt⟩ := hstep s s' hs hb
          obtain ⟨r, hr⟩ := ih (measure s') (hm ▸ hlt) hs' rfl
          exact ⟨r, Yields.again hb hr⟩

end Loop
