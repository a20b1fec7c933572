import Mathlib.Control.Monad.Basic
import Mathlib.Data.List.Infix
import Mathlib.Tactic.Common

/-! # Computations that agree

A computation on a state that may stop with an error. Its `outcome` is the value, if
there is one, and the next state: which error it was is left out. Two computations agree
in a state when they have the same outcome there.

Where the state is a log, a computation that only adds to its end `Grows` it. What comes
first in the log of one and not of another keeps the two from agreeing.
-/

namespace Agreement

variable {σ ε α β E : Type}

/-- The value, if there is one, and the next state. -/
def outcome (x : ExceptT ε (StateM σ) α) (s : σ) : Option α × σ := ((x s).1.toOption, (x s).2)

@[simp] theorem outcome_pure (a : α) (s : σ) :
    outcome (pure a : ExceptT ε (StateM σ) α) s = (some a, s) := rfl

/-- The outcome of one computation after the other. -/
theorem outcome_bind (x : ExceptT ε (StateM σ) α) (f : α → ExceptT ε (StateM σ) β) (s : σ) :
    outcome (x >>= f) s =
      match outcome x s with
      | (some a, s') => outcome (f a) s'
      | (none, s') => (none, s') := by
  have hbind : (x >>= f) s = ExceptT.bindCont f (x s).1 (x s).2 := rfl
  unfold outcome
  rw [hbind]
  rcases x s with ⟨_ | a, s'⟩
  · rfl
  · rfl

/-- Computations that agree go on to agree, if what follows them does. -/
theorem outcome_bind_congr {x y : ExceptT ε (StateM σ) α} {f g : α → ExceptT ε (StateM σ) β} {s : σ}
    (h : outcome x s = outcome y s)
    (hfg : ∀ a s', outcome x s = (some a, s') → outcome (f a) s' = outcome (g a) s') :
    outcome (x >>= f) s = outcome (y >>= g) s := by
  rw [outcome_bind, outcome_bind, ← h]
  rcases hx : outcome x s with ⟨_ | a, s'⟩
  · rfl
  · exact hfg a s' hx

/-! ## Logs -/

/-- The computation only adds to the log. -/
def Grows (x : ExceptT ε (StateM (List E)) α) : Prop := ∀ log, log <+: (outcome x log).2

theorem grows_pure (a : α) : Grows (pure a : ExceptT ε (StateM (List E)) α) :=
  fun log => List.prefix_refl log

/-- What a computation added is still there after the next one. -/
theorem prefix_bind {x : ExceptT ε (StateM (List E)) α} {f : α → ExceptT ε (StateM (List E)) β}
    {log log' : List E} (hx : log' <+: (outcome x log).2) (hf : ∀ a, Grows (f a)) :
    log' <+: (outcome (x >>= f) log).2 := by
  rw [outcome_bind]
  rcases h : outcome x log with ⟨_ | a, log''⟩
  · rwa [h] at hx
  · rw [h] at hx
    exact hx.trans (hf a log'')

theorem Grows.bind {x : ExceptT ε (StateM (List E)) α} {f : α → ExceptT ε (StateM (List E)) β}
    (hx : Grows x) (hf : ∀ a, Grows (f a)) : Grows (x >>= f) :=
  fun log => prefix_bind (hx log) hf

/-- The computation adds this entry first. -/
def Begins (entry : E) (x : ExceptT ε (StateM (List E)) α) : Prop :=
  ∀ log, log ++ [entry] <+: (outcome x log).2

theorem Begins.grows {entry : E} {x : ExceptT ε (StateM (List E)) α} (hx : Begins entry x) :
    Grows x :=
  fun log => (List.prefix_append log [entry]).trans (hx log)

theorem Begins.bind {entry : E} {x : ExceptT ε (StateM (List E)) α}
    {f : α → ExceptT ε (StateM (List E)) β} (hx : Begins entry x) (hf : ∀ a, Grows (f a)) :
    Begins entry (x >>= f) :=
  fun log => prefix_bind (hx log) hf

/-- Computations that agree begin with the same entry. -/
theorem Begins.unique {entry entry' : E} {x y : ExceptT ε (StateM (List E)) α} {log : List E}
    (hx : Begins entry x) (hy : Begins entry' y) (h : outcome x log = outcome y log) :
    entry = entry' := by
  have hx := hx log
  have hy := hy log
  rw [h] at hx
  have hprefix := List.prefix_of_prefix_length_le hx hy (by simp)
  simpa using hprefix

theorem Begins.ne {entry : E} {x : ExceptT ε (StateM (List E)) α} (hx : Begins entry x)
    (log : List E) : (outcome x log).2 ≠ log := by
  intro h
  have hprefix := (hx log).length_le
  rw [h, List.length_append] at hprefix
  simp only [List.length_singleton] at hprefix
  omega

end Agreement
