import Mathlib.Data.List.Basic
import Mathlib.Tactic.Common

/-! # Tasks taken in turn

A list of tasks is worked through from the front; a task takes the state to the
next one and leaves a record of what came of it. `InTurn step s tasks records s'`
says so for a step relation that may depend on the state, so a record need not be
a function of its task.

* `InTurn.map_eq`: the records stand for the tasks, one each and in order;
* `filterMap_around`: what is collected from two lists of records that agree away
  from a position differs at most by what that position contributes;
* `length_filterMap_add`: records that give either a value or a failure are all
  accounted for.
-/

/-- The tasks are worked through one after the other. -/
inductive InTurn {σ α β : Type*} (step : σ → α → β → σ → Prop) :
    σ → List α → List β → σ → Prop where
  | done (s : σ) : InTurn step s [] [] s
  | next {s s₁ s' : σ} {a : α} {b : β} {as : List α} {bs : List β} (head : step s a b s₁)
      (tail : InTurn step s₁ as bs s') : InTurn step s (a :: as) (b :: bs) s'

namespace InTurn

variable {σ α β γ ε : Type*} {step : σ → α → β → σ → Prop}

/-- What a record tells of its task, the records tell of the tasks. -/
theorem map_eq {s s' : σ} {as : List α} {bs : List β} (h : InTurn step s as bs s')
    (ofTask : α → γ) (ofRecord : β → γ)
    (hstep : ∀ s a b s', step s a b s' → ofRecord b = ofTask a) :
    bs.map ofRecord = as.map ofTask := by
  -- task by task, each with its record
  induction h with
  | done s => rfl
  | next head tail ih =>
      rw [List.map_cons, List.map_cons, hstep _ _ _ _ head, ih]

/-- A list around one of its positions. -/
theorem around (xs : List β) (i : ℕ) :
    xs = xs.take i ++ xs[i]?.toList ++ xs.drop (i + 1) := by
  induction xs generalizing i with
  | nil => simp
  | cons x xs ih =>
      cases i with
      | zero => simp
      | succ i =>
          have htail := ih i
          simp only [List.take_succ_cons, List.getElem?_cons_succ, List.drop_succ_cons,
            List.cons_append]
          exact congrArg (x :: ·) htail

/-- Lists that agree away from a position differ only in what is collected there. -/
theorem filterMap_around (f : β → Option γ) {xs ys : List β} {i : ℕ}
    (hagree : ∀ j, j ≠ i → xs[j]? = ys[j]?) :
    ∃ before after,
      xs.filterMap f = before ++ (xs[i]?.bind f).toList ++ after ∧
      ys.filterMap f = before ++ (ys[i]?.bind f).toList ++ after := by
  have htake : xs.take i = ys.take i := by
    apply List.ext_getElem?
    intro j
    rw [List.getElem?_take, List.getElem?_take]
    by_cases hj : j < i
    · rw [if_pos hj, if_pos hj, hagree j (by omega)]
    · rw [if_neg hj, if_neg hj]
  have hdrop : xs.drop (i + 1) = ys.drop (i + 1) := by
    apply List.ext_getElem?
    intro j
    rw [List.getElem?_drop, List.getElem?_drop, hagree _ (by omega)]
  have hcollect : ∀ zs : List β, zs.filterMap f =
      (zs.take i).filterMap f ++ (zs[i]?.bind f).toList ++ (zs.drop (i + 1)).filterMap f := by
    intro zs
    conv_lhs => rw [around zs i]
    cases hz : zs[i]? with
    | none => simp
    | some z => cases hf : f z <;> simp [hf]
  refine ⟨(xs.take i).filterMap f, (xs.drop (i + 1)).filterMap f, hcollect xs, ?_⟩
  rw [htake, hdrop]
  exact hcollect ys

/-- Values and failures together are as many as the records. -/
theorem length_filterMap_add {value : β → Option γ} {failure : β → Option ε} {xs : List β}
    (hone : ∀ b ∈ xs, (value b).isSome = (failure b).isNone) :
    (xs.filterMap value).length + (xs.filterMap failure).length = xs.length := by
  -- each item is counted on one of the two sides
  induction xs with
  | nil => rfl
  | cons x xs ih =>
      have hx := hone x (by simp)
      have hrest := ih fun b hb => hone b (by simp [hb])
      cases hv : value x <;> cases hf : failure x <;> simp [hv, hf] at hx ⊢ <;> omega

end InTurn
