import Mathlib.Data.List.Infix
import Mathlib.Tactic.Common

/-! # A queue with one consumer

Elements are put at the end of a queue. A consumer takes them from its front, one at a
time, and delivers each before it takes the next; it may stop at any moment, also with
an element in its hands, which is delivered or not.

`contents` is everything that was ever put into the queue, in order: no operation but
`push` changes it, and what was delivered is its beginning.
-/

/-- What the consumer does. -/
inductive Fifo.Consumer (α : Type) where
  | waiting
  | holding (x : α)
  /-- it has stopped, without having delivered the element in its hands, if any -/
  | stopped (undelivered : Option α)
deriving DecidableEq, Repr

structure Fifo (α : Type) where
  delivered : List α
  consumer : Fifo.Consumer α
  queue : List α
deriving DecidableEq, Repr

namespace Fifo

variable {α β : Type}

def empty : Fifo α := ⟨[], .waiting, []⟩

/-- The element in the consumer's hands. -/
def Consumer.inHand : Consumer α → List α
  | .holding x | .stopped (some x) => [x]
  | _ => []

def Consumer.isStopped : Consumer α → Bool
  | .stopped _ => true
  | _ => false

def push (x : α) (f : Fifo α) : Fifo α := { f with queue := f.queue ++ [x] }

/-- The consumer takes the first element. -/
def take (f : Fifo α) : Option (Fifo α) :=
  match f.consumer, f.queue with
  | .waiting, x :: rest => some { f with consumer := .holding x, queue := rest }
  | _, _ => none

/-- The consumer delivers the element in its hands. -/
def deliver (f : Fifo α) : Option (Fifo α) :=
  match f.consumer with
  | .holding x => some { f with delivered := f.delivered ++ [x], consumer := .waiting }
  | _ => none

/-- The consumer stops; an element in its hands may have been delivered. -/
def stop (last : Bool) (f : Fifo α) : Fifo α :=
  match f.consumer with
  | .waiting => { f with consumer := .stopped none }
  | .holding x =>
      if last then { f with delivered := f.delivered ++ [x], consumer := .stopped none }
      else { f with consumer := .stopped (some x) }
  | .stopped _ => f

/-- Everything that was put into the queue. -/
def contents (f : Fifo α) : List α := f.delivered ++ (f.consumer.inHand ++ f.queue)

@[simp] theorem contents_empty : (empty : Fifo α).contents = [] := rfl

@[simp] theorem contents_push (x : α) (f : Fifo α) : (f.push x).contents = f.contents ++ [x] := by
  simp [contents, push]

/-- An item that is taken is still there, in the consumer's hand. -/
theorem contents_take {f g : Fifo α} (h : f.take = some g) : g.contents = f.contents := by
  unfold take at h
  split at h
  · rename_i x rest hconsumer hqueue
    cases h
    simp [contents, hconsumer, hqueue, Consumer.inHand]
  · cases h

/-- An item that is delivered is counted there. -/
theorem contents_deliver {f g : Fifo α} (h : f.deliver = some g) : g.contents = f.contents := by
  unfold deliver at h
  split at h
  · rename_i x hconsumer
    cases h
    simp [contents, hconsumer, Consumer.inHand]
  · cases h

@[simp] theorem contents_stop (last : Bool) (f : Fifo α) : (f.stop last).contents = f.contents := by
  unfold stop
  split
  · rename_i hconsumer
    simp [contents, hconsumer, Consumer.inHand]
  · rename_i x hconsumer
    cases last <;> simp [contents, hconsumer, Consumer.inHand]
  · rfl

/-- One element goes from the queue to the consumer's hands. -/
theorem length_take {f g : Fifo α} (h : f.take = some g) :
    g.queue.length + 1 = f.queue.length ∧ g.consumer.inHand.length = 1 ∧
      f.consumer.inHand.length = 0 := by
  unfold take at h
  split at h
  · rename_i hconsumer hqueue
    cases h
    simp [hconsumer, hqueue, Consumer.inHand]
  · cases h

/-- Delivering empties the hand. -/
theorem length_deliver {f g : Fifo α} (h : f.deliver = some g) :
    g.queue = f.queue ∧ g.consumer.inHand.length = 0 ∧ f.consumer.inHand.length = 1 := by
  unfold deliver at h
  split at h
  · rename_i hconsumer
    cases h
    simp [hconsumer, Consumer.inHand]
  · cases h

@[simp] theorem queue_stop (last : Bool) (f : Fifo α) : (f.stop last).queue = f.queue := by
  unfold stop
  split
  · rfl
  · cases last <;> rfl
  · rfl

/-- Only a running consumer takes an item. -/
theorem running_of_take {f g : Fifo α} (h : f.take = some g) : f.consumer.isStopped = false := by
  unfold take at h
  split at h
  · rename_i hconsumer _
    rw [hconsumer]
    rfl
  · cases h

/-- Only a running consumer delivers. -/
theorem running_of_deliver {f g : Fifo α} (h : f.deliver = some g) :
    f.consumer.isStopped = false := by
  unfold deliver at h
  split at h
  · rename_i hconsumer
    rw [hconsumer]
    rfl
  · cases h

/-- It runs on after taking an item. -/
theorem running_take {f g : Fifo α} (h : f.take = some g) : g.consumer.isStopped = false := by
  unfold take at h
  split at h
  · cases h
    rfl
  · cases h

/-- It runs on after delivering. -/
theorem running_deliver {f g : Fifo α} (h : f.deliver = some g) : g.consumer.isStopped = false := by
  unfold deliver at h
  split at h
  · cases h
    rfl
  · cases h

@[simp] theorem isStopped_stop (last : Bool) (f : Fifo α) :
    (f.stop last).consumer.isStopped = true := by
  unfold stop
  split
  · rfl
  · cases last <;> rfl
  · rename_i hconsumer
    rw [hconsumer]
    rfl

/-- What was delivered is the beginning of what was put in. -/
theorem delivered_prefix (f : Fifo α) : f.delivered <+: f.contents := List.prefix_append _ _

/-- Of any kind of elements too. -/
theorem filterMap_delivered_prefix (p : α → Option β) (f : Fifo α) :
    f.delivered.filterMap p <+: f.contents.filterMap p := by
  unfold contents
  rw [List.filterMap_append]
  exact List.prefix_append _ _

/-- A waiting consumer of an empty queue has delivered everything. -/
theorem delivered_eq_contents {f : Fifo α} (hconsumer : f.consumer = .waiting)
    (hqueue : f.queue = []) :
    f.delivered = f.contents := by
  unfold contents
  rw [hconsumer, hqueue]
  exact (List.append_nil _).symm

end Fifo
