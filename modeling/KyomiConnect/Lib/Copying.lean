import Mathlib.Logic.Function.Basic
import Mathlib.Logic.Relation
import Mathlib.Algebra.BigOperators.Group.Finset.Basic
import Mathlib.Algebra.Order.BigOperators.Group.Finset
import Mathlib.Data.Fintype.Basic

/-! # Copy loops that run side by side

Data flows in some directions. In each, a source writes and may close its sending side; a loop
reads a chunk, writes it out bit by bit, flushes, and ends when there is nothing to read any
more; and a destination reads. A rule on which of the loops have ended says when all of them
are stopped, with whatever they hold. What is written is never reordered or invented
(`Invariant`); it all arrives if the loops are only stopped with nothing left to copy
(`lossless_of_stopsDrained`), and otherwise may not (`exists_loss`). The steps of the loops and
of the destinations come to an end (`weight_lt`).
-/

namespace KyomiConnect.Copying

/-- Where a copy loop is. -/
inductive Loop (α : Type*) where
  | reading
  | writing (rest : List α)
  | flushing
  | ended

/-- One direction: what its source has sent, all of it and the part that is not read yet; the
loop; what the loop has written that is not received yet, and what is. -/
structure Flow (α : Type*) where
  sent : List α
  unread : List α
  closed : Bool
  loop : Loop α
  written : List α
  received : List α

/-- What a source, a loop or a destination does. -/
inductive Act (α : Type*) where
  | send (data : List α)
  | close
  | read (n : ℕ)
  | write (n : ℕ)
  | flush
  | finish
  | receive (n : ℕ)

namespace Act

variable {α : Type*}

/-- The steps of the loop. -/
def isLoop : Act α → Bool
  | read _ | write _ | flush | finish => true
  | _ => false

/-- The steps that bring data on its way: those of the loop and of the destination. -/
def isWork : Act α → Bool
  | send _ | close => false
  | _ => true

end Act

namespace Flow

variable {α : Type*}

def start : Flow α :=
  { sent := [], unread := [], closed := false, loop := .reading, written := [], received := [] }

/-- What the loop has read and not written. -/
def held (f : Flow α) : List α :=
  match f.loop with
  | .writing rest => rest
  | _ => []

def ended (f : Flow α) : Bool :=
  match f.loop with
  | .ended => true
  | _ => false

/-- One step, if it can be taken; a chunk has at most `limit` elements. -/
def step (limit : ℕ) (a : Act α) (f : Flow α) : Option (Flow α) :=
  match a with
  | .send data =>
      if f.closed then none
      else some { f with sent := f.sent ++ data, unread := f.unread ++ data }
  | .close => some { f with closed := true }
  | .read n =>
      match f.loop with
      | .reading =>
          if 0 < n ∧ n ≤ limit ∧ n ≤ f.unread.length then
            some { f with unread := f.unread.drop n, loop := .writing (f.unread.take n) }
          else none
      | _ => none
  | .write n =>
      match f.loop with
      | .writing rest =>
          if 0 < n ∧ n < rest.length then
            some { f with written := f.written ++ rest.take n, loop := .writing (rest.drop n) }
          else if n = rest.length then
            some { f with written := f.written ++ rest, loop := .flushing }
          else none
      | _ => none
  | .flush =>
      match f.loop with
      | .flushing => some { f with loop := .reading }
      | _ => none
  | .finish =>
      match f.loop with
      | .reading =>
          if f.closed ∧ f.unread = [] then some { f with loop := .ended } else none
      | _ => none
  | .receive n =>
      if 0 < n ∧ n ≤ f.written.length then
        some { f with written := f.written.drop n, received := f.received ++ f.written.take n }
      else none

/-- Nothing is left to copy, and nothing will be sent. -/
def Drained (f : Flow α) : Prop := f.closed = true ∧ f.unread = [] ∧ f.held = []

/-- Whatever is sent is on its way or received, in order; the loop does not write an empty
chunk, and ends when nothing is left. -/
structure Invariant (f : Flow α) : Prop where
  conserved : f.sent = f.received ++ f.written ++ f.held ++ f.unread
  chunk : ∀ rest, f.loop = .writing rest → rest ≠ []
  drained : f.ended = true → f.Drained

theorem held_of_reading {f : Flow α} (h : f.loop = .reading) : f.held = [] := by
  rw [held, h]

theorem held_of_writing {f : Flow α} {rest : List α} (h : f.loop = .writing rest) :
    f.held = rest := by
  rw [held, h]

theorem not_ended_of_reading {f : Flow α} (h : f.loop = .reading) : f.ended = false := by
  rw [ended, h]

theorem invariant_start : (start : Flow α).Invariant := by
  constructor
  · rfl
  · intro rest h
    cases h
  · intro h
    cases h

/-- What one step does: a step of each kind, and what it needs. -/
theorem step_cases {limit : ℕ} {a : Act α} {f g : Flow α} (h : f.step limit a = some g) :
    (∃ data, a = .send data ∧ f.closed = false ∧
        g = { f with sent := f.sent ++ data, unread := f.unread ++ data }) ∨
      (a = .close ∧ g = { f with closed := true }) ∨
      (∃ n, a = .read n ∧ f.loop = .reading ∧ 0 < n ∧ n ≤ f.unread.length ∧
        g = { f with unread := f.unread.drop n, loop := .writing (f.unread.take n) }) ∨
      (∃ n rest, a = .write n ∧ f.loop = .writing rest ∧ 0 < n ∧ n < rest.length ∧
        g = { f with written := f.written ++ rest.take n, loop := .writing (rest.drop n) }) ∨
      (∃ n rest, a = .write n ∧ f.loop = .writing rest ∧
        g = { f with written := f.written ++ rest, loop := .flushing }) ∨
      (a = .flush ∧ f.loop = .flushing ∧ g = { f with loop := .reading }) ∨
      (a = .finish ∧ f.loop = .reading ∧ f.closed = true ∧ f.unread = [] ∧
        g = { f with loop := .ended }) ∨
      ∃ n, a = .receive n ∧ 0 < n ∧ n ≤ f.written.length ∧
        g = { f with written := f.written.drop n, received := f.received ++ f.written.take n } := by
  cases a with
  | send data =>
      left
      simp only [step] at h
      split at h
      · cases h
      · exact ⟨data, rfl, by simpa using ‹¬f.closed = true›, (Option.some_inj.1 h).symm⟩
  | close =>
      right; left
      exact ⟨rfl, (Option.some_inj.1 h).symm⟩
  | read n =>
      right; right; left
      cases hloop : f.loop <;> simp only [step, hloop] at h
      case reading =>
        split at h
        · rename_i hn
          exact ⟨n, rfl, rfl, hn.1, hn.2.2, (Option.some_inj.1 h).symm⟩
        · cases h
      all_goals cases h
  | write n =>
      right; right; right
      cases hloop : f.loop <;> simp only [step, hloop] at h
      case writing rest =>
        split at h
        · rename_i hn
          exact .inl ⟨n, rest, rfl, rfl, hn.1, hn.2, (Option.some_inj.1 h).symm⟩
        · split at h
          · exact .inr (.inl ⟨n, rest, rfl, rfl, (Option.some_inj.1 h).symm⟩)
          · cases h
      all_goals cases h
  | flush =>
      right; right; right; right; right; left
      cases hloop : f.loop <;> simp only [step, hloop] at h
      case flushing => exact ⟨rfl, rfl, (Option.some_inj.1 h).symm⟩
      all_goals cases h
  | finish =>
      right; right; right; right; right; right; left
      cases hloop : f.loop <;> simp only [step, hloop] at h
      case reading =>
        split at h
        · rename_i hn
          exact ⟨rfl, rfl, hn.1, hn.2, (Option.some_inj.1 h).symm⟩
        · cases h
      all_goals cases h
  | receive n =>
      right; right; right; right; right; right; right
      simp only [step] at h
      split at h
      · rename_i hn
        exact ⟨n, rfl, hn.1, hn.2, (Option.some_inj.1 h).symm⟩
      · cases h

/-- Every step keeps the invariant. -/
theorem Invariant.step {limit : ℕ} {a : Act α} {f g : Flow α} (hf : f.Invariant)
    (h : f.step limit a = some g) : g.Invariant := by
  obtain ⟨hconserved, hchunk, hdrained⟩ := hf
  rcases step_cases h with ⟨data, -, hopen, rfl⟩ | ⟨-, rfl⟩ | ⟨n, -, hloop, hpos, hn, rfl⟩ |
    ⟨n, rest, -, hloop, hpos, hn, rfl⟩ | ⟨n, rest, -, hloop, rfl⟩ | ⟨-, hloop, rfl⟩ |
    ⟨-, hloop, hclosed, hunread, rfl⟩ | ⟨n, -, hpos, hn, rfl⟩
  · -- the source sends
    refine ⟨?_, hchunk, ?_⟩
    · dsimp only
      rw [hconserved]
      simp [held]
    · intro hended
      have hclosed := (hdrained hended).1
      rw [hopen] at hclosed
      cases hclosed
  · refine ⟨hconserved, hchunk, ?_⟩
    intro hended
    exact ⟨rfl, (hdrained hended).2⟩
  · -- a chunk is read
    refine ⟨?_, ?_, ?_⟩
    · dsimp only [held]
      rw [hconserved, held_of_reading hloop, List.append_nil,
        List.append_assoc _ (f.unread.take n), List.take_append_drop]
    · intro rest hrest
      obtain rfl := (Loop.writing.injEq _ _).mp hrest
      rw [← List.length_pos_iff, List.length_take]
      omega
    · intro hended
      cases hended
  · -- a part of the chunk is written
    refine ⟨?_, ?_, ?_⟩
    · dsimp only [held]
      rw [hconserved, held_of_writing hloop]
      simp
    · intro rest' hrest
      obtain rfl := (Loop.writing.injEq _ _).mp hrest
      rw [← List.length_pos_iff, List.length_drop]
      omega
    · intro hended
      cases hended
  · refine ⟨?_, ?_, ?_⟩
    · dsimp only [held]
      rw [hconserved, held_of_writing hloop]
      simp
    · intro rest' hrest
      cases hrest
    · intro hended
      cases hended
  · refine ⟨?_, ?_, ?_⟩
    · dsimp only [held]
      rw [hconserved, held, hloop]
    · intro rest hrest
      cases hrest
    · intro hended
      cases hended
  · refine ⟨?_, ?_, ?_⟩
    · dsimp only [held]
      rw [hconserved, held_of_reading hloop]
    · intro rest hrest
      cases hrest
    · intro _
      exact ⟨hclosed, hunread, rfl⟩
  · -- the destination receives
    refine ⟨?_, hchunk, hdrained⟩
    dsimp only
    rw [hconserved, List.append_assoc f.received (f.written.take n), List.take_append_drop]
    rfl

/-- What is received is what is sent first. -/
theorem Invariant.received_first {f : Flow α} (hf : f.Invariant) : f.received <+: f.sent := by
  rw [hf.conserved, List.append_assoc, List.append_assoc]
  exact List.prefix_append _ _

/-- Once nothing is left to copy or to receive, everything is received. -/
theorem Invariant.received_eq {f : Flow α} (hf : f.Invariant) (hunread : f.unread = [])
    (hheld : f.held = []) (hwritten : f.written = []) : f.received = f.sent := by
  rw [hf.conserved, hunread, hheld, hwritten]
  simp

/-- What is drained stays so while the loop does nothing. -/
theorem Drained.step {limit : ℕ} {a : Act α} {f g : Flow α} (hf : f.Drained)
    (hloop : a.isLoop = false) (h : f.step limit a = some g) : g.Drained := by
  obtain ⟨hclosed, hunread, hheld⟩ := hf
  rcases step_cases h with ⟨data, -, hopen, -⟩ | ⟨-, rfl⟩ | ⟨n, rfl, -⟩ | ⟨n, rest, rfl, -⟩ |
    ⟨n, rest, rfl, -⟩ | ⟨rfl, -⟩ | ⟨rfl, -⟩ | ⟨n, -, hpos, hn, rfl⟩
  · rw [hclosed] at hopen
    cases hopen
  · exact ⟨rfl, hunread, hheld⟩
  · cases hloop
  · cases hloop
  · cases hloop
  · cases hloop
  · cases hloop
  · exact ⟨hclosed, hunread, hheld⟩

/-- Only the last step of a loop ends it. -/
theorem ended_step {limit : ℕ} {a : Act α} {f g : Flow α} (h : f.step limit a = some g) :
    a = .finish ∨ g.ended = f.ended := by
  rcases step_cases h with ⟨data, -, -, rfl⟩ | ⟨-, rfl⟩ | ⟨n, -, hloop, -, -, rfl⟩ |
    ⟨n, rest, -, hloop, -, -, rfl⟩ | ⟨n, rest, -, hloop, rfl⟩ | ⟨-, hloop, rfl⟩ |
    ⟨hfinish, -⟩ | ⟨n, -, -, -, rfl⟩
  · exact .inr rfl
  · exact .inr rfl
  · right
    rw [not_ended_of_reading hloop]
    rfl
  · right
    simp only [ended, hloop]
  · right
    simp only [ended, hloop]
  · right
    simp only [ended, hloop]
  · exact .inl hfinish
  · exact .inr rfl

theorem ended_of_finish {limit : ℕ} {f g : Flow α} (h : f.step limit .finish = some g) :
    g.ended = true := by
  unfold step at h
  dsimp only at h
  split at h
  · split at h
    · rw [← Option.some_inj.1 h]
      rfl
    · cases h
  · cases h

/-- A loop that goes on has something to do, or nothing is left to copy so far. -/
theorem eq_nil_of_step_eq_none {limit : ℕ} (hlimit : 0 < limit) {f : Flow α} (hf : f.Invariant)
    (h : ∀ a : Act α, a.isLoop = true → f.step limit a = none) :
    f.unread = [] ∧ f.held = [] := by
  cases hloop : f.loop with
  | reading =>
      refine ⟨?_, held_of_reading hloop⟩
      by_contra hne
      have hpos := List.length_pos_iff.2 hne
      have hread := h (.read 1) rfl
      simp only [step, hloop] at hread
      rw [if_pos ⟨Nat.one_pos, hlimit, hpos⟩] at hread
      cases hread
  | writing rest =>
      have hwrite := h (.write rest.length) rfl
      simp only [step, hloop] at hwrite
      simp at hwrite
  | flushing =>
      have hflush := h .flush rfl
      simp only [step, hloop] at hflush
      cases hflush
  | ended =>
      have hended : f.ended = true := by rw [ended, hloop]
      exact (hf.drained hended).2

/-- How much there is to do with what is sent. -/
def weight (f : Flow α) : ℕ :=
  6 * f.unread.length + 4 * f.held.length + f.written.length +
    match f.loop with
    | .reading => 1
    | .flushing => 2
    | _ => 0

/-- Work leaves less of it. -/
theorem weight_lt {limit : ℕ} {a : Act α} {f g : Flow α} (hf : f.Invariant)
    (hwork : a.isWork = true) (h : f.step limit a = some g) : g.weight < f.weight := by
  rcases step_cases h with ⟨data, rfl, -, -⟩ | ⟨rfl, -⟩ | ⟨n, -, hloop, hpos, hn, rfl⟩ |
    ⟨n, rest, -, hloop, hpos, hn, rfl⟩ | ⟨n, rest, -, hloop, rfl⟩ | ⟨-, hloop, rfl⟩ |
    ⟨-, hloop, hclosed, hunread, rfl⟩ | ⟨n, -, hpos, hn, rfl⟩
  · cases hwork
  · cases hwork
  · simp only [weight, held, hloop, List.length_drop, List.length_take, List.length_nil]
    omega
  · simp only [weight, held, hloop, List.length_append, List.length_drop, List.length_take]
    omega
  · have hrest := List.length_pos_iff.2 (hf.chunk rest hloop)
    simp only [weight, held, hloop, List.length_append, List.length_nil]
    omega
  · simp only [weight, held, hloop]
    omega
  · simp only [weight, held, hloop]
    omega
  · simp only [weight, held, List.length_drop]
    omega

end Flow

/-! ## All directions -/

variable {α D : Type*}

/-- A copying: how much a chunk may have, and the rule that stops the loops by which of them
have ended. -/
structure System (D : Type*) where
  limit : ℕ
  stops : (D → Bool) → Bool

structure State (α D : Type*) where
  flow : D → Flow α
  running : Bool

def State.start : State α D := { flow := fun _ => .start, running := true }

namespace System

variable [DecidableEq D] (sys : System D)

/-- One step in one direction; the loops take none once they are stopped. -/
def step (d : D) (a : Act α) (s : State α D) : Option (State α D) :=
  if a.isLoop && !s.running then none
  else
    ((s.flow d).step sys.limit a).map fun f =>
      let flow := Function.update s.flow d f
      { flow, running := s.running && !sys.stops fun d => (flow d).ended }

/-- Any step. -/
def Step (s t : State α D) : Prop := ∃ d a, sys.step d a s = some t

/-- A step that leaves nothing to copy if it stops the loops. -/
def DrainedStep (s t : State α D) : Prop :=
  sys.Step s t ∧ (t.running = false → s.running = true → ∀ d, (t.flow d).Drained)

/-- No loop and no destination has anything to do in a direction. -/
def Settled (s : State α D) (d : D) : Prop :=
  ∀ a : Act α, a.isWork = true → sys.step d a s = none

/-- What a destination has received is what was sent first, and all of it once there is nothing
to do in its direction. -/
def Lossless (s : State α D) : Prop :=
  ∀ d, (s.flow d).received <+: (s.flow d).sent ∧
    (sys.Settled s d → (s.flow d).received = (s.flow d).sent)

variable {sys}

theorem step_eq_some {d : D} {a : Act α} {s t : State α D} (h : sys.step d a s = some t) :
    (a.isLoop = true → s.running = true) ∧
      ∃ f, (s.flow d).step sys.limit a = some f ∧ t.flow = Function.update s.flow d f ∧
        t.running = (s.running && !sys.stops fun d => (t.flow d).ended) := by
  unfold step at h
  split at h
  · cases h
  · rename_i hgo
    obtain ⟨f, hf, rfl⟩ := Option.map_eq_some_iff.1 h
    refine ⟨?_, f, hf, rfl, rfl⟩
    intro hloop
    rw [hloop] at hgo
    simpa using hgo

/-- Every direction keeps its invariant. -/
theorem invariant_step {d : D} {a : Act α} {s t : State α D}
    (hs : ∀ d, (s.flow d).Invariant) (h : sys.step d a s = some t) :
    ∀ d, (t.flow d).Invariant := by
  obtain ⟨-, f, hf, hflow, -⟩ := step_eq_some h
  intro d'
  rw [hflow]
  by_cases hd : d' = d
  · rw [hd, Function.update_self]
    exact (hs d).step hf
  · rw [Function.update_of_ne hd]
    exact hs d'

/-- In every state that is reached. -/
theorem invariant_of_reach {s : State α D} (h : Relation.ReflTransGen sys.Step .start s) :
    ∀ d, (s.flow d).Invariant := by
  -- over the run
  induction h with
  | refl =>
      intro _
      exact Flow.invariant_start
  | tail _ hstep ih =>
      obtain ⟨d, a, hstep⟩ := hstep
      exact invariant_step ih hstep

/-- The loops have not been stopped before the rule says so. -/
theorem not_stops_of_reach (hstart : sys.stops (fun _ => false) = false) {s : State α D}
    (h : Relation.ReflTransGen sys.Step .start s) (hrunning : s.running = true) :
    sys.stops (fun d => (s.flow d).ended) = false := by
  cases h with
  | refl => exact hstart
  | tail _ hstep =>
      obtain ⟨d, a, hstep⟩ := hstep
      obtain ⟨-, f, -, -, hrun⟩ := step_eq_some hstep
      rw [hrun] at hrunning
      simpa using (Bool.and_eq_true_iff.1 hrunning).2

/-- The loops are stopped when one of them ends. -/
theorem eq_finish_of_stopped {d : D} {a : Act α} {s t : State α D}
    (hs : sys.stops (fun d => (s.flow d).ended) = false) (h : sys.step d a s = some t)
    (hrunning : s.running = true) (hstopped : t.running = false) : a = .finish := by
  obtain ⟨-, f, hf, hflow, hrun⟩ := step_eq_some h
  rcases Flow.ended_step hf with hfinish | hended
  · exact hfinish
  · have hsame : (fun d => (t.flow d).ended) = fun d => (s.flow d).ended := by
      funext d'
      rw [hflow]
      by_cases hd : d' = d
      · rw [hd, Function.update_self, hended]
      · rw [Function.update_of_ne hd]
    rw [hsame, hs, hrunning] at hrun
    rw [hrun] at hstopped
    cases hstopped

section Lossless

variable (hlimit : 0 < sys.limit)
include hlimit

/-- Everything has arrived where there is nothing to do, in a running state and in one that was
stopped with nothing left. -/
theorem lossless_of_drained {s : State α D} (hs : ∀ d, (s.flow d).Invariant)
    (hstopped : s.running = false → ∀ d, (s.flow d).Drained) : sys.Lossless s := by
  intro d
  refine ⟨(hs d).received_first, ?_⟩
  intro hsettled
  have hstep : ∀ a : Act α, a.isWork = true → (a.isLoop = true → s.running = true) →
      (s.flow d).step sys.limit a = none := by
    intro a hwork hloop
    have hnone := hsettled a hwork
    unfold step at hnone
    rw [if_neg, Option.map_eq_none_iff] at hnone
    · exact hnone
    · intro hblocked
      rw [Bool.and_eq_true_iff, Bool.not_eq_true'] at hblocked
      rw [hloop hblocked.1] at hblocked
      cases hblocked.2
  have hwritten : (s.flow d).written = [] := by
    by_contra hne
    have hpos := List.length_pos_iff.2 hne
    have hreceive := hstep (.receive 1) rfl fun h => by cases h
    simp only [Flow.step] at hreceive
    rw [if_pos ⟨Nat.one_pos, hpos⟩] at hreceive
    cases hreceive
  cases hrunning : s.running with
  | false =>
      obtain ⟨-, hunread, hheld⟩ := hstopped hrunning d
      exact (hs d).received_eq hunread hheld hwritten
  | true =>
      obtain ⟨hunread, hheld⟩ := Flow.eq_nil_of_step_eq_none hlimit (hs d) fun a hloop =>
        hstep a (by cases a <;> first | rfl | cases hloop) fun _ => hrunning
      exact (hs d).received_eq hunread hheld hwritten

/-- No run loses anything in which the loops are only stopped with nothing left to copy. -/
theorem lossless_of_stopsDrained {s : State α D}
    (h : Relation.ReflTransGen sys.DrainedStep .start s) : sys.Lossless s := by
  have hreach : Relation.ReflTransGen sys.Step .start s :=
    h.lift id fun _ _ hstep => hstep.1
  refine lossless_of_drained hlimit (invariant_of_reach hreach) ?_
  clear hreach
  -- over the run: what is drained when the system stops stays so
  induction h with
  | refl =>
      intro hstopped
      cases hstopped
  | @tail s t hreach hstep ih =>
      obtain ⟨⟨d, a, hstep⟩, hdrained⟩ := hstep
      intro hstopped
      cases hrunning : s.running with
      | true => exact hdrained hstopped hrunning
      | false =>
          -- only sources and destinations take steps any more
          obtain ⟨hloop, f, hf, hflow, -⟩ := step_eq_some hstep
          have hnot : a.isLoop = false := by
            rw [← Bool.not_eq_true]
            intro h
            rw [hloop h] at hrunning
            cases hrunning
          intro d'
          rw [hflow]
          by_cases hd : d' = d
          · rw [hd, Function.update_self]
            exact (ih hrunning d).step hnot hf
          · rw [Function.update_of_ne hd]
            exact ih hrunning d'

/-- A rule that waits for all loops loses nothing. -/
theorem lossless_of_all (hall : ∀ ended, sys.stops ended = true → ∀ d, ended d = true)
    {s : State α D} (h : Relation.ReflTransGen sys.Step .start s) : sys.Lossless s := by
  refine lossless_of_stopsDrained hlimit ?_
  -- over the run: at the stop every direction has ended
  induction h with
  | refl => exact .refl
  | @tail s t hreach hstep ih =>
      refine ih.tail ⟨hstep, ?_⟩
      intro hstopped hrunning d
      obtain ⟨d', a, hstep⟩ := hstep
      have ht := invariant_step (invariant_of_reach hreach) hstep
      obtain ⟨-, f, -, -, hrun⟩ := step_eq_some hstep
      rw [hrunning, Bool.true_and, hstopped] at hrun
      exact (ht d).drained (hall _ (by simpa using hrun.symm) d)

end Lossless

/-- Sources and destinations take their steps whether the loops are stopped or not. -/
theorem exists_step {d : D} {a : Act α} (hloop : a.isLoop = false) {s : State α D} {f : Flow α}
    (hf : (s.flow d).step sys.limit a = some f) :
    ∃ t, sys.step d a s = some t ∧ t.flow d = f ∧ (s.running = false → t.running = false) := by
  unfold step
  rw [hloop, Bool.false_and, if_neg Bool.false_ne_true, hf]
  refine ⟨_, rfl, Function.update_self .., ?_⟩
  intro hstopped
  rw [hstopped]
  rfl

/-- With nothing to receive, what is left to copy when the loops are stopped is lost. -/
theorem not_lossless_of_left {s : State α D} {d : D} (hs : (s.flow d).Invariant)
    (hstopped : s.running = false) (hwritten : (s.flow d).written = [])
    (hleft : (s.flow d).held ++ (s.flow d).unread ≠ []) : ¬ sys.Lossless s := by
  intro hlossless
  have hsettled : sys.Settled s d := by
    intro a hwork
    unfold step
    cases a with
    | send _ => cases hwork
    | close => cases hwork
    | receive n =>
        have hnone : (s.flow d).step sys.limit (.receive n) = none := by
          simp only [Flow.step]
          rw [if_neg]
          rw [hwritten, List.length_nil]
          omega
        rw [hnone]
        rfl
    | read _ => rw [hstopped]; rfl
    | write _ => rw [hstopped]; rfl
    | flush => rw [hstopped]; rfl
    | finish => rw [hstopped]; rfl
  have hall := (hlossless d).2 hsettled
  have hconserved := hs.conserved
  rw [← hall, hwritten, List.append_nil, List.append_assoc] at hconserved
  exact hleft (List.self_eq_append_right.1 hconserved)

/-- What is left to copy when the loops are stopped is lost, and so is what is sent then. -/
theorem exists_loss (x : α) {s : State α D} (hs : ∀ d, (s.flow d).Invariant)
    (hstopped : s.running = false) {d : D} (hd : ¬ (s.flow d).Drained) :
    ∃ t, Relation.ReflTransGen sys.Step s t ∧ ¬ sys.Lossless t := by
  obtain ⟨s₁, hreach, hs₁, hstopped₁, hleft⟩ : ∃ t, Relation.ReflTransGen sys.Step s t ∧
      (∀ d, (t.flow d).Invariant) ∧ t.running = false ∧
        (t.flow d).held ++ (t.flow d).unread ≠ [] := by
    cases hclosed : (s.flow d).closed with
    | true =>
        refine ⟨s, .refl, hs, hstopped, ?_⟩
        intro hnil
        obtain ⟨hheld, hunread⟩ := List.append_eq_nil_iff.1 hnil
        exact hd ⟨hclosed, hunread, hheld⟩
    | false =>
        have hsend : (s.flow d).step sys.limit (.send [x]) = some
            { s.flow d with
              sent := (s.flow d).sent ++ [x]
              unread := (s.flow d).unread ++ [x] } := by
          simp only [Flow.step]
          rw [if_neg (by simp [hclosed])]
        obtain ⟨t, ht, hflow, hrun⟩ := exists_step rfl hsend
        refine ⟨t, .single ⟨d, _, ht⟩, invariant_step hs ht, hrun hstopped, ?_⟩
        rw [hflow]
        simp
  by_cases hwritten : (s₁.flow d).written = []
  · exact ⟨s₁, hreach, not_lossless_of_left (hs₁ d) hstopped₁ hwritten hleft⟩
  · -- the destination receives what there is
    have hreceive : (s₁.flow d).step sys.limit (.receive (s₁.flow d).written.length) = some
        { s₁.flow d with
          written := (s₁.flow d).written.drop (s₁.flow d).written.length
          received := (s₁.flow d).received ++
            (s₁.flow d).written.take (s₁.flow d).written.length } := by
      simp only [Flow.step]
      rw [if_pos ⟨List.length_pos_iff.2 hwritten, le_rfl⟩]
    obtain ⟨t, ht, hflow, hrun⟩ := exists_step rfl hreceive
    refine ⟨t, hreach.tail ⟨d, _, ht⟩, ?_⟩
    refine not_lossless_of_left (invariant_step hs₁ ht d) (hrun hstopped₁) ?_ ?_
    · rw [hflow]
      exact List.drop_length
    · rw [hflow]
      exact hleft

/-- How much there is to do in all directions. -/
def weight [Fintype D] (s : State α D) : ℕ := ∑ d, (s.flow d).weight

/-- The loops and the destinations come to an end with what is sent. -/
theorem weight_lt [Fintype D] {d : D} {a : Act α} {s t : State α D}
    (hs : ∀ d, (s.flow d).Invariant) (hwork : a.isWork = true) (h : sys.step d a s = some t) :
    weight t < weight s := by
  obtain ⟨-, f, hf, hflow, -⟩ := step_eq_some h
  have hless := Flow.weight_lt (hs d) hwork hf
  unfold weight
  refine Finset.sum_lt_sum ?_ ⟨d, Finset.mem_univ d, ?_⟩
  · intro d' _
    rw [hflow]
    by_cases hd : d' = d
    · rw [hd, Function.update_self]
      exact hless.le
    · rw [Function.update_of_ne hd]
  · rw [hflow, Function.update_self]
    exact hless

end System

end KyomiConnect.Copying
