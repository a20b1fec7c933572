import KyomiConnect.Lib.Copying

/-! # Connections forwarded through the tunnel

A connection is forwarded by two copy loops. `forward_connection` joins them by a `select!`,
which drops the other loop when either ends: at the end of what one endpoint sends, whatever
the other still sends is lost. A forwarder that waits for both loops, as the relay of the Unix
socket does, loses nothing.
-/

namespace KyomiConnect.Forwarding

open Copying Relation

/-- The loops `tcp_to_ssh` and `ssh_to_tcp`. -/
inductive Direction where
  | tcpToSsh
  | sshToTcp
deriving DecidableEq, Repr

instance : Fintype Direction where
  elems := {.tcpToSsh, .sshToTcp}
  complete := by
    intro d
    cases d <;> decide

def Direction.other : Direction → Direction
  | tcpToSsh => sshToTcp
  | sshToTcp => tcpToSsh

/-- `forward_connection` -/
def forwardConnection : System Direction :=
  { limit := 8192
    stops := fun ended => ended .tcpToSsh || ended .sshToTcp }

/-- A step in which a loop ends only if the endpoint that it writes to has closed its sending
side too, and everything that it sent is read and written by the other loop. -/
def CarefulStep (s t : State UInt8 Direction) : Prop :=
  ∃ d a, forwardConnection.step d a s = some t ∧ (a = .finish → (s.flow d.other).Drained)

theorem CarefulStep.step {s t : State UInt8 Direction} (h : CarefulStep s t) :
    forwardConnection.Step s t := by
  obtain ⟨d, a, hstep, -⟩ := h
  exact ⟨d, a, hstep⟩

/-- A direction is the one that is stepped in, or the other. -/
theorem Direction.eq_or_eq_other (d d' : Direction) : d' = d ∨ d' = d.other := by
  cases d <;> cases d' <;> decide

theorem Direction.other_ne (d : Direction) : d.other ≠ d := by
  cases d <;> decide

/-- The connection is over when a loop ends. -/
theorem stopped_of_finish {d : Direction} {s t : State UInt8 Direction}
    (h : forwardConnection.step d .finish s = some t) : t.running = false := by
  obtain ⟨-, f, hf, hflow, hrun⟩ := System.step_eq_some h
  have hended : (t.flow d).ended = true := by
    rw [hflow, Function.update_self]
    exact Flow.ended_of_finish hf
  have hstops : forwardConnection.stops (fun d => (t.flow d).ended) = true := by
    cases d with
    | tcpToSsh => exact Bool.or_eq_true_iff.2 (.inl hended)
    | sshToTcp => exact Bool.or_eq_true_iff.2 (.inr hended)
  rw [hrun, hstops, Bool.not_true, Bool.and_false]

/-- A loop that ends leaves its own direction with nothing to copy. -/
theorem drained_of_finish {d : Direction} {s t : State UInt8 Direction}
    (hs : ∀ d, (s.flow d).Invariant) (h : forwardConnection.step d .finish s = some t)
    (hother : (s.flow d.other).Drained) : ∀ d', (t.flow d').Drained := by
  obtain ⟨-, f, hf, hflow, -⟩ := System.step_eq_some h
  intro d'
  rw [hflow]
  rcases Direction.eq_or_eq_other d d' with rfl | rfl
  · rw [Function.update_self]
    exact ((hs d').step hf).drained (Flow.ended_of_finish hf)
  · rw [Function.update_of_ne d.other_ne]
    exact hother

/-- Careful runs stop the loops only with nothing left to copy. -/
theorem drainedStep_of_careful {s t : State UInt8 Direction}
    (hreach : ReflTransGen CarefulStep .start s) (h : CarefulStep s t) :
    forwardConnection.DrainedStep s t := by
  have hsteps : ReflTransGen forwardConnection.Step .start s :=
    hreach.lift id fun _ _ hstep => CarefulStep.step hstep
  refine ⟨h.step, ?_⟩
  intro hstopped hrunning
  obtain ⟨d, a, hstep, hcareful⟩ := h
  have hnot := System.not_stops_of_reach (by rfl) hsteps hrunning
  obtain rfl := System.eq_finish_of_stopped hnot hstep hrunning hstopped
  exact drained_of_finish (System.invariant_of_reach hsteps) hstep (hcareful rfl)

theorem lossless_of_careful {s : State UInt8 Direction} (h : ReflTransGen CarefulStep .start s) :
    forwardConnection.Lossless s := by
  refine System.lossless_of_stopsDrained (by decide) ?_
  -- over the run: no direction stops before it has been drained
  induction h with
  | refl => exact .refl
  | tail hreach hstep ih => exact ih.tail (drainedStep_of_careful hreach hstep)

/-- Once the connection is over, every step is careful. -/
theorem careful_of_stopped {s t : State UInt8 Direction} (hstopped : s.running = false)
    (h : ReflTransGen forwardConnection.Step s t) :
    t.running = false ∧ ReflTransGen CarefulStep s t := by
  -- over the run: nothing but draining is left once the loop has stopped
  induction h with
  | refl => exact ⟨hstopped, .refl⟩
  | tail _ hstep ih =>
      obtain ⟨d, a, hstep⟩ := hstep
      obtain ⟨hloop, f, -, -, hrun⟩ := System.step_eq_some hstep
      refine ⟨?_, ih.2.tail ⟨d, a, hstep, ?_⟩⟩
      · rw [hrun, ih.1, Bool.false_and]
      · rintro rfl
        have hrunning := hloop rfl
        rw [ih.1] at hrunning
        cases hrunning

/-- The end of what one endpoint sends is harmless if and only if there is nothing left to copy
the other way, and nothing to come. -/
theorem drained_iff_lossless {s t : State UInt8 Direction} {d : Direction}
    (hreach : ReflTransGen CarefulStep .start s)
    (h : forwardConnection.step d .finish s = some t) :
    (s.flow d.other).Drained ↔
      ∀ u, ReflTransGen forwardConnection.Step t u → forwardConnection.Lossless u := by
  have hstopped := stopped_of_finish h
  constructor
  · intro hother u hu
    have ht : ReflTransGen CarefulStep .start t := hreach.tail ⟨d, _, h, fun _ => hother⟩
    exact lossless_of_careful (ht.trans (careful_of_stopped hstopped hu).2)
  · intro hall
    by_contra hother
    have hsteps : ReflTransGen forwardConnection.Step .start s :=
      hreach.lift id fun _ _ hstep => CarefulStep.step hstep
    have ht := System.invariant_step (System.invariant_of_reach hsteps) h
    have hleft : ¬ (t.flow d.other).Drained := by
      obtain ⟨-, f, -, hflow, -⟩ := System.step_eq_some h
      rw [hflow, Function.update_of_ne d.other_ne]
      exact hother
    obtain ⟨u, hu, hloss⟩ := System.exists_loss 0 ht hstopped hleft
    exact hloss (hall u hu)

/-- A forwarded connection loses nothing in any run in which a loop ends only with nothing left
to copy the other way and nothing to come; an end of another kind may lose something. Work
comes to an end with what is sent. And whatever waits for both loops loses nothing in any run. -/
theorem forwarded_lossless (s : State UInt8 Direction) :
    (ReflTransGen CarefulStep .start s → forwardConnection.Lossless s) ∧
      (∀ d t, ReflTransGen CarefulStep .start s → forwardConnection.step d .finish s = some t →
        ((s.flow d.other).Drained ↔
          ∀ u, ReflTransGen forwardConnection.Step t u → forwardConnection.Lossless u)) ∧
      (∀ t d a, ReflTransGen forwardConnection.Step .start s → Act.isWork a = true →
        forwardConnection.step d a s = some t → System.weight t < System.weight s) ∧
      ∀ relay : System Direction, 0 < relay.limit →
        (∀ ended, relay.stops ended = true → ∀ d, ended d = true) →
        ReflTransGen relay.Step .start s → relay.Lossless s := by
  refine ⟨lossless_of_careful, fun _ _ => drained_iff_lossless, ?_, ?_⟩
  · intro t d a hreach hwork h
    exact System.weight_lt (System.invariant_of_reach hreach) hwork h
  · intro relay hlimit hboth hreach
    exact System.lossless_of_all hlimit hboth hreach

/-- A question of one byte and an answer of two are copied, and both endpoints close their sending
sides before a loop ends. -/
theorem forwarded_lossless_both_ways :
    ∃ s : State UInt8 Direction, ReflTransGen CarefulStep .start s ∧ s.running = false ∧
      (s.flow .tcpToSsh).received = [1] ∧ (s.flow .sshToTcp).received = [2, 3] ∧
      forwardConnection.Lossless s := by
  obtain ⟨s, hrun, hstopped, hthere, hback⟩ : ∃ s : State UInt8 Direction,
      ReflTransGen CarefulStep .start s ∧ s.running = false ∧
        (s.flow .tcpToSsh).received = [1] ∧ (s.flow .sshToTcp).received = [2, 3] := by
    refine ⟨_, .head ⟨.tcpToSsh, .send [1], rfl, nofun⟩ (.head ⟨.tcpToSsh, .read 1, rfl, nofun⟩
      (.head ⟨.sshToTcp, .send [2, 3], rfl, nofun⟩ (.head ⟨.tcpToSsh, .write 1, rfl, nofun⟩
      (.head ⟨.sshToTcp, .read 2, rfl, nofun⟩ (.head ⟨.tcpToSsh, .flush, rfl, nofun⟩
      (.head ⟨.tcpToSsh, .close, rfl, nofun⟩ (.head ⟨.sshToTcp, .write 2, rfl, nofun⟩
      (.head ⟨.sshToTcp, .close, rfl, nofun⟩ (.head ⟨.tcpToSsh, .receive 1, rfl, nofun⟩
      (.head ⟨.tcpToSsh, .finish, rfl, fun _ => ⟨rfl, rfl, rfl⟩⟩
      (.single ⟨.sshToTcp, .receive 2, rfl, nofun⟩))))))))))), rfl, rfl, rfl⟩
  exact ⟨s, hrun, hstopped, hthere, hback, (forwarded_lossless s).1 hrun⟩

/-- The client closes its sending side, with an answer on its way. -/
theorem answer_lost :
    ¬ ∀ s : State UInt8 Direction, ReflTransGen forwardConnection.Step .start s →
      forwardConnection.Lossless s := by
  intro hlossless
  obtain ⟨s, hreach, hstopped, hwritten, hleft⟩ :
      ∃ s : State UInt8 Direction, ReflTransGen forwardConnection.Step .start s ∧
        s.running = false ∧ (s.flow .sshToTcp).written = [] ∧
          (s.flow .sshToTcp).held ++ (s.flow .sshToTcp).unread ≠ [] := by
    refine ⟨_, .head ⟨.sshToTcp, .send [1], rfl⟩ (.head ⟨.tcpToSsh, .close, rfl⟩
      (.single ⟨.tcpToSsh, .finish, rfl⟩)), rfl, rfl, ?_⟩
    exact List.cons_ne_nil _ _
  have hflow := System.invariant_of_reach hreach .sshToTcp
  exact System.not_lossless_of_left hflow hstopped hwritten hleft (hlossless s hreach)

end KyomiConnect.Forwarding
