import Mathlib.Data.List.Infix
import Mathlib.Tactic.Common

/-! # Transcripts of an answered request

A request is answered by a sequence of messages. Either one message carries
the whole answer, or the answer is opened, sent in parts and closed; at any
point before that it may be broken off by a failure. `Complete` lists the
sequences that answer a request, `Pending` those that are still open.

* `Complete.terminal_last`: a complete transcript has exactly one terminal
  message and that message is its last one;
* `Complete.of_prefix_iff`: a prefix of a complete transcript is complete as
  soon as it holds a terminal message, so a transcript that is cut off is
  recognised by what it lacks;
* `upTo`: the part of a sequence up to and including the first message of a
  kind, which is what a consumer that stops there has read.
-/

namespace Transcript

/-- What a message is for. -/
inductive Kind where
  | whole
  | opening
  | part
  | closing
  | failure
deriving DecidableEq, Repr

/-- The kinds that end an answer. -/
def Kind.terminal : Kind → Bool
  | .whole | .closing | .failure => true
  | .opening | .part => false

/-- The sequences that answer a request. -/
inductive Complete : List Kind → Prop where
  | whole : Complete [.whole]
  | failed : Complete [.failure]
  | served (n : ℕ) : Complete (.opening :: List.replicate n .part ++ [.closing])
  | brokenOff (n : ℕ) : Complete (.opening :: List.replicate n .part ++ [.failure])

/-- The sequences an answer goes through while it is still open. -/
inductive Pending : List Kind → Prop where
  | silent : Pending []
  | opened (n : ℕ) : Pending (.opening :: List.replicate n .part)

/-! ## Terminal messages -/

theorem Pending.not_terminal {ks : List Kind} (h : Pending ks) :
    ∀ k ∈ ks, k.terminal = false := by
  cases h with
  | silent => simp
  | opened n =>
      intro k hk
      simp only [List.mem_cons, List.mem_replicate] at hk
      rcases hk with rfl | ⟨_, rfl⟩ <;> rfl

/-- A complete transcript is an open one with a terminal message added. -/
theorem Complete.exists_pending {ks : List Kind} (h : Complete ks) :
    ∃ init k, Pending init ∧ k.terminal = true ∧ ks = init ++ [k] := by
  cases h with
  | whole => exact ⟨[], .whole, .silent, rfl, rfl⟩
  | failed => exact ⟨[], .failure, .silent, rfl, rfl⟩
  | served n => exact ⟨_, .closing, .opened n, rfl, rfl⟩
  | brokenOff n => exact ⟨_, .failure, .opened n, rfl, rfl⟩

/-- Exactly one message of a complete transcript is terminal: its last. -/
theorem Complete.terminal_last {ks : List Kind} (h : Complete ks) :
    ks.countP Kind.terminal = 1 ∧ ∃ k, ks.getLast? = some k ∧ k.terminal = true := by
  obtain ⟨init, k, hinit, hk, rfl⟩ := h.exists_pending
  have hzero : init.countP Kind.terminal = 0 :=
    List.countP_eq_zero.2 fun k hk => by simp [hinit.not_terminal k hk]
  exact ⟨by simp [hzero, hk], k, by simp, hk⟩

/-! ## Prefixes -/

/-- What an answer goes through before its terminal message is open. -/
theorem Pending.of_prefix {ks ks' : List Kind} (h : Pending ks) (hp : ks' <+: ks) :
    Pending ks' := by
  cases h with
  | silent =>
      rw [List.prefix_nil.1 hp]
      exact .silent
  | opened n =>
      cases ks' with
      | nil => exact .silent
      | cons k rest =>
          obtain ⟨rfl, hrest⟩ := List.cons_prefix_cons.1 hp
          -- a prefix of a run of parts is a shorter run of parts
          obtain ⟨_, hrest⟩ := List.prefix_replicate_iff.1 hrest
          rw [hrest]
          exact .opened rest.length

/-- A prefix of a complete transcript is open or the whole of it. -/
theorem Complete.prefix_cases {ks ks' : List Kind} (h : Complete ks) (hp : ks' <+: ks) :
    Pending ks' ∨ ks' = ks := by
  obtain ⟨init, k, hinit, _, rfl⟩ := h.exists_pending
  rcases List.prefix_concat_iff.1 hp with rfl | hp
  · exact Or.inr rfl
  · exact Or.inl (hinit.of_prefix hp)

/-- A prefix of a complete transcript is complete exactly when a terminal
message is in it. -/
theorem Complete.of_prefix_iff {ks ks' : List Kind} (h : Complete ks) (hp : ks' <+: ks) :
    Complete ks' ↔ ∃ k ∈ ks', k.terminal = true := by
  constructor
  · intro h'
    obtain ⟨init, k, _, hk, rfl⟩ := h'.exists_pending
    exact ⟨k, by simp, hk⟩
  · rintro ⟨k, hmem, hk⟩
    rcases h.prefix_cases hp with hopen | rfl
    · rw [hopen.not_terminal k hmem] at hk
      cases hk
    · exact h

/-! ## What a consumer has read -/

section UpTo

variable {α β : Type*}

/-- The messages up to and including the first one that satisfies `p`. -/
def upTo (p : α → Bool) : List α → List α
  | [] => []
  | a :: as => if p a then [a] else a :: upTo p as

variable (p : α → Bool)

@[simp] theorem upTo_nil : upTo p [] = [] := rfl

theorem upTo_cons_of_pos {a : α} (h : p a = true) (as : List α) : upTo p (a :: as) = [a] := by
  simp [upTo, h]

theorem upTo_cons_of_neg {a : α} (h : p a = false) (as : List α) :
    upTo p (a :: as) = a :: upTo p as := by
  simp [upTo, h]

theorem upTo_prefix (as : List α) : upTo p as <+: as := by
  induction as with
  | nil => exact List.nil_prefix
  | cons a as ih =>
      by_cases h : p a = true
      · rw [upTo_cons_of_pos p h]
        exact ⟨as, rfl⟩
      · rw [upTo_cons_of_neg p (by simpa using h)]
        exact List.cons_prefix_cons.2 ⟨rfl, ih⟩

/-- Stopping at `p` loses no message of a kind `q` that contains `p`, as far
as there being one is concerned. -/
theorem exists_mem_upTo_iff {q : α → Bool} (hpq : ∀ a, p a = true → q a = true) (as : List α) :
    (∃ a ∈ upTo p as, q a = true) ↔ ∃ a ∈ as, q a = true := by
  -- over the list: what ends it is in it
  induction as with
  | nil => simp
  | cons a as ih =>
      by_cases h : p a = true
      · rw [upTo_cons_of_pos p h]
        simp [hpq a h]
      · rw [upTo_cons_of_neg p (by simpa using h)]
        simp only [List.exists_mem_cons_iff, ih]

end UpTo

end Transcript
