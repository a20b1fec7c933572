import KyomiConnect.Lib.Loop
import Mathlib.Data.List.Chain
import Mathlib.Data.List.Infix

/-! # Following the pages of a server

A server hands out a sequence in pages: each page has a content and the cursor
of the next page, if the server announces one. A client fetches the page of its
cursor, takes the content in, and goes on until no page is announced, a fetch
fails, or it fails itself.

`Walk` is the server's side of it: the contents a client gets that follows the
cursors from a state, and the failure that ends them, if one does. `turn` is the
client's loop. The rules relate the two: the loop stops with what the client
makes of the walk's contents (`yields_of_walk`), and where it stops without a
failure the walk has ended (`walk_of_yields`). `Serves` says that a server's
pages are a division of some sequence; then a walk gets a prefix of it, and all
of it unless it fails (`Serves.exists_walk`).

A client that knows the keys of all pages beforehand needs no cursors: `forEach`
and `gotten` are the loop and the walk of that case.
-/

namespace Paging

open Loop (Turn Yields)

universe u v w x y

variable {σ : Type u} {κ : Type v} {α : Type w} {ε : Type x} {A : Type y}

/-- A page: its content, and the cursor of the next page if one is announced. -/
structure Page (κ : Type v) (α : Type w) where
  content : α
  next : Option κ

/-- The pages of a server, whose answers may depend on its state. -/
abbrev Fetch (σ : Type u) (κ : Type v) (α : Type w) (ε : Type x) :=
  κ → σ → Except ε (Page κ α) × σ

/-- The contents and the failure, if any, that a client gets from a state and a
cursor on, and the state in which it ends. -/
inductive Walk (fetch : Fetch σ κ α ε) : σ → Option κ → List α → Option ε → σ → Prop where
  | ended (s : σ) : Walk fetch s none [] none s
  | failed {s s' : σ} {c : κ} {e : ε} (h : fetch c s = (.error e, s')) :
      Walk fetch s (some c) [] (some e) s'
  | page {s s' s'' : σ} {c : κ} {p : Page κ α} {contents : List α} {e : Option ε}
      (h : fetch c s = (.ok p, s')) (rest : Walk fetch s' p.next contents e s'') :
      Walk fetch s (some c) (p.content :: contents) e s''

variable {fetch : Fetch σ κ α ε}

/-- A server answers in one way only. -/
theorem Walk.unique {s : σ} {cursor : Option κ} {xs ys : List α} {d e : Option ε} {t t' : σ}
    (h : Walk fetch s cursor xs d t) (h' : Walk fetch s cursor ys e t') :
    xs = ys ∧ d = e ∧ t = t' := by
  -- over the first walk: both fetch the same page
  induction h generalizing ys e t' with
  | ended s =>
      cases h'
      exact ⟨rfl, rfl, rfl⟩
  | failed hf =>
      cases h' with
      | failed hf' =>
          rw [hf] at hf'
          cases hf'
          exact ⟨rfl, rfl, rfl⟩
      | page hf' _ =>
          rw [hf] at hf'
          cases hf'
  | page hf _ ih =>
      cases h' with
      | failed hf' =>
          rw [hf] at hf'
          cases hf'
      | page hf' rest' =>
          rw [hf] at hf'
          cases hf'
          rcases ih rest' with ⟨rfl, rfl, rfl⟩
          exact ⟨rfl, rfl, rfl⟩

/-- Servers that agree on the states a walk goes through have the same walk. -/
theorem Walk.congr {fetch fetch' : Fetch σ κ α ε} (Inv : σ → Prop)
    (hagree : ∀ c s, Inv s → fetch c s = fetch' c s) (hkeep : ∀ c s, Inv s → Inv (fetch c s).2)
    {s t : σ} {cursor : Option κ} {contents : List α} {e : Option ε} (hs : Inv s)
    (h : Walk fetch s cursor contents e t) : Walk fetch' s cursor contents e t := by
  -- over the walk, in states of the invariant
  induction h with
  | ended s => exact .ended s
  | failed hf =>
      rw [hagree _ _ hs] at hf
      exact .failed hf
  | page hf _ ih =>
      rename_i s s' s'' c p contents e rest
      have hnext := hkeep c s hs
      rw [hf] at hnext
      rw [hagree _ _ hs] at hf
      exact .page hf (ih hnext)

/-- A client between two pages. -/
structure Client (σ : Type u) (κ : Type v) (A : Type y) where
  server : σ
  cursor : Option κ
  acc : A

/-- Where a client stops. -/
structure Outcome (σ : Type u) (ε : Type x) (A : Type y) where
  acc : A
  error : Option ε
  server : σ

/-- One turn of a client that takes a content in with `accept`. -/
def turn (fetch : Fetch σ κ α ε) (accept : A → α → A × Option ε) (c : Client σ κ A) :
    Turn (Client σ κ A) (Outcome σ ε A) :=
  match c.cursor with
  | none => .stop ⟨c.acc, none, c.server⟩
  | some k =>
      match fetch k c.server with
      | (.error e, s) => .stop ⟨c.acc, some e, s⟩
      | (.ok page, s) =>
          match accept c.acc page.content with
          | (acc, some e) => .stop ⟨acc, some e, s⟩
          | (acc, none) => .again ⟨s, page.next, acc⟩

/-- What a client makes of some contents, up to its first failure. -/
def acceptAll (accept : A → α → A × Option ε) (acc : A) : List α → A × Option ε
  | [] => (acc, none)
  | x :: xs =>
      match accept acc x with
      | (acc, some e) => (acc, some e)
      | (acc, none) => acceptAll accept acc xs

section Turn

variable {accept : A → α → A × Option ε} {s s' : σ} {k : κ} {acc acc' : A} {page : Page κ α} {e : ε}

theorem turn_ended (s : σ) (acc : A) :
    turn fetch accept ⟨s, none, acc⟩ = .stop ⟨acc, none, s⟩ := rfl

theorem turn_failed (hf : fetch k s = (.error e, s')) (acc : A) :
    turn fetch accept ⟨s, some k, acc⟩ = .stop ⟨acc, some e, s'⟩ := by
  simp only [turn, hf]

theorem turn_refused (hf : fetch k s = (.ok page, s'))
    (hacc : accept acc page.content = (acc', some e)) :
    turn fetch accept ⟨s, some k, acc⟩ = .stop ⟨acc', some e, s'⟩ := by
  simp only [turn, hf, hacc]

theorem turn_accepted (hf : fetch k s = (.ok page, s'))
    (hacc : accept acc page.content = (acc', none)) :
    turn fetch accept ⟨s, some k, acc⟩ = .again ⟨s', page.next, acc'⟩ := by
  simp only [turn, hf, hacc]

end Turn

variable (accept : A → α → A × Option ε)

/-- The loop stops with what the client makes of the contents, and with the first
failure: its own, else the server's. -/
theorem yields_of_walk {s s' : σ} {cursor : Option κ} {contents : List α} {e : Option ε}
    (h : Walk fetch s cursor contents e s') (acc : A) :
    ∃ t, Yields (turn fetch accept) ⟨s, cursor, acc⟩
      ⟨(acceptAll accept acc contents).1, (acceptAll accept acc contents).2.or e, t⟩ := by
  -- over the walk: a turn for each page that is fetched
  induction h generalizing acc with
  | ended s => exact ⟨s, .stop (turn_ended s acc)⟩
  | failed hf => exact ⟨_, .stop (turn_failed hf acc)⟩
  | page hf _ ih =>
      rename_i s s' s'' c p contents e rest
      cases hacc : accept acc p.content with
      | mk acc' failure =>
          simp only [acceptAll, hacc]
          cases failure with
          | some e' => exact ⟨s', .stop (turn_refused hf hacc)⟩
          | none =>
              rcases ih acc' with ⟨t, ht⟩
              exact ⟨t, .again (turn_accepted hf hacc) ht⟩

/-- What every fetch keeps of the server's state holds where the loop stops. -/
theorem keeps_of_yields (Inv : σ → Prop) (hkeep : ∀ k s, Inv s → Inv (fetch k s).2) {s : σ}
    {cursor : Option κ} {acc : A} {o : Outcome σ ε A} (hs : Inv s)
    (h : Yields (turn fetch accept) ⟨s, cursor, acc⟩ o) : Inv o.server := by
  have hturn : ∀ c : Client σ κ A, Inv c.server →
      (∀ o, turn fetch accept c = .stop o → Inv o.server) ∧
      (∀ c', turn fetch accept c = .again c' → Inv c'.server) := by
    rintro ⟨s, cursor, acc⟩ hs
    cases cursor with
    | none =>
        rw [turn_ended]
        exact ⟨fun o ho => by cases ho; exact hs, nofun⟩
    | some k =>
        have hnext := hkeep k s hs
        rcases hk : fetch k s with ⟨e | page, s'⟩
        · rw [hk] at hnext
          rw [turn_failed hk]
          exact ⟨fun o ho => by cases ho; exact hnext, nofun⟩
        · rw [hk] at hnext
          rcases hacc : accept acc page.content with ⟨acc', _ | e⟩
          · rw [turn_accepted hk hacc]
            exact ⟨nofun, fun c' hc' => by cases hc'; exact hnext⟩
          · rw [turn_refused hk hacc]
            exact ⟨fun o ho => by cases ho; exact hnext, nofun⟩
  exact @Yields.invariant _ _ _ (fun c => Inv c.server) (fun o => Inv o.server)
    (fun c o hc ho => (hturn c hc).1 o ho) (fun c c' hc hc' => (hturn c hc).2 c' hc') _ _ hs h

/-- A client stops if every page it gets spends something of the server's state. -/
theorem exists_yields_of_spending (left : σ → ℕ)
    (hspend : ∀ k s page s', fetch k s = (.ok page, s') → left s' < left s)
    (c : Client σ κ A) : ∃ o, Yields (turn fetch accept) c o := by
  refine Loop.exists_yields_of_measure (fun _ => True) (fun c => left c.server) ?_ trivial
  rintro ⟨s, _ | k, acc⟩ c' - hagain
  · cases hagain
  · rcases hk : fetch k s with ⟨e | page, s'⟩
    · rw [turn_failed hk] at hagain
      cases hagain
    · rcases hx : accept acc page.content with ⟨acc', _ | e⟩
      · rw [turn_accepted hk hx] at hagain
        cases hagain
        exact ⟨trivial, hspend k s page s' hk⟩
      · rw [turn_refused hk hx] at hagain
        cases hagain

/-- Where the loop stops without a failure, the walk has ended and the client
took in all of it. -/
theorem walk_of_yields {s : σ} {cursor : Option κ} {acc : A} {o : Outcome σ ε A}
    (h : Yields (turn fetch accept) ⟨s, cursor, acc⟩ o) (ho : o.error = none) :
    ∃ contents, Walk fetch s cursor contents none o.server ∧
      acceptAll accept acc contents = (o.acc, none) := by
  rcases h with ⟨fuel, hf⟩
  -- on the fuel: a turn that goes on has fetched a page
  induction fuel generalizing s cursor acc with
  | zero => simp [Loop.run] at hf
  | succ fuel ih =>
      cases cursor with
      | none =>
          rw [Loop.run_stop (turn_ended s acc)] at hf
          cases hf
          exact ⟨[], .ended s, rfl⟩
      | some k =>
          rcases hk : fetch k s with ⟨e | page, s'⟩
          · rw [Loop.run_stop (turn_failed hk acc)] at hf
            cases hf
            cases ho
          · rcases hacc : accept acc page.content with ⟨acc', _ | e⟩
            · rw [Loop.run_again (turn_accepted hk hacc)] at hf
              rcases ih hf with ⟨contents, hwalk, hall⟩
              refine ⟨page.content :: contents, .page hk hwalk, ?_⟩
              simpa only [acceptAll, hacc] using hall
            · rw [Loop.run_stop (turn_refused hk hacc)] at hf
              cases hf
              cases ho

/-- What taking in a content preserves holds where the loop stops. -/
theorem yields_invariant {Inv : A → Prop} (hacc : ∀ acc x, Inv acc → Inv (accept acc x).1)
    {c : Client σ κ A} {o : Outcome σ ε A} (hc : Inv c.acc) (h : Yields (turn fetch accept) c o) :
    Inv o.acc := by
  refine @Yields.invariant _ _ _ (fun c => Inv c.acc) (fun o => Inv o.acc) ?_ ?_ _ _ hc h
  · rintro ⟨s, _ | k, acc⟩ o hinv hstop
    · cases hstop
      exact hinv
    · rcases hk : fetch k s with ⟨e | page, s'⟩
      · rw [turn_failed hk] at hstop
        cases hstop
        exact hinv
      · rcases hx : accept acc page.content with ⟨acc', _ | e⟩
        · rw [turn_accepted hk hx] at hstop
          cases hstop
        · rw [turn_refused hk hx] at hstop
          cases hstop
          have hnext := hacc acc page.content hinv
          rwa [hx] at hnext
  · rintro ⟨s, _ | k, acc⟩ c' hinv hagain
    · cases hagain
    · rcases hk : fetch k s with ⟨e | page, s'⟩
      · rw [turn_failed hk] at hagain
        cases hagain
      · rcases hx : accept acc page.content with ⟨acc', _ | e⟩
        · rw [turn_accepted hk hx] at hagain
          cases hagain
          have hnext := hacc acc page.content hinv
          rwa [hx] at hnext
        · rw [turn_refused hk hx] at hagain
          cases hagain

/-! ## Runs -/

/-- A run of the client to its end: the keys it asks for one after the other, and where it
stops. -/
inductive Run (fetch : Fetch σ κ α ε) (accept : A → α → A × Option ε) :
    Client σ κ A → List κ → Outcome σ ε A → Prop where
  | ended (s : σ) (acc : A) : Run fetch accept ⟨s, none, acc⟩ [] ⟨acc, none, s⟩
  | failed {s s' : σ} {k : κ} {acc : A} {e : ε} (hf : fetch k s = (.error e, s')) :
      Run fetch accept ⟨s, some k, acc⟩ [k] ⟨acc, some e, s'⟩
  | refused {s s' : σ} {k : κ} {acc acc' : A} {page : Page κ α} {e : ε}
      (hf : fetch k s = (.ok page, s')) (hacc : accept acc page.content = (acc', some e)) :
      Run fetch accept ⟨s, some k, acc⟩ [k] ⟨acc', some e, s'⟩
  | page {s s' : σ} {k : κ} {acc acc' : A} {page : Page κ α} {keys : List κ} {o : Outcome σ ε A}
      (hf : fetch k s = (.ok page, s')) (hacc : accept acc page.content = (acc', none))
      (rest : Run fetch accept ⟨s', page.next, acc'⟩ keys o) :
      Run fetch accept ⟨s, some k, acc⟩ (k :: keys) o

section Runs

variable {accept : A → α → A × Option ε} {c : Client σ κ A} {keys : List κ} {o : Outcome σ ε A}

/-- A run ends in what its loop yields. -/
theorem Run.yields (h : Run fetch accept c keys o) : Yields (turn fetch accept) c o := by
  -- over the run: each key is a turn
  induction h with
  | ended s acc => exact .stop (turn_ended s acc)
  | failed hf => exact .stop (turn_failed hf _)
  | refused hf hacc => exact .stop (turn_refused hf hacc)
  | page hf hacc _ ih => exact .again (turn_accepted hf hacc) ih

/-- A loop that stops has run. -/
theorem exists_run_of_yields (h : Yields (turn fetch accept) c o) :
    ∃ keys, Run fetch accept c keys o := by
  rcases h with ⟨fuel, hf⟩
  -- on the fuel
  induction fuel generalizing c with
  | zero => simp [Loop.run] at hf
  | succ fuel ih =>
      rcases c with ⟨s, _ | k, acc⟩
      · rw [Loop.run_stop (turn_ended s acc)] at hf
        cases hf
        exact ⟨[], .ended s acc⟩
      · rcases hk : fetch k s with ⟨e | page, s'⟩
        · rw [Loop.run_stop (turn_failed hk acc)] at hf
          cases hf
          exact ⟨[k], .failed hk⟩
        · rcases hacc : accept acc page.content with ⟨acc', _ | e⟩
          · rw [Loop.run_again (turn_accepted hk hacc)] at hf
            rcases ih hf with ⟨keys, hrun⟩
            exact ⟨k :: keys, .page hk hacc hrun⟩
          · rw [Loop.run_stop (turn_refused hk hacc)] at hf
            cases hf
            exact ⟨[k], .refused hk hacc⟩

/-- The first key is the client's cursor. -/
theorem Run.head?_keys (h : Run fetch accept c keys o) : keys.head? = c.cursor := by
  cases h with
  | ended => rfl
  | failed => rfl
  | refused => rfl
  | page => rfl

/-- What every fetch adds to a log of the server is added for every key of the run. -/
theorem Run.log {γ : Type*} {log : σ → List γ} {entry : κ → γ}
    (hlog : ∀ k s r s', fetch k s = (r, s') → log s' = log s ++ [entry k])
    (h : Run fetch accept c keys o) : log o.server = log c.server ++ keys.map entry := by
  -- over the run: each turn logs one entry
  induction h with
  | ended s acc => exact (List.append_nil _).symm
  | failed hf => exact hlog _ _ _ _ hf
  | refused hf _ => exact hlog _ _ _ _ hf
  | page hf _ _ ih =>
      rw [ih, hlog _ _ _ _ hf, List.append_assoc]
      rfl

/-- The failure that ends a run is the server's or the client's. -/
theorem Run.error (P : ε → Prop) (hfetch : ∀ k s e s', fetch k s = (.error e, s') → P e)
    (haccept : ∀ acc x acc' e, accept acc x = (acc', some e) → P e)
    (h : Run fetch accept c keys o) : ∀ e, o.error = some e → P e := by
  -- over the run: the error is the one of its last turn
  induction h with
  | ended s acc => exact nofun
  | failed hf =>
      rintro e ⟨⟩
      exact hfetch _ _ _ _ hf
  | refused _ hacc =>
      rintro e ⟨⟩
      exact haccept _ _ _ _ hacc
  | page _ _ _ ih => exact ih

/-- Termination: if every page's cursor advances and a measure on the cursors decreases, there
is a run, and it asks for one key after the other. -/
theorem exists_run_of_advances (R : κ → κ → Prop) (Inv : κ → Prop) (measure : κ → ℕ)
    (hnext : ∀ k s page s' k', Inv k → fetch k s = (.ok page, s') → page.next = some k' →
      Inv k' ∧ R k k' ∧ measure k' < measure k) (c : Client σ κ A) (hc : ∀ k ∈ c.cursor, Inv k) :
    ∃ keys o, Run fetch accept c keys o ∧ keys.IsChain R := by
  rcases c with ⟨s, _ | k, acc⟩
  · exact ⟨[], _, .ended s acc, .nil⟩
  · induction hn : measure k using Nat.strongRecOn generalizing k s acc with
    | ind n ih =>
        rcases hk : fetch k s with ⟨e | page, s'⟩
        · exact ⟨[k], _, .failed hk, .singleton k⟩
        · rcases hacc : accept acc page.content with ⟨acc', _ | e⟩
          · cases hcursor : page.next with
            | none =>
                refine ⟨[k], ⟨acc', none, s'⟩, .page hk hacc ?_, .singleton k⟩
                rw [hcursor]
                exact .ended s' acc'
            | some k' =>
                obtain ⟨hinv, hR, hlt⟩ := hnext k s page s' k' (hc k rfl) hk hcursor
                obtain ⟨keys, o, hrun, hchain⟩ :=
                  ih _ (hn ▸ hlt) s' acc' k' (by rintro _ ⟨⟩; exact hinv) rfl
                refine ⟨k :: keys, o, .page hk hacc (hcursor ▸ hrun), ?_⟩
                refine List.isChain_cons.2 ⟨fun y hy => ?_, hchain⟩
                rw [hrun.head?_keys] at hy
                cases hy
                exact hR
          · exact ⟨[k], _, .refused hk hacc, .singleton k⟩

/-- A client that is always sent on is sent back at some time: where every page has a next
cursor as long as the cursors advance, no run advances to its end. -/
theorem Run.not_advances (R : κ → κ → Prop) (Inv : κ → A → Prop)
    (hstep : ∀ k s acc, Inv k acc → ∃ page s' acc' k', fetch k s = (.ok page, s') ∧
      accept acc page.content = (acc', none) ∧ page.next = some k' ∧ (R k k' → Inv k' acc'))
    {s : σ} {k : κ} {acc : A} (hinv : Inv k acc)
    (h : Run fetch accept ⟨s, some k, acc⟩ keys o) : ¬ keys.IsChain R := by
  -- the keys run out before the advances do
  induction keys generalizing s k acc with
  | nil => exact absurd h.head?_keys nofun
  | cons x keys ih =>
      obtain ⟨page, s', acc', k', hf, hacc, hnext, hgo⟩ := hstep k s acc hinv
      intro hchain
      rw [List.isChain_cons] at hchain
      cases h with
      | failed hf' =>
          rw [hf] at hf'
          cases hf'
      | refused hf' hacc' =>
          rw [hf] at hf'
          cases hf'
          rw [hacc] at hacc'
          cases hacc'
      | page hf' hacc' hrest =>
          rw [hf] at hf'
          cases hf'
          rw [hacc] at hacc'
          cases hacc'
          rw [hnext] at hrest
          have hR : R x k' := by
            refine hchain.1 k' ?_
            rw [hrest.head?_keys]
            rfl
          exact ih (hgo hR) hrest hchain.2

end Runs

/-! ## Divisions -/

/-- The cursor of the `i`th of `n` pages, if there is one. -/
def cursorAt (key : ℕ → κ) (n i : ℕ) : Option κ := if i < n then some (key i) else none

/-- The server's pages from the page `first` on are these contents: it answers a
page's key with the page or with a failure. -/
def Serves (fetch : Fetch σ κ α ε) (key : ℕ → κ) (contents : List α) (first : ℕ) : Prop :=
  ∀ i content, first ≤ i → contents[i]? = some content → ∀ s, ∃ s',
    (∃ e, fetch (key i) s = (.error e, s')) ∨
    fetch (key i) s = (.ok ⟨content, cursorAt key contents.length (i + 1)⟩, s')

/-- A walk over a division gets a prefix of it, and all of it unless it fails. -/
theorem Serves.exists_walk {key : ℕ → κ} {contents : List α} {first : ℕ}
    (h : Serves fetch key contents first) {i : ℕ} (hi : first ≤ i) (s : σ) :
    ∃ got e s', Walk fetch s (cursorAt key contents.length i) got e s' ∧
      got <+: contents.drop i ∧ (e = none → got = contents.drop i) := by
  -- on the contents left behind `i`
  induction hn : contents.length - i generalizing i s with
  | zero =>
      have hle : contents.length ≤ i := by omega
      rw [cursorAt, if_neg (by omega), List.drop_eq_nil_of_le hle]
      exact ⟨[], none, s, .ended s, List.nil_prefix, fun _ => rfl⟩
  | succ n ih =>
      have hlt : i < contents.length := by omega
      rw [cursorAt, if_pos hlt, List.drop_eq_getElem_cons hlt]
      rcases h i contents[i] hi (List.getElem?_eq_getElem hlt) s with ⟨s', ⟨e, hf⟩ | hf⟩
      · exact ⟨[], some e, s', .failed hf, List.nil_prefix, nofun⟩
      · rcases ih (i := i + 1) (by omega) s' (by omega) with ⟨got, e, t, hwalk, hpre, hall⟩
        refine ⟨contents[i] :: got, e, t, .page hf hwalk, ?_, ?_⟩
        · exact List.cons_prefix_cons.2 ⟨rfl, hpre⟩
        · intro he
          rw [hall he]

/-! ## Keys known beforehand -/

/-- The contents of the pages with these keys up to the first failure, that
failure, and the state in which they end. -/
def gotten (fetch : κ → σ → Except ε α × σ) : List κ → σ → List α × Option ε × σ
  | [], s => ([], none, s)
  | k :: keys, s =>
      match fetch k s with
      | (.error e, s) => ([], some e, s)
      | (.ok content, s) =>
          let rest := gotten fetch keys s
          (content :: rest.1, rest.2)

/-- Fetch the pages with these keys and take them in. -/
def forEach (fetch : κ → σ → Except ε α × σ) (accept : A → α → A × Option ε) :
    List κ → A → σ → Outcome σ ε A
  | [], acc, s => ⟨acc, none, s⟩
  | k :: keys, acc, s =>
      match fetch k s with
      | (.error e, s) => ⟨acc, some e, s⟩
      | (.ok content, s) =>
          match accept acc content with
          | (acc, some e) => ⟨acc, some e, s⟩
          | (acc, none) => forEach fetch accept keys acc s

/-- What every fetch keeps of the server's state holds at the end of the loop. -/
theorem keeps_forEach {fetch : κ → σ → Except ε α × σ} (Inv : σ → Prop)
    (hkeep : ∀ k s, Inv s → Inv (fetch k s).2) (accept : A → α → A × Option ε) (keys : List κ)
    (acc : A) {s : σ} (hs : Inv s) : Inv (forEach fetch accept keys acc s).server := by
  -- key by key
  induction keys generalizing acc s with
  | nil => exact hs
  | cons k keys ih =>
      have hnext := hkeep k s hs
      rcases hk : fetch k s with ⟨e | content, s'⟩
      · rw [hk] at hnext
        simpa only [forEach, hk] using hnext
      · rw [hk] at hnext
        rcases hacc : accept acc content with ⟨acc', _ | e⟩
        · simpa only [forEach, hk, hacc] using ih acc' hnext
        · simpa only [forEach, hk, hacc] using hnext

/-- The loop over the keys makes of the contents what the client makes of them. -/
theorem forEach_acc_error (fetch : κ → σ → Except ε α × σ) (accept : A → α → A × Option ε)
    (keys : List κ) (acc : A) (s : σ) :
    (forEach fetch accept keys acc s).acc = (acceptAll accept acc (gotten fetch keys s).1).1 ∧
    (forEach fetch accept keys acc s).error =
      (acceptAll accept acc (gotten fetch keys s).1).2.or (gotten fetch keys s).2.1 := by
  -- key by key, up to the first error
  induction keys generalizing acc s with
  | nil => exact ⟨rfl, rfl⟩
  | cons k keys ih =>
      rcases hk : fetch k s with ⟨e | content, s'⟩
      · simp [forEach, gotten, hk, acceptAll]
      · rcases hacc : accept acc content with ⟨acc', _ | e⟩
        · simpa only [forEach, gotten, hk, acceptAll, hacc] using ih acc' s'
        · simp [forEach, gotten, hk, acceptAll, hacc]

/-- The server answers a key with its content or with a failure. -/
def Answers (fetch : κ → σ → Except ε α × σ) (content : κ → α) (keys : List κ) : Prop :=
  ∀ k ∈ keys, ∀ s, ∃ s', (∃ e, fetch k s = (.error e, s')) ∨ fetch k s = (.ok (content k), s')

/-- Without a failure the contents are those of all keys, else of the first few. -/
theorem Answers.prefix_gotten {fetch : κ → σ → Except ε α × σ} {content : κ → α} {keys : List κ}
    (h : Answers fetch content keys) (s : σ) :
    (gotten fetch keys s).1 <+: keys.map content ∧
      ((gotten fetch keys s).2.1 = none → (gotten fetch keys s).1 = keys.map content) := by
  -- key by key, up to the first error
  induction keys generalizing s with
  | nil => exact ⟨List.nil_prefix, fun _ => rfl⟩
  | cons k keys ih =>
      rcases h k (by simp) s with ⟨s', ⟨e, hk⟩ | hk⟩
      · simp [gotten, hk]
      · rcases ih (fun k' hk' => h k' (by simp [hk'])) s' with ⟨hpre, hall⟩
        simp only [gotten, hk, List.map_cons]
        refine ⟨List.cons_prefix_cons.2 ⟨rfl, hpre⟩, fun hnone => ?_⟩
        rw [hall hnone]

end Paging
