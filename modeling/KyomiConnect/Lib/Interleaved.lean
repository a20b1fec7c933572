import Mathlib.Control.Monad.Basic
import Mathlib.Tactic.Common

/-! # A program among other clients

A program is a sequence of atomic actions on a world that others act on too, between
any two of its actions. `Runs` is the interleaved runs, with every step that is taken
and by whom.

Two kinds of rules: a guarantee is about each step that the program takes, whatever the
others do (`Guarantees`, `own_of_runs`); and a program that returns has taken one of its
actions in a world with some property (`Sees`), which then lasts as long as no step
spoils it (`Chain.preserves`).
-/

namespace Interleaved

/-- A program of atomic actions, each of which may fail. -/
inductive Prog (W E α : Type) : Type 1 where
  | pure (a : α)
  | throw (e : E)
  | act {β : Type} (step : W → Except E β × W) (k : β → Prog W E α)

namespace Prog

variable {W E α β : Type}

def bind : Prog W E α → (α → Prog W E β) → Prog W E β
  | .pure a, f => f a
  | .throw e, _ => .throw e
  | .act step k, f => .act step fun b => (k b).bind f

instance : Monad (Prog W E) where
  pure := .pure
  bind := bind

instance : MonadExcept E (Prog W E) where
  throw := .throw
  tryCatch p _ := p

/-- One atomic action. -/
def atomic (step : W → Except E α × W) : Prog W E α := .act step .pure

/-- An action that looks at the world. -/
def read (f : W → Except E α) : Prog W E α := atomic fun w => (f w, w)

end Prog

/-- Who takes a step. -/
inductive Actor where
  | own
  | other
deriving DecidableEq, Repr

structure Step (W : Type) where
  actor : Actor
  before : W
  after : W

section Runs

variable {W E α β : Type} {env : W → W → Prop}

/-- An interleaved run of a program, with its steps; without a result the run goes on. -/
inductive Runs (env : W → W → Prop) :
    Prog W E α → W → List (Step W) → Option (Except E α) → W → Prop where
  | unfinished {p w} : Runs env p w [] none w
  | returned {a w} : Runs env (.pure a) w [] (some (.ok a)) w
  | failed {e w} : Runs env (.throw e) w [] (some (.error e)) w
  | other {p w w' t r w''} : env w w' → Runs env p w' t r w'' →
      Runs env p w (⟨.other, w, w'⟩ :: t) r w''
  | act {β : Type} {step : W → Except E β × W} {k w b w' t r w''} : step w = (.ok b, w') →
      Runs env (k b) w' t r w'' → Runs env (.act step k) w (⟨.own, w, w'⟩ :: t) r w''
  | actFailed {β : Type} {step : W → Except E β × W} {k : β → Prog W E α} {w e w' t r w''} :
      step w = (.error e, w') → Runs env (.throw e) w' t r w'' →
      Runs env (.act step k) w (⟨.own, w, w'⟩ :: t) r w''

/-! ## What each step guarantees -/

/-- Every action of the program takes steps of this kind only, in any world. -/
def Guarantees (G : W → W → Prop) : Prog W E α → Prop
  | .pure _ => True
  | .throw _ => True
  | .act step k => (∀ w, G w (step w).2) ∧ ∀ b, Guarantees G (k b)

variable {G : W → W → Prop}

theorem guarantees_pure (a : α) : Guarantees G (pure a : Prog W E α) := trivial

theorem guarantees_throw (e : E) : Guarantees G (throw e : Prog W E α) := trivial

/-- One step keeps to what it does in every state. -/
theorem guarantees_atomic {step : W → Except E α × W} (h : ∀ w, G w (step w).2) :
    Guarantees G (Prog.atomic step) :=
  ⟨h, fun _ => trivial⟩

/-- Looking at the world changes nothing. -/
theorem guarantees_read (h : ∀ w, G w w) (f : W → Except E α) : Guarantees G (Prog.read f) :=
  guarantees_atomic h

/-- Two programs in sequence keep to what both of them do. -/
theorem Guarantees.bind {x : Prog W E α} {f : α → Prog W E β} (hx : Guarantees G x)
    (hf : ∀ a, Guarantees G (f a)) : Guarantees G (x >>= f) := by
  change Guarantees G (x.bind f)
  -- over the first program; where it has returned the second goes on
  induction x with
  | pure a => exact hf a
  | throw e => trivial
  | act step k ih => exact ⟨hx.1, fun b => ih b (hx.2 b)⟩

/-- So does a program that is run for each item. -/
theorem Guarantees.forM {xs : List β} {f : β → Prog W E PUnit}
    (hf : ∀ b, Guarantees G (f b)) : Guarantees G (xs.forM f) := by
  induction xs with
  | nil => trivial
  | cons b xs ih => exact (hf b).bind fun _ => ih

/-- Whatever others do in between, the program's own steps keep to its guarantee. -/
theorem own_of_runs {p : Prog W E α} {w w' : W} {t : List (Step W)} {r : Option (Except E α)}
    (hp : Guarantees G p) (h : Runs env p w t r w') :
    ∀ s ∈ t, s.actor = .own → G s.before s.after := by
  -- over the run: an own step is the head of the program that is left
  induction h with
  | unfinished => nofun
  | returned => nofun
  | failed => nofun
  | other _ _ ih =>
      intro s hs hown
      rcases List.mem_cons.1 hs with rfl | hs
      · cases hown
      · exact ih hp s hs hown
  | act hstep _ ih =>
      intro s hs hown
      rcases List.mem_cons.1 hs with rfl | hs
      · exact (congrArg (G _) (congrArg Prod.snd hstep)).mp (hp.1 _)
      · exact ih (hp.2 _) s hs hown
  | actFailed hstep _ ih =>
      intro s hs hown
      rcases List.mem_cons.1 hs with rfl | hs
      · exact (congrArg (G _) (congrArg Prod.snd hstep)).mp (hp.1 _)
      · exact ih trivial s hs hown

/-! ## What lasts -/

/-- Steps from one world to another, each from where the last has led. -/
inductive Chain : W → List (Step W) → W → Prop where
  | nil {w} : Chain w [] w
  | cons {actor w w' t w''} : Chain w' t w'' → Chain w (⟨actor, w, w'⟩ :: t) w''

/-- The steps of a run lead from its first state to its last. -/
theorem Runs.chain {p : Prog W E α} {w w' : W} {t : List (Step W)} {r : Option (Except E α)}
    (h : Runs env p w t r w') : Chain w t w' := by
  -- over the run
  induction h with
  | unfinished => exact .nil
  | returned => exact .nil
  | failed => exact .nil
  | other _ _ ih => exact .cons ih
  | act _ _ ih => exact .cons ih
  | actFailed _ _ ih => exact .cons ih

/-- What every step preserves is preserved over all of them. -/
theorem Chain.preserves {P : W → Prop} {w w' : W} {t : List (Step W)} (h : Chain w t w')
    (hstep : ∀ s ∈ t, P s.before → P s.after) (hw : P w) : P w' := by
  -- over the chain
  induction h with
  | nil => exact hw
  | cons _ ih =>
      have hfirst := hstep _ (List.mem_cons_self ..) hw
      exact ih (fun s hs => hstep s (List.mem_cons_of_mem _ hs)) hfirst

/-- From a step on. -/
theorem Chain.from_step {w w' : W} {t₁ t₂ : List (Step W)} {s : Step W}
    (h : Chain w (t₁ ++ s :: t₂) w') : Chain s.before (s :: t₂) w' := by
  -- over the steps in front of it
  induction t₁ generalizing w with
  | nil =>
      cases h with
      | cons hrest => exact .cons hrest
  | cons s' t₁ ih =>
      cases h with
      | cons hrest => exact ih hrest

/-- A program that has failed returns nothing. -/
theorem not_returns_throw {e : E} {w w' : W} {t : List (Step W)} {a : α}
    (h : Runs env (.throw e) w t (some (.ok a)) w') : False := by
  generalize hp : (.throw e : Prog W E α) = p at h
  generalize hr : (some (.ok a) : Option (Except E α)) = r at h
  induction h with
  | unfinished => cases hr
  | returned => cases hp
  | failed => cases hr
  | other _ _ ih => exact ih hp hr
  | act _ _ => cases hp
  | actFailed _ _ => cases hp

/-- A run of one program and then another, when it returns. -/
theorem Runs.of_bind {x : Prog W E α} {f : α → Prog W E β} {w w'' : W} {t : List (Step W)}
    {b : β} (h : Runs env (x >>= f) w t (some (.ok b)) w'') :
    ∃ t₁ t₂ a w', t = t₁ ++ t₂ ∧ Runs env x w t₁ (some (.ok a)) w' ∧
      Runs env (f a) w' t₂ (some (.ok b)) w'' := by
  change Runs env (x.bind f) w t (some (.ok b)) w'' at h
  generalize hp : x.bind f = p at h
  generalize hr : (some (.ok b) : Option (Except E β)) = r at h
  -- over the run: as long as the first program has steps the run is its own
  induction h generalizing x with
  | unfinished => cases hr
  | failed => cases hr
  | @returned b w =>
      cases hr
      cases x with
      | pure a =>
          change f a = .pure b at hp
          exact ⟨[], [], a, w, rfl, .returned, hp ▸ .returned⟩
      | throw e => cases hp
      | act step k => cases hp
  | other henv _ ih =>
      obtain ⟨t₁, t₂, a, w', rfl, hx, hf⟩ := ih hp hr
      exact ⟨_ :: t₁, t₂, a, w', rfl, .other henv hx, hf⟩
  | @act _ step k w b w' t r w'' hstep hrest ih =>
      subst hr
      cases x with
      | pure a =>
          change f a = .act step k at hp
          exact ⟨[], _, a, w, rfl, .returned, hp ▸ .act hstep hrest⟩
      | throw e => cases hp
      | act step' k' =>
          cases hp
          obtain ⟨t₁, t₂, a, w', rfl, hx, hf⟩ := ih rfl rfl
          exact ⟨_ :: t₁, t₂, a, w', rfl, .act hstep hx, hf⟩
  | actFailed _ hrest =>
      subst hr
      exact (not_returns_throw hrest).elim

/-- A run of one program that returns, and then one of the other. -/
theorem Runs.bind {x : Prog W E α} {f : α → Prog W E β} {w w' w'' : W} {t₁ t₂ : List (Step W)}
    {a : α} {r : Option (Except E β)} (hx : Runs env x w t₁ (some (.ok a)) w')
    (hf : Runs env (f a) w' t₂ r w'') : Runs env (x >>= f) w (t₁ ++ t₂) r w'' := by
  change Runs env (x.bind f) w (t₁ ++ t₂) r w''
  generalize hr : (some (.ok a) : Option (Except E α)) = result at hx
  -- over the run of the first program
  induction hx with
  | unfinished => cases hr
  | failed => cases hr
  | returned =>
      cases hr
      exact hf
  | other henv _ ih => exact .other henv (ih hf hr)
  | act hstep _ ih => exact .act hstep (ih hf hr)
  | actFailed _ hrest =>
      subst hr
      exact (not_returns_throw hrest).elim

/-- What the others do is what they are allowed to. -/
theorem env_of_runs {p : Prog W E α} {w w' : W} {t : List (Step W)} {r : Option (Except E α)}
    (h : Runs env p w t r w') : ∀ o ∈ t, o.actor = .other → env o.before o.after := by
  -- over the run
  induction h with
  | unfinished => nofun
  | returned => nofun
  | failed => nofun
  | other henv _ ih =>
      intro o ho hother
      rcases List.mem_cons.1 ho with rfl | ho
      · exact henv
      · exact ih o ho hother
  | act _ _ ih =>
      intro o ho hother
      rcases List.mem_cons.1 ho with rfl | ho
      · cases hother
      · exact ih o ho hother
  | actFailed _ _ ih =>
      intro o ho hother
      rcases List.mem_cons.1 ho with rfl | ho
      · cases hother
      · exact ih o ho hother

/-- Others may go on after the end. -/
theorem Runs.then_other {p : Prog W E α} {w w' w'' : W} {t : List (Step W)} {x : Except E α}
    (h : Runs env p w t (some x) w') (henv : env w' w'') :
    Runs env p w (t ++ [⟨.other, w', w''⟩]) (some x) w'' := by
  generalize hr : some x = r at h ⊢
  -- over the run, to its end
  induction h with
  | unfinished => cases hr
  | returned => exact .other henv .returned
  | failed => exact .other henv .failed
  | other hfirst _ ih => exact .other hfirst (ih henv hr)
  | act hstep _ ih => exact .act hstep (ih henv hr)
  | actFailed hstep _ ih => exact .actFailed hstep (ih henv hr)

/-- The run in which no one else acts. -/
def Prog.alone : Prog W E α → W → List (Step W) × Except E α × W
  | .pure a, w => ([], .ok a, w)
  | .throw e, w => ([], .error e, w)
  | .act step k, w =>
      match step w with
      | (.ok b, w') =>
          let (t, r, w'') := (k b).alone w'
          (⟨.own, w, w'⟩ :: t, r, w'')
      | (.error e, w') => ([⟨.own, w, w'⟩], .error e, w')

/-- A run without others is one of the interleaved runs. -/
theorem runs_alone (p : Prog W E α) (w : W) :
    Runs env p w (p.alone w).1 (some (p.alone w).2.1) (p.alone w).2.2 := by
  -- over the program, which makes all its steps in turn
  induction p generalizing w with
  | pure a => exact .returned
  | throw e => exact .failed
  | act step k ih =>
      unfold Prog.alone
      rcases hstep : step w with ⟨e | b, w'⟩
      · exact .actFailed hstep .failed
      · exact .act hstep (ih b w')

/-- All its steps are the program's own. -/
theorem own_of_alone {p : Prog W E α} {w : W} : ∀ s ∈ (p.alone w).1, s.actor = .own := by
  induction p generalizing w with
  | pure a => nofun
  | throw e => nofun
  | act step k ih =>
      unfold Prog.alone
      rcases step w with ⟨e | b, w'⟩
      · intro s hs
        rw [List.mem_singleton.1 hs]
      · intro s hs
        rcases List.mem_cons.1 hs with rfl | hs
        · rfl
        · exact ih b s hs

/-! ## A program on a part of the world -/

/-- A program that only looks at the world. -/
def Looks (p : Prog W E α) : Prop := Guarantees (fun w w' => w' = w) p

/-- A program that has returned changes nothing. -/
theorem looks_pure (a : α) : Looks (pure a : Prog W E α) := guarantees_pure a

/-- A program that has failed changes nothing. -/
theorem looks_throw (e : E) : Looks (throw e : Prog W E α) := guarantees_throw e

/-- Reading changes nothing. -/
theorem looks_read (f : W → Except E α) : Looks (Prog.read f) := guarantees_read (fun _ => rfl) f

/-- Two programs that only look, in sequence. -/
theorem Looks.bind {x : Prog W E α} {f : α → Prog W E β} (hx : Looks x) (hf : ∀ a, Looks (f a)) :
    Looks (x >>= f) :=
  Guarantees.bind hx hf

/-- What the rest of a program makes of an action's result. -/
theorem alone_act {step : W → Except E β × W} {k : β → Prog W E α} (w : W) :
    ((Prog.act step k).alone w).2 =
      match step w with
      | (.ok b, w') => ((k b).alone w').2
      | (.error e, w') => (.error e, w') := by
  rw [Prog.alone]
  rcases step w with ⟨e | b, w'⟩
  · rfl
  · rfl

/-- One step on its own. -/
theorem alone_atomic (step : W → Except E α × W) (w : W) :
    ((Prog.atomic step).alone w).2 = step w := by
  unfold Prog.atomic
  rw [alone_act]
  rcases step w with ⟨e | a, w'⟩
  · rfl
  · rfl

/-- Reading on its own. -/
theorem alone_read (f : W → Except E α) (w : W) : ((Prog.read f).alone w).2 = (f w, w) :=
  alone_atomic _ w

/-- A program that only looks leaves the state as it was. -/
theorem Looks.alone {p : Prog W E α} (h : Looks p) (w : W) : (p.alone w).2.2 = w := by
  -- over the program: each step leaves the state alone
  induction p generalizing w with
  | pure a => rfl
  | throw e => rfl
  | act step k ih =>
      have hsame := h.1 w
      rw [alone_act]
      rcases hstep : step w with ⟨e | b, w'⟩
      · rw [hstep] at hsame
        exact hsame
      · rw [hstep] at hsame
        dsimp only at hsame ⊢
        rw [ih b (h.2 b) w', hsame]

/-- What a sequence of programs makes of the world. -/
theorem alone_bind (x : Prog W E α) (f : α → Prog W E β) (w : W) :
    ((x >>= f).alone w).2 =
      match (x.alone w).2 with
      | (.ok a, w') => ((f a).alone w').2
      | (.error e, w') => (.error e, w') := by
  change ((x.bind f).alone w).2 = _
  -- over the first program
  induction x generalizing w with
  | pure a => rfl
  | throw e => rfl
  | act step k ih =>
      rw [Prog.bind, alone_act, alone_act]
      rcases step w with ⟨e | b, w'⟩
      · rfl
      · exact ih b w'

/-- A sequence returns a value if both programs do, in the same world if the first only looks. -/
theorem Looks.bind_eq_ok {x : Prog W E α} {f : α → Prog W E β} (hx : Looks x) {w : W} {b : β} :
    ((x >>= f).alone w).2.1 = .ok b ↔
      ∃ a, (x.alone w).2.1 = .ok a ∧ ((f a).alone w).2.1 = .ok b := by
  have hsame := hx.alone w
  rw [alone_bind]
  rcases hresult : (x.alone w).2 with ⟨e | a, w'⟩
  · simp
  · rw [hresult] at hsame
    dsimp only at hsame ⊢
    rw [hsame]
    simp

/-- The same program on a part of a greater world. -/
def Prog.within {S : Type} (get : S → W) (set : S → W → S) : Prog W E α → Prog S E α
  | .pure a => .pure a
  | .throw e => .throw e
  | .act step k =>
      .act (fun s => ((step (get s)).1, set s (step (get s)).2)) fun b => (k b).within get set

/-- A program that only looks at the part leaves everything as it is. -/
theorem alone_within {S : Type} {get : S → W} {set : S → W → S} (hset : ∀ s, set s (get s) = s)
    {p : Prog W E α} (h : Looks p) (s : S) :
    ((p.within get set).alone s).2 = ((p.alone (get s)).2.1, s) := by
  -- over the program: each step is made on the part and put back
  induction p with
  | pure a => rfl
  | throw e => rfl
  | act step k ih =>
      have hsame := h.1 (get s)
      rw [Prog.within, alone_act, alone_act]
      rcases hstep : step (get s) with ⟨e | b, w'⟩
      · rw [hstep] at hsame
        dsimp only at hsame ⊢
        rw [hsame, hset]
      · rw [hstep] at hsame
        dsimp only at hsame ⊢
        rw [hsame, hset, ih b (h.2 b)]

/-! ## What has been seen -/

/-- A run that returns a value takes one of its own steps in a world with a property. -/
def Sees (P : W → Prop) (p : Prog W E α) : Prop :=
  ∀ env w t a w', Runs env p w t (some (.ok a)) w' → ∃ s ∈ t, s.actor = .own ∧ P s.before

variable {P : W → Prop}

/-- A program that fails has nothing to see. -/
theorem sees_throw (e : E) : Sees P (throw e : Prog W E α) :=
  fun _ _ _ _ _ h => (not_returns_throw h).elim

/-- An action that succeeds only in a world with the property, or whose value leads to a
program that sees it. -/
theorem sees_act {step : W → Except E β × W} {k : β → Prog W E α}
    (h : ∀ w b w', step w = (.ok b, w') → P w ∨ Sees P (k b)) :
    Sees P (.act step k : Prog W E α) := by
  intro env w t a w' hrun
  generalize hp : (.act step k : Prog W E α) = p at hrun
  generalize hr : (some (.ok a) : Option (Except E α)) = r at hrun
  -- over the run: others may step before the program does
  induction hrun with
  | unfinished => cases hr
  | returned => cases hp
  | failed => cases hr
  | other _ _ ih =>
      obtain ⟨s, hs, hseen⟩ := ih hp hr
      exact ⟨s, List.mem_cons_of_mem _ hs, hseen⟩
  | act hstep hrest =>
      cases hp
      subst hr
      rcases h _ _ _ hstep with hw | hk
      · exact ⟨_, List.mem_cons_self .., rfl, hw⟩
      · obtain ⟨s, hs, hseen⟩ := hk _ _ _ _ _ hrest
        exact ⟨s, List.mem_cons_of_mem _ hs, hseen⟩
  | actFailed _ hrest =>
      subst hr
      obtain ⟨s, hs, hseen⟩ := sees_throw _ _ _ _ _ _ hrest
      exact ⟨s, List.mem_cons_of_mem _ hs, hseen⟩

/-- What is read decides: it has been seen, or the rest of the program sees it. -/
theorem sees_read_bind {g : W → Except E α} {f : α → Prog W E β}
    (h : ∀ w a, g w = .ok a → P w ∨ Sees P (f a)) : Sees P (Prog.read g >>= f) :=
  sees_act fun w a _ hstep => h w a (congrArg Prod.fst hstep)

/-- In what the program starts with. -/
theorem Sees.first {x : Prog W E α} {f : α → Prog W E β} (h : Sees P x) : Sees P (x >>= f) := by
  intro env w t b w'' hrun
  obtain ⟨t₁, t₂, a, w', rfl, hx, _⟩ := hrun.of_bind
  obtain ⟨s, hs, hseen⟩ := h env w t₁ a w' hx
  exact ⟨s, List.mem_append_left t₂ hs, hseen⟩

/-- In what the program goes on with. -/
theorem Sees.later {x : Prog W E α} {f : α → Prog W E β} (h : ∀ a, Sees P (f a)) :
    Sees P (x >>= f) := by
  intro env w t b w'' hrun
  obtain ⟨t₁, t₂, a, w', rfl, _, hf⟩ := hrun.of_bind
  obtain ⟨s, hs, hseen⟩ := h a env w' t₂ b w'' hf
  exact ⟨s, List.mem_append_right t₁ hs, hseen⟩

/-! ## Programs that return -/

/-- The state after a program that only looks. -/
theorem Looks.world_eq {p : Prog W E α} (h : Looks p) {w w' : W} {r : Except E α}
    (hrun : (p.alone w).2 = (r, w')) : w' = w := by
  have hsame := h.alone w
  rw [hrun] at hsame
  exact hsame

/-- A sequence returns a value if both programs do. -/
theorem alone_bind_eq_ok {x : Prog W E α} {f : α → Prog W E β} {w w'' : W} {b : β} :
    ((x >>= f).alone w).2 = (.ok b, w'') ↔
      ∃ a w', (x.alone w).2 = (.ok a, w') ∧ ((f a).alone w').2 = (.ok b, w'') := by
  rw [alone_bind]
  rcases (x.alone w).2 with ⟨e | a, w'⟩
  · simp
  · simp

/-- The first program only looks. -/
theorem Looks.alone_bind_eq_ok {x : Prog W E α} {f : α → Prog W E β} (hx : Looks x) {w w' : W}
    {b : β} :
    ((x >>= f).alone w).2 = (.ok b, w') ↔
      ∃ a, (x.alone w).2.1 = .ok a ∧ ((f a).alone w).2 = (.ok b, w') := by
  rw [Interleaved.alone_bind_eq_ok]
  have hsame := hx.alone w
  constructor
  · rintro ⟨a, w₁, ha, hb⟩
    rw [ha] at hsame
    dsimp only at hsame
    subst hsame
    exact ⟨a, congrArg Prod.fst ha, hb⟩
  · rintro ⟨a, ha, hb⟩
    exact ⟨a, w, Prod.ext ha hsame, hb⟩

/-- A program that is called for every entry of a list, and only looks. -/
theorem looks_forM {xs : List β} {f : β → Prog W E PUnit} (hf : ∀ b, Looks (f b)) :
    Looks (xs.forM f) :=
  Guarantees.forM hf

/-- A check of each item passes if and only if every item passes it. -/
theorem Looks.forM_eq_ok {xs : List β} {f : β → Prog W E PUnit} (hf : ∀ b, Looks (f b)) {w : W} :
    ((xs.forM f).alone w).2.1 = .ok ⟨⟩ ↔ ∀ b ∈ xs, ((f b).alone w).2.1 = .ok ⟨⟩ := by
  -- item by item, in a state that does not change
  induction xs with
  | nil => exact iff_of_true rfl fun b hb => absurd hb List.not_mem_nil
  | cons b xs ih =>
      have hcons : (b :: xs).forM f = f b >>= fun _ => xs.forM f := rfl
      rw [hcons, (hf b).bind_eq_ok, List.forall_mem_cons, ← ih]
      constructor
      · rintro ⟨_, hb, hxs⟩
        exact ⟨hb, hxs⟩
      · rintro ⟨hb, hxs⟩
        exact ⟨_, hb, hxs⟩

/-! ## What a program depends on -/

/-- Every action of the program answers the same in two worlds that are alike. -/
def Alike (R : W → W → Prop) : Prog W E α → Prop
  | .pure _ => True
  | .throw _ => True
  | .act step k => (∀ w w', R w w' → (step w).1 = (step w').1) ∧ ∀ b, Alike R (k b)

variable {R : W → W → Prop}

/-- Reading what two states have in common. -/
theorem alike_read {f : W → Except E α} (h : ∀ w w', R w w' → f w = f w') :
    Alike R (Prog.read f) :=
  ⟨h, fun _ => trivial⟩

/-- Two programs in sequence that depend on the same part of the state. -/
theorem Alike.bind {x : Prog W E α} {f : α → Prog W E β} (hx : Alike R x)
    (hf : ∀ a, Alike R (f a)) : Alike R (x >>= f) := by
  change Alike R (x.bind f)
  induction x with
  | pure a => exact hf a
  | throw e => trivial
  | act step k ih => exact ⟨hx.1, fun b => ih b (hx.2 b)⟩

/-- A program for each item depends on that part as well. -/
theorem Alike.forM {xs : List β} {f : β → Prog W E PUnit} (hf : ∀ b, Alike R (f b)) :
    Alike R (xs.forM f) := by
  induction xs with
  | nil => trivial
  | cons b xs ih => exact (hf b).bind fun _ => ih

/-- A program that only looks answers the same in worlds that are alike to it. -/
theorem Alike.alone {p : Prog W E α} (h : Alike R p) (hlooks : Looks p) {w w' : W} (hw : R w w') :
    (p.alone w).2.1 = (p.alone w').2.1 := by
  -- over the program, whose steps give the same in both states
  induction p with
  | pure a => rfl
  | throw e => rfl
  | act step k ih =>
      have hanswer := h.1 w w' hw
      have hleft := hlooks.1 w
      have hright := hlooks.1 w'
      rw [alone_act, alone_act]
      rcases hstep : step w with ⟨e | b, w₁⟩
      · rcases hstep' : step w' with ⟨e' | b', w₂⟩
        · rw [hstep, hstep'] at hanswer
          cases hanswer
          rfl
        · rw [hstep, hstep'] at hanswer
          cases hanswer
      · rcases hstep' : step w' with ⟨e' | b', w₂⟩
        · rw [hstep, hstep'] at hanswer
          cases hanswer
        · rw [hstep, hstep'] at hanswer
          rw [hstep] at hleft
          rw [hstep'] at hright
          dsimp only at hanswer hleft hright ⊢
          cases hanswer
          rw [hleft, hright]
          exact ih b (h.2 b) (hlooks.2 b)

/-! ## The step that counts -/

/-- Own steps that only look leave everything as it is. -/
def Untouched (t : List (Step W)) : Prop := ∀ s ∈ t, s.actor = .own → s.after = s.before

/-- A program that looks until it takes a step of one kind, and then keeps to steps of another;
where that step fails, it leaves the world as it is. -/
def Once {ι : Type} (S G : ι → W → W → Prop) : Prog W E α → Prop
  | .pure _ => True
  | .throw _ => True
  | .act step k =>
      ((∀ w, (step w).2 = w) ∧ ∀ b, Once S G (k b)) ∨
        ∃ i, (∀ w, (∃ e, step w = (.error e, w)) ∨ S i w (step w).2) ∧
          ∀ b, Guarantees (G i) (k b)

section Once

variable {ι : Type} {S G : ι → W → W → Prop}

/-- A program that only looks never comes to the step. -/
theorem Looks.once {p : Prog W E α} (h : Looks p) : Once S G p := by
  induction p with
  | pure a => trivial
  | throw e => trivial
  | act step k ih => exact .inl ⟨h.1, fun b => ih b (h.2 b)⟩

end Once

/-! ## What holds after an action -/

/-- No step of the others spoils it. -/
def Stable (P : W → Prop) (t : List (Step W)) : Prop :=
  ∀ o ∈ t, o.actor = .other → P o.before → P o.after

/-- What others preserve in some steps they preserve in fewer. -/
theorem Stable.mono {P : W → Prop} {t t' : List (Step W)} (h : Stable P t')
    (hsub : ∀ o ∈ t, o ∈ t') : Stable P t :=
  fun o ho => h o (hsub o ho)

end Runs

end Interleaved
