import KyomiConnect.TicketWorktrees

/-! # No commit is lost

Whatever other clients do in between, `mark_branch` removes a remote branch only in the
step that creates its archive, overwrites nothing, and keeps what local branches reach.
That it exits with 0 says that it has seen the archive (`mark_branch_preserves`); another
client may have removed it since.
-/

namespace KyomiConnect.TicketWorktrees

open Interleaved (Prog Guarantees Sees Step)

variable {Commit : Type}

/-- Every branch stays as it is; only `branch` may go, in the step in which its archive
comes, at the same commit. -/
def Kept (branch : String) (refs refs' : String → Option Commit) : Prop :=
  ∀ name c, refs name = some c → refs' name = some c ∨
    name = branch ∧ refs' branch = none ∧
      refs (archiveOf branch) = none ∧ refs' (archiveOf branch) = some c

/-- What every step of the helper does to the branches. -/
structure KeepsRefs (branch : String) (w w' : World Commit) : Prop where
  remote : Kept branch w.remoteRefs w'.remoteRefs
  locals : Kept branch w.localRefs w'.localRefs

variable {branch : String}

/-- Refs that do not change are kept. -/
theorem kept_refl (refs : String → Option Commit) : Kept branch refs refs := fun _ _ h => .inl h

/-- A command that changes no ref keeps them. -/
theorem keepsRefs_refl (w : World Commit) : KeepsRefs branch w w := ⟨kept_refl _, kept_refl _⟩

/-- The archive has another name than the branch. -/
theorem archiveOf_ne (branch : String) : archiveOf branch ≠ branch := by
  intro heq
  have hlength : (archiveOf branch).toList.length = branch.toList.length := by rw [heq]
  have hprefix : "stranded/".toList.length = 9 := rfl
  rw [archiveOf, String.toList_append, List.length_append] at hlength
  omega

/-- The archive's name means the branch. -/
theorem baseName_archiveOf (branch : String) : baseName (archiveOf branch) = branch := by
  have hstarts : Text.startsWith (archiveOf branch) "stranded/" = true := by
    rw [Text.startsWith, List.isPrefixOf_iff_prefix, archiveOf, String.toList_append]
    exact List.prefix_append _ _
  have hdrop : (archiveOf branch).toList.drop 9 = branch.toList := by
    rw [archiveOf, String.toList_append]
    exact List.drop_left' rfl
  rw [baseName, if_pos hstarts, hdrop, String.ofList_toList]

/-- One branch is moved to its archive, which is not there. -/
theorem kept_move {refs : String → Option Commit} {c : Commit}
    (hbranch : refs branch = some c) (harchive : refs (archiveOf branch) = none) :
    Kept branch refs fun name =>
      if name = archiveOf branch then some c else if name = branch then none else refs name := by
  intro name d hname
  have hname_ne : name ≠ archiveOf branch := by
    rintro rfl
    rw [harchive] at hname
    cases hname
  by_cases hmoved : name = branch
  · subst hmoved
    right
    rw [hbranch] at hname
    cases hname
    refine ⟨rfl, ?_, harchive, if_pos rfl⟩
    beta_reduce
    rw [if_neg hname_ne, if_pos rfl]
  · left
    beta_reduce
    rw [if_neg hname_ne, if_neg hmoved]
    exact hname

/-! ## What a step keeps -/

/-- The archive of a branch is on the remote. -/
def Archived (branch : String) (w : World Commit) : Prop :=
  (w.remoteRefs (archiveOf branch)).isSome = true

/-- A commit that some local branch reaches, by the ancestry of commits. -/
def Reached (ancestry : Commit → Commit → Prop) (c : Commit) (w : World Commit) : Prop :=
  ∃ name tip, w.localRefs name = some tip ∧ ancestry tip c

/-- What a branch reaches is reached after a step of the helper. -/
theorem reached_of_kept {ancestry : Commit → Commit → Prop} {c : Commit} {w w' : World Commit}
    (hkept : KeepsRefs branch w w') (h : Reached ancestry c w) : Reached ancestry c w' := by
  obtain ⟨name, tip, hname, htip⟩ := h
  rcases hkept.locals name tip hname with hstays | ⟨_, _, _, hmoved⟩
  · exact ⟨name, tip, hstays, htip⟩
  · exact ⟨archiveOf branch, tip, hmoved, htip⟩

/-- The helper does not remove an archive: it moves only the branch it is called for. -/
theorem archived_of_kept {w w' : World Commit} (hkept : KeepsRefs branch w w')
    (h : Archived branch w) : Archived branch w' := by
  obtain ⟨c, hc⟩ := Option.isSome_iff_exists.1 h
  rcases hkept.remote _ c hc with hstays | ⟨hname, _⟩
  · rw [Archived, hstays]
    rfl
  · exact absurd hname (archiveOf_ne branch)

/-! ## Commands -/

/-- A report changes nothing. -/
theorem guarantees_report (command : String) {α : Type} (f : World Commit → α) :
    Guarantees (KeepsRefs branch) (report command f) :=
  Interleaved.guarantees_read keepsRefs_refl _

/-- A change that keeps the refs does so whenever it happens. -/
theorem guarantees_update {command : String} {f : World Commit → Option (World Commit)}
    (h : ∀ w w', f w = some w' → KeepsRefs branch w w') :
    Guarantees (KeepsRefs branch) (update command f) := by
  apply Interleaved.guarantees_atomic
  intro w
  split
  · exact keepsRefs_refl w
  · split
    · rename_i w' hw'
      exact h w w' hw'
    · exact keepsRefs_refl w

/-- A refusal changes nothing. -/
theorem guarantees_refuse (c : Prop) [Decidable c] (e : Failure) :
    Guarantees (KeepsRefs branch) (refuse c e : Script Commit Unit) := by
  unfold refuse
  split
  · exact Interleaved.guarantees_throw e
  · exact Interleaved.guarantees_pure ()

/-- Fetching sets FETCH_HEAD only. -/
theorem guarantees_fetch (name : String) :
    Guarantees (KeepsRefs branch) (fetch name : Script Commit Unit) := by
  apply guarantees_update
  intro w w' hw'
  obtain ⟨c, _, rfl⟩ := Option.map_eq_some_iff.1 hw'
  exact ⟨kept_refl _, kept_refl _⟩

/-- A rename takes the commit along. -/
theorem guarantees_renameBranch :
    Guarantees (KeepsRefs branch)
      (renameBranch branch (archiveOf branch) : Script Commit Unit) := by
  apply guarantees_update
  intro w w' hw'
  split at hw'
  · rename_i c hbranch harchive
    cases hw'
    exact ⟨kept_refl _, kept_move hbranch harchive⟩
  · cases hw'

/-- The default branch is only read. -/
theorem guarantees_defaultBranch :
    Guarantees (KeepsRefs branch) (defaultBranch : Script Commit String) := by
  refine (guarantees_report _ _).bind fun names => ?_
  split
  · exact Interleaved.guarantees_pure _
  · exact Interleaved.guarantees_throw _

/-- The pull requests are only read. -/
theorem guarantees_noPr (name : String) :
    Guarantees (KeepsRefs branch) (noPr name : Script Commit Unit) :=
  (Interleaved.guarantees_read keepsRefs_refl _).bind fun _ => guarantees_refuse _ _

/-- A report that succeeds is what holds at that moment. -/
theorem report_eq_ok {command : String} {α : Type} {f : World Commit → α} {w : World Commit}
    {a : α} (h : (if w.broken then .error (w.failure command) else .ok (f w)) = Except.ok a) :
    a = f w := by
  split at h
  · cases h
  · exact (Except.ok.inj h).symm

/-! ## The helper -/

section Helper

variable (root : String) (ticket : Ticket)

/-- The check of a worktree keeps the refs. -/
theorem guarantees_checkedTree (path : String) :
    Guarantees (KeepsRefs branch)
      (checkedTree root path ticket : Script Commit (String × String)) := by
  unfold checkedTree
  have hread {α : Type} (f : World Commit → Except Failure α) :
      Guarantees (KeepsRefs branch) (Prog.read f) :=
    Interleaved.guarantees_read keepsRefs_refl f
  refine (hread _).bind fun path => (guarantees_report _ _).bind fun actual =>
    (guarantees_refuse _ _).bind fun _ => (guarantees_report _ _).bind fun ownCommon =>
    (guarantees_report _ _).bind fun targetCommon => (guarantees_report _ _).bind fun targetGit =>
    (guarantees_refuse _ _).bind fun _ => (guarantees_refuse _ _).bind fun _ =>
    (guarantees_report _ _).bind fun trees => (hread _).bind fun resolve => ?_
  split
  · exact guarantees_defaultBranch.bind fun _ => (guarantees_refuse _ _).bind fun _ =>
      Interleaved.guarantees_pure _
  · exact Interleaved.guarantees_throw _

/-- The checks of all worktrees of a branch keep the refs. -/
theorem guarantees_checkedOutTrees (name : String) :
    Guarantees (KeepsRefs branch)
      (checkedOutTrees root name ticket : Script Commit (List Worktree)) := by
  refine (guarantees_report _ _).bind fun trees => Guarantees.bind ?_ fun _ =>
    Interleaved.guarantees_pure _
  exact Guarantees.forM fun tree => (guarantees_checkedTree root ticket tree.path).bind fun found =>
    (Interleaved.guarantees_read keepsRefs_refl _).bind fun _ => guarantees_refuse _ _

variable [DecidableEq Commit]

/-- Both leases hold, or nothing happens. -/
theorem guarantees_pushAtomic (original : Commit) :
    Guarantees (KeepsRefs branch) (pushAtomic (archiveOf branch) branch original) := by
  apply Interleaved.guarantees_atomic
  intro w
  split
  · exact keepsRefs_refl w
  · rename_i hleases
    push Not at hleases
    obtain ⟨_, _, harchive, hbranch⟩ := hleases
    exact ⟨kept_move hbranch (Option.not_isSome_iff_eq_none.1 harchive), kept_refl _⟩

/-- The remote's branch is deleted only in a push that has its archive in it. -/
theorem guarantees_preserveRemote (original saved : Option Commit) :
    Guarantees (KeepsRefs branch) (preserveRemote root branch ticket original saved) := by
  unfold preserveRemote
  split
  · exact (guarantees_refuse _ _).bind fun _ => (guarantees_fetch _).bind fun _ =>
      (guarantees_report _ _).bind fun _ => (guarantees_refuse _ _).bind fun _ =>
      (guarantees_noPr _).bind fun _ => (guarantees_checkedOutTrees root ticket _).bind fun _ =>
      (guarantees_pushAtomic _).bind fun _ => (guarantees_report _ _).bind fun _ =>
      guarantees_refuse _ _
  · exact (guarantees_refuse _ _).bind fun _ => guarantees_fetch _

variable (validRef : String → Bool) (argument : String)

/-- Every step of a run keeps the refs. -/
theorem guarantees_markBranch :
    Guarantees (KeepsRefs (baseName argument))
      (markBranch root validRef argument ticket : Script Commit ℕ) := by
  have hvalid (name : String) : Guarantees (KeepsRefs (baseName argument))
      (update "git check-ref-format"
      fun w : World Commit => if validRef name then some w else none) := by
    apply guarantees_update
    intro w w' hw'
    split at hw'
    · cases hw'
      exact keepsRefs_refl w
    · cases hw'
  unfold markBranch
  refine (guarantees_refuse _ _).bind fun _ => guarantees_defaultBranch.bind fun _ =>
    (guarantees_refuse _ _).bind fun _ => (hvalid _).bind fun _ => (guarantees_noPr _).bind fun _ =>
    (guarantees_checkedOutTrees root ticket _).bind fun _ => (guarantees_report _ _).bind fun _ =>
    (guarantees_preserveRemote root ticket _ _).bind fun _ => (guarantees_report _ _).bind fun _ =>
    (guarantees_checkedOutTrees root ticket _).bind fun _ => ?_
  split
  · exact (guarantees_refuse _ _).bind fun _ => guarantees_renameBranch.bind fun _ =>
      Interleaved.guarantees_pure _
  · exact Interleaved.guarantees_pure _

/-! ## The archive is seen -/

/-- Where the remote's part ends without an error, the archive has been there. -/
theorem sees_preserveRemote (branch : String) (original saved : Option Commit) :
    Sees (Archived branch) (preserveRemote root branch ticket original saved) := by
  unfold preserveRemote
  split
  · rename_i original
    refine Sees.later fun _ => Sees.later fun _ => Sees.later fun _ => Sees.later fun _ =>
      Sees.later fun _ => Sees.later fun _ => Sees.later fun _ => ?_
    -- the listing that is verified is one with the archive
    refine Interleaved.sees_read_bind fun w after hafter => ?_
    have hlisting := report_eq_ok hafter
    by_cases harchive : after (archiveOf branch) = some original
    · left
      rw [hlisting] at harchive
      rw [Archived, harchive]
      rfl
    · right
      rw [refuse, if_pos (.inl harchive)]
      exact Interleaved.sees_throw _
  · refine Sees.later fun _ => ?_
    -- a fetch needs what it fetches
    refine Interleaved.sees_act fun w b w' hstep => ?_
    left
    split at hstep
    · cases hstep
    · split at hstep
      · rename_i w'' hfetch
        obtain ⟨c, hc, _⟩ := Option.map_eq_some_iff.1 hfetch
        rw [Archived, hc]
        rfl
      · cases hstep

/-- Where a run exits with 0, the archive has been there. -/
theorem sees_markBranch :
    Sees (Archived (baseName argument))
      (markBranch root validRef argument ticket : Script Commit ℕ) := by
  unfold markBranch
  refine Sees.later fun _ => Sees.later fun _ => Sees.later fun _ => Sees.later fun _ =>
    Sees.later fun _ => Sees.later fun _ => Sees.later fun remoteRefs => Sees.first ?_
  exact sees_preserveRemote root ticket _ _ _

/-! ## Runs -/

/-- Whatever others do in between: every step of the helper keeps the branches, or moves
the one branch to its archive; what local branches reach stays reached if the others do not
lose it; and at exit 0 the helper has seen the archive on the remote, where it is still
unless another client has removed it since. -/
theorem mark_branch_preserves {env : World Commit → World Commit → Prop} {w w' : World Commit}
    {t : List (Step (World Commit))} {r : Option (Except Failure ℕ)}
    (h : Interleaved.Runs env (markBranch root validRef argument ticket) w t r w') :
    (∀ s ∈ t, s.actor = .own → KeepsRefs (baseName argument) s.before s.after) ∧
    (∀ ancestry c,
      (∀ s ∈ t, s.actor = .other → Reached ancestry c s.before → Reached ancestry c s.after) →
      Reached ancestry c w → Reached ancestry c w') ∧
    (r = some (.ok 0) → ∃ t₁ s t₂, t = t₁ ++ s :: t₂ ∧ s.actor = .own ∧
      Archived (baseName argument) s.before ∧
      ((∀ o ∈ t₂, o.actor = .other →
          Archived (baseName argument) o.before → Archived (baseName argument) o.after) →
        Archived (baseName argument) w')) := by
  have hown := Interleaved.own_of_runs (guarantees_markBranch root ticket validRef argument) h
  refine ⟨hown, ?_, ?_⟩
  · intro ancestry c hothers
    refine h.chain.preserves ?_
    intro s hs hreached
    cases hactor : s.actor with
    | own => exact reached_of_kept (hown s hs hactor) hreached
    | other => exact hothers s hs hactor hreached
  · rintro rfl
    obtain ⟨s, hs, hsown, hseen⟩ := sees_markBranch root ticket validRef argument _ _ _ _ _ h
    obtain ⟨t₁, t₂, rfl⟩ := List.append_of_mem hs
    refine ⟨t₁, s, t₂, rfl, hsown, hseen, fun hothers => ?_⟩
    -- from the step on in which it has been seen
    refine h.chain.from_step.preserves ?_ hseen
    intro o ho harchived
    have ho' : o ∈ t₁ ++ s :: t₂ := List.mem_append_right t₁ ho
    rcases List.mem_cons.1 ho with rfl | ho
    · exact archived_of_kept (hown _ ho' hsown) harchived
    · cases hactor : o.actor with
      | own => exact archived_of_kept (hown o ho' hactor) harchived
      | other => exact hothers o ho hactor harchived

end Helper

/-! ## A run that is overtaken -/

/-- A repository in which nothing is checked out, with these branches on the remote and
locally. -/
def quietWorld (remoteRefs localRefs : String → Option ℕ) : World ℕ where
  remoteRefs := remoteRefs
  remoteHead := ["main"]
  localRefs := localRefs
  fetchHead := none
  worktrees := []
  pulls := some []
  resolve := some
  directory _ := ⟨".", ".git", ".git"⟩
  marker _ := .ok none
  atomicPush := true
  answered := true
  broken := false
  stderr := ""

def markKyo17 : Script ℕ ℕ := markBranch "." (fun _ => true) "kyo-17-fix" ⟨"KYO", "17"⟩

/-- Another client deletes a branch of the remote. -/
def Deletes (w w' : World ℕ) : Prop :=
  ∃ branch, w' = { w with remoteRefs := fun name =>
    if name = branch then none else w.remoteRefs name }

/-- The branch, on the remote and locally. -/
def publishedWorld : World ℕ :=
  quietWorld (fun name => if name = "kyo-17-fix" then some 1 else none)
    (fun name => if name = "kyo-17-fix" then some 1 else none)

/-- The branch, and another one on the remote. -/
def busyWorld : World ℕ :=
  quietWorld
    (fun name => if name = "kyo-17-fix" then some 1 else if name = "kyo-3" then some 2 else none)
    (fun name => if name = "kyo-17-fix" then some 1 else none)

/-- Another client deletes the other branch after the first step of the helper. -/
theorem runs_markKyo17_busy :
    ∃ t w', Interleaved.Runs Deletes markKyo17 busyWorld t (some (.ok 0)) w' ∧
      (∃ o ∈ t, o.actor = .other ∧ o.before.remoteRefs "kyo-3" = some 2 ∧
        o.after.remoteRefs "kyo-3" = none) ∧
      ∀ o ∈ t, o.actor = .other → o.after.remoteRefs (archiveOf "kyo-17-fix") =
        o.before.remoteRefs (archiveOf "kyo-17-fix") := by
  let w : World ℕ := { busyWorld with remoteRefs := fun name =>
    if name = "kyo-3" then none else busyWorld.remoteRefs name }
  have hdeleted : Deletes busyWorld w := ⟨"kyo-3", rfl⟩
  refine ⟨_, _, .act rfl (.other hdeleted (Interleaved.runs_alone _ _)), ?_, ?_⟩
  · exact ⟨⟨.other, busyWorld, w⟩, by simp, rfl, rfl, rfl⟩
  · intro o ho hother
    rcases List.mem_cons.1 ho with rfl | ho
    · cases hother
    · rcases List.mem_cons.1 ho with rfl | ho
      · rfl
      · rw [Interleaved.own_of_alone o ho] at hother
        cases hother

/-- A run while somebody else deletes another branch on the remote. -/
theorem mark_branch_preserves_published :
    ∃ t w', Interleaved.Runs Deletes markKyo17 busyWorld t (some (.ok 0)) w' ∧
      (∃ o ∈ t, o.actor = .other ∧ o.before.remoteRefs "kyo-3" = some 2 ∧
        o.after.remoteRefs "kyo-3" = none) ∧
      (∀ s ∈ t, s.actor = .own → KeepsRefs "kyo-17-fix" s.before s.after) ∧
      Reached Eq 1 w' ∧ Archived "kyo-17-fix" w' := by
  obtain ⟨t, w', hrun, hdeleted, hothers⟩ := runs_markKyo17_busy
  obtain ⟨hown, hreached, hexit⟩ :=
    mark_branch_preserves "." ⟨"KYO", "17"⟩ (fun _ => true) "kyo-17-fix" hrun
  refine ⟨t, w', hrun, hdeleted, hown, ?_, ?_⟩
  · refine hreached Eq 1 ?_ ⟨"kyo-17-fix", 1, rfl, rfl⟩
    intro o ho hother hbefore
    -- what is deleted is on the remote
    obtain ⟨branch, hafter⟩ := Interleaved.env_of_runs hrun o ho hother
    rw [hafter]
    exact hbefore
  · obtain ⟨t₁, s, t₂, hsteps, -, -, hkept⟩ := hexit rfl
    apply hkept
    intro o ho hother harchived
    have hmem : o ∈ t := by
      rw [hsteps]
      exact List.mem_append_right _ (List.mem_cons_of_mem _ ho)
    exact (congrArg Option.isSome (hothers o hmem hother)).trans harchived

/-- The archive that is preserved already is deleted once it has been fetched. -/
theorem archive_deleted_at_exit :
    ¬ ∀ w t w', Interleaved.Runs Deletes markKyo17 w t (some (.ok 0)) w' →
      Archived "kyo-17-fix" w' := by
  intro hall
  let w := quietWorld (fun name => if name = "stranded/kyo-17-fix" then some 1 else none)
    (fun _ => none)
  have hrun : Interleaved.Runs Deletes markKyo17 w (markKyo17.alone w).1 (some (.ok 0))
      (markKyo17.alone w).2.2 :=
    Interleaved.runs_alone markKyo17 w
  have harchived := hall _ _ _ (hrun.then_other ⟨archiveOf "kyo-17-fix", rfl⟩)
  dsimp only [Archived] at harchived
  rw [if_pos rfl] at harchived
  cases harchived

end KyomiConnect.TicketWorktrees
