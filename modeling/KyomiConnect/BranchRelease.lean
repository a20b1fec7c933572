import KyomiConnect.BranchPreservation
import KyomiConnect.InFlightVerdict

/-! # Releasing a branch

What `mark_branch` has done when it exits with 0 and nobody else has acted: the branch is gone
from the remote, its archive is there, the worktrees that have it checked out are marked, and the
local branch is renamed unless a worktree has it. `Released` says this of a world. In such a world
`mark_branch` succeeds again, under either name of the branch, and changes nothing but FETCH_HEAD;
and the verdict of `check` depends on the other branches only.
-/

namespace KyomiConnect.TicketWorktrees

open Interleaved (Prog Looks Alike)

variable {Commit : Type}

/-! ## Commands that succeed -/

/-- A command that changes the repository succeeds where Git works and the change can be made. -/
theorem alone_update_eq_ok {command : String} {f : World Commit → Option (World Commit)}
    {w w' : World Commit} :
    ((update command f).alone w).2 = (.ok (), w') ↔ w.broken = false ∧ f w = some w' := by
  unfold update
  rw [Interleaved.alone_atomic]
  by_cases hbroken : w.broken = true
  · rw [if_pos hbroken]
    simp [hbroken]
  · rw [if_neg hbroken, Bool.eq_false_iff]
    cases hf : f w with
    | none => simp
    | some w₁ => simp [hbroken]

/-- A branch that has been fetched is on the remote, and at FETCH_HEAD. -/
theorem alone_fetch_ok {name : String} {w w' : World Commit}
    (h : ((fetch name).alone w).2 = (.ok (), w')) :
    ∃ c, w.remoteRefs name = some c ∧ w' = { w with fetchHead := some c } := by
  obtain ⟨-, hfetch⟩ := alone_update_eq_ok.1 h
  obtain ⟨c, hc, rfl⟩ := Option.map_eq_some_iff.1 hfetch
  exact ⟨c, hc, rfl⟩

/-- A report succeeds where Git works. -/
theorem alone_report_eq_ok {α : Type} {command : String} {f : World Commit → α}
    {w : World Commit} {a : α} :
    ((report command f).alone w).2.1 = .ok a ↔ w.broken = false ∧ a = f w := by
  unfold report
  rw [Interleaved.alone_read]
  by_cases hbroken : w.broken = true
  · simp [hbroken]
  · rw [if_neg hbroken, Except.ok.injEq, Bool.eq_false_iff]
    exact ⟨fun h => ⟨hbroken, h.symm⟩, fun h => h.2.symm⟩

/-- A script goes on if and only if there is no reason to refuse. -/
theorem alone_refuse_eq_ok {c : Prop} [Decidable c] {e : Failure} {w : World Commit} :
    ((refuse c e).alone w).2.1 = .ok () ↔ ¬ c := by
  constructor
  · exact refuse_ok
  · intro hc
    rw [refuse, if_neg hc]
    rfl

/-- There is no pull request of the branch, as far as GitHub answers. -/
theorem alone_noPr_eq_ok {branch : String} {w : World Commit} :
    ((noPr branch).alone w).2.1 = .ok () ↔ ∃ rows, w.pulls = some rows ∧ branch ∉ rows := by
  have hlooks : Looks (pullRequests : Script Commit (List String)) := Interleaved.looks_read _
  unfold noPr
  rw [hlooks.bind_eq_ok]
  simp only [alone_refuse_eq_ok, pullRequests, Interleaved.alone_read]
  -- GitHub does not answer, or lists its rows
  cases hpulls : w.pulls with
  | none => simp
  | some rows => simp

/-- The remote's HEAD names one branch. -/
theorem alone_defaultBranch_eq_ok {name : String} {w : World Commit} :
    (defaultBranch.alone w).2.1 = .ok name ↔ w.broken = false ∧ w.remoteHead = [name] := by
  unfold defaultBranch
  rw [(looks_report _ _).bind_eq_ok]
  constructor
  · rintro ⟨names, hnames, h⟩
    obtain ⟨hbroken, rfl⟩ := alone_report_eq_ok.1 hnames
    -- one name, or a refusal
    split at h
    · rename_i hhead
      cases h
      exact ⟨hbroken, hhead⟩
    · cases h
  · rintro ⟨hbroken, hhead⟩
    refine ⟨[name], alone_report_eq_ok.2 ⟨hbroken, hhead.symm⟩, ?_⟩
    rfl

/-! ## Worktrees -/

section Trees

variable (root : String) (ticket : Ticket)

/-- The check of a worktree only looks. -/
theorem looks_checkMarked (tree : Worktree) :
    Looks (checkMarked root ticket tree : Script Commit Unit) :=
  (looks_checkedTree root tree.path ticket).bind fun _ =>
    (Interleaved.looks_read _).bind fun _ => looks_refuse _ _

/-- A worktree that may be touched for the ticket, and has its marker. -/
def TreeMarked (w : World Commit) (tree : Worktree) : Prop :=
  ((checkMarked root ticket tree).alone w).2.1 = .ok ()

/-- The checks of all worktrees of a branch only look. -/
theorem looks_checkedOutTrees (branch : String) :
    Looks (checkedOutTrees root branch ticket : Script Commit (List Worktree)) :=
  (looks_report _ _).bind fun _ =>
    (Interleaved.looks_forM (looks_checkMarked root ticket)).bind fun _ => Interleaved.looks_pure _

/-- The worktrees of a branch are given if each of them may be touched and has the marker. -/
theorem alone_checkedOutTrees_eq_ok {branch : String} {w : World Commit} {trees : List Worktree} :
    ((checkedOutTrees root branch ticket).alone w).2.1 = .ok trees ↔
      w.broken = false ∧ trees = w.worktrees.filter (fun tree => tree.branch = some branch) ∧
        ∀ tree ∈ trees, TreeMarked root ticket w tree := by
  have hforM (listed : List Worktree) :
      Looks (listed.forM (checkMarked root ticket : Worktree → Script Commit Unit)) :=
    Interleaved.looks_forM (looks_checkMarked root ticket)
  have hall {listed : List Worktree} :
      (((listed.forM (checkMarked root ticket)).alone w).2.1 = .ok ⟨⟩ ↔
        ∀ tree ∈ listed, TreeMarked root ticket w tree) :=
    Looks.forM_eq_ok (looks_checkMarked root ticket)
  have hlist : Looks (listWorktrees : Script Commit (List Worktree)) := looks_report _ _
  unfold checkedOutTrees
  rw [hlist.bind_eq_ok]
  constructor
  · -- the listing, then the checks in turn
    rintro ⟨listed, hlisted, h⟩
    obtain ⟨hbroken, rfl⟩ := alone_report_eq_ok.1 hlisted
    obtain ⟨_, hmarked, h⟩ := (hforM _).bind_eq_ok.1 h
    cases h
    exact ⟨hbroken, rfl, hall.1 hmarked⟩
  · rintro ⟨hbroken, rfl, hmarked⟩
    refine ⟨_, alone_report_eq_ok.2 ⟨hbroken, rfl⟩, ?_⟩
    exact (hforM _).bind_eq_ok.2 ⟨_, hall.2 hmarked, rfl⟩

/-- What the check of a worktree depends on. -/
structure SameTrees (w w' : World Commit) : Prop where
  broken : w.broken = w'.broken
  stderr : w.stderr = w'.stderr
  remoteHead : w.remoteHead = w'.remoteHead
  worktrees : w.worktrees = w'.worktrees
  resolve : w.resolve = w'.resolve
  directory : w.directory = w'.directory
  marker : w.marker = w'.marker

/-- A report is the same where what it reports is. -/
theorem alike_report {α : Type} {command : String} {f : World Commit → α}
    (h : ∀ w w', SameTrees w w' → f w = f w') : Alike SameTrees (report command f) := by
  apply Interleaved.alike_read
  intro w w' hw
  rw [hw.broken, h w w' hw, World.failure, World.failure, hw.stderr]

/-- A refusal does not depend on the repository. -/
theorem alike_refuse (c : Prop) [Decidable c] (e : Failure) :
    Alike SameTrees (refuse c e : Script Commit Unit) := by
  unfold refuse
  split
  · trivial
  · trivial

/-- The default branch does not depend on the refs. -/
theorem alike_defaultBranch : Alike SameTrees (defaultBranch : Script Commit String) := by
  refine (alike_report fun _ _ hw => hw.remoteHead).bind fun names => ?_
  split
  · trivial
  · trivial

/-- The check of a worktree does not depend on the refs. -/
theorem alike_checkMarked (tree : Worktree) :
    Alike SameTrees (checkMarked root ticket tree : Script Commit Unit) := by
  have htree : Alike SameTrees
      (checkedTree root tree.path ticket : Script Commit (String × String)) := by
    -- every step of the check reads one of the fields of `SameTrees`
    unfold checkedTree
    have hdirectory (path : String) (field : Directory → String) :
        Alike SameTrees (report "git rev-parse" fun w : World Commit => field (w.directory path)) :=
      alike_report fun _ _ hw => congrArg (fun d => field (d path)) hw.directory
    refine Alike.bind ?_ fun path => (hdirectory path _).bind fun actual =>
      (alike_refuse _ _).bind fun _ => (hdirectory root _).bind fun ownCommon =>
      (hdirectory path _).bind fun targetCommon => (hdirectory path _).bind fun targetGit =>
      (alike_refuse _ _).bind fun _ => (alike_refuse _ _).bind fun _ =>
      (alike_report fun _ _ hw => hw.worktrees).bind fun trees => Alike.bind ?_ fun resolve => ?_
    · apply Interleaved.alike_read
      intro w w' hw
      rw [hw.resolve, hw.stderr]
    · apply Interleaved.alike_read
      intro w w' hw
      rw [hw.resolve]
    · split
      · exact alike_defaultBranch.bind fun _ => (alike_refuse _ _).bind fun _ => trivial
      · trivial
  refine htree.bind fun found => Alike.bind ?_ fun marked => alike_refuse _ _
  apply Interleaved.alike_read
  intro w w' hw
  rw [hw.marker]

/-- A marked worktree is still marked after the refs have moved. -/
theorem treeMarked_congr {w w' : World Commit} (hw : SameTrees w w') {tree : Worktree}
    (h : TreeMarked root ticket w tree) : TreeMarked root ticket w' tree := by
  have hsame := (alike_checkMarked root ticket tree).alone (looks_checkMarked root ticket tree) hw
  rw [TreeMarked, ← hsame]
  exact h

variable {root ticket}

/-- The path that a check gives is the one that the argument leads to. -/
theorem checkedTree_resolves {argument path branch : String} {w : World Commit}
    (h : ((checkedTree root argument ticket).alone w).2.1 = .ok (path, branch)) :
    w.resolve argument = some path := by
  unfold checkedTree at h
  -- the first step resolves the argument, the last one gives the path back
  obtain ⟨found, hfound, h⟩ := (Interleaved.looks_read _).bind_eq_ok.1 h
  obtain ⟨_, -, h⟩ := (looks_report _ _).bind_eq_ok.1 h
  obtain ⟨_, -, h⟩ := (looks_refuse _ _).bind_eq_ok.1 h
  obtain ⟨_, -, h⟩ := (looks_report _ _).bind_eq_ok.1 h
  obtain ⟨_, -, h⟩ := (looks_report _ _).bind_eq_ok.1 h
  obtain ⟨_, -, h⟩ := (looks_report _ _).bind_eq_ok.1 h
  obtain ⟨_, -, h⟩ := (looks_refuse _ _).bind_eq_ok.1 h
  obtain ⟨_, -, h⟩ := (looks_refuse _ _).bind_eq_ok.1 h
  obtain ⟨trees, -, h⟩ := (looks_report _ _).bind_eq_ok.1 h
  obtain ⟨resolve, -, h⟩ := (Interleaved.looks_read _).bind_eq_ok.1 h
  split at h
  · obtain ⟨default, -, h⟩ := looks_defaultBranch.bind_eq_ok.1 h
    obtain ⟨_, -, h⟩ := (looks_refuse _ _).bind_eq_ok.1 h
    cases h
    rw [Interleaved.alone_read] at hfound
    dsimp only at hfound
    split at hfound
    · rename_i hresolve
      cases hfound
      exact hresolve
    · cases hfound
  · cases h

/-- A marked worktree has the ticket's marker where its path leads to. -/
theorem TreeMarked.marker {w : World Commit} {tree : Worktree}
    (h : TreeMarked root ticket w tree) :
    ∃ path, w.resolve tree.path = some path ∧ w.marker path = .ok (some ticket.key) := by
  unfold TreeMarked checkMarked at h
  obtain ⟨⟨path, branch⟩, hchecked, h⟩ := (looks_checkedTree root tree.path ticket).bind_eq_ok.1 h
  obtain ⟨marked, hmarked, h⟩ := (Interleaved.looks_read _).bind_eq_ok.1 h
  have hkey := not_not.1 (refuse_ok h)
  rw [Interleaved.alone_read] at hmarked
  dsimp only at hmarked
  refine ⟨path, checkedTree_resolves hchecked, ?_⟩
  rw [hmarked, hkey]

end Trees

/-! ## What a run has done -/

/-- A branch is moved to its archive. -/
def moved (branch : String) (c : Commit) (refs : String → Option Commit) : String → Option Commit :=
  fun name =>
    if name = archiveOf branch then some c else if name = branch then none else refs name

theorem moved_archive (branch : String) (c : Commit) (refs : String → Option Commit) :
    moved branch c refs (archiveOf branch) = some c :=
  if_pos rfl

/-- The branch is gone. -/
theorem moved_branch (branch : String) (c : Commit) (refs : String → Option Commit) :
    moved branch c refs branch = none := by
  rw [moved, if_neg (archiveOf_ne branch).symm, if_pos rfl]

/-- Every other branch is where it was. -/
theorem moved_of_ne {branch name : String} {c : Commit} {refs : String → Option Commit}
    (harchive : name ≠ archiveOf branch) (hbranch : name ≠ branch) :
    moved branch c refs name = refs name := by
  rw [moved, if_neg harchive, if_neg hbranch]

/-- What is there already is not moved. -/
theorem moved_eq_self {branch : String} {c : Commit} {refs : String → Option Commit}
    (harchive : refs (archiveOf branch) = some c) (hbranch : refs branch = none) :
    moved branch c refs = refs := by
  funext name
  unfold moved
  split
  · rename_i hname
    rw [hname, harchive]
  · split
    · rename_i hname
      rw [hname, hbranch]
    · rfl

/-- Where nothing has the branch checked out, a rename leaves the worktrees as they are. -/
theorem map_rename_eq_self {trees : List Worktree} {branch archive : String}
    (h : trees.filter (fun tree => tree.branch = some branch) = []) :
    trees.map (fun t => if t.branch = some branch then { t with branch := some archive } else t) =
      trees := by
  have hid : ∀ t ∈ trees,
      (if t.branch = some branch then { t with branch := some archive } else t) = t := by
    intro t ht
    have hne : ¬ decide (t.branch = some branch) = true := List.filter_eq_nil_iff.1 h t ht
    rw [if_neg (fun hbranch => hne (decide_eq_true hbranch))]
  rw [List.map_congr_left hid, List.map_id']

section Branch

variable [DecidableEq Commit] {root : String} {ticket : Ticket} {validRef : String → Bool}
  {argument branch : String} {w w' : World Commit}

/-- A push that has succeeded has moved the branch, both refs at once. -/
theorem alone_pushAtomic_ok {c : Commit}
    (h : ((pushAtomic (archiveOf branch) branch c).alone w).2 = (.ok (), w')) :
    w' = { w with remoteRefs := moved branch c w.remoteRefs } := by
  unfold pushAtomic at h
  rw [Interleaved.alone_atomic] at h
  split at h
  · cases h
  · dsimp only at h
    split at h
    · cases h
      rfl
    · cases h

/-- The branch is on the remote under its archive's name only, whether it was moved now or
before. -/
theorem alone_preserveRemote_ok
    (h : ((preserveRemote root branch ticket (w.remoteRefs branch)
      (w.remoteRefs (archiveOf branch))).alone w).2 = (.ok (), w')) :
    ∃ c, w' = { w with fetchHead := some c, remoteRefs := moved branch c w.remoteRefs } := by
  unfold preserveRemote at h
  split at h
  · -- the branch is on the remote: it is fetched, checked and pushed to its archive
    rename_i original horiginal
    obtain ⟨_, -, h⟩ := (looks_refuse _ _).alone_bind_eq_ok.1 h
    obtain ⟨_, w₁, hfetch, h⟩ := Interleaved.alone_bind_eq_ok.1 h
    obtain ⟨c, hc, rfl⟩ := alone_fetch_ok hfetch
    obtain ⟨_, -, h⟩ := (looks_report _ _).alone_bind_eq_ok.1 h
    obtain ⟨_, -, h⟩ := (looks_refuse _ _).alone_bind_eq_ok.1 h
    obtain ⟨_, -, h⟩ := (looks_noPr _).alone_bind_eq_ok.1 h
    obtain ⟨_, -, h⟩ := (looks_checkedOutTrees root ticket _).alone_bind_eq_ok.1 h
    obtain ⟨_, w₂, hpush, h⟩ := Interleaved.alone_bind_eq_ok.1 h
    obtain rfl := alone_pushAtomic_ok hpush
    obtain ⟨after, -, h⟩ := (looks_report _ _).alone_bind_eq_ok.1 h
    have hsame := (looks_refuse _ _).world_eq h
    have hcommit : c = original := Option.some.inj (hc.symm.trans horiginal)
    subst hcommit
    exact ⟨c, hsame⟩
  · -- the branch is gone: its archive must be there, and is fetched
    rename_i hnone
    obtain ⟨_, -, h⟩ := (looks_refuse _ _).alone_bind_eq_ok.1 h
    obtain ⟨c, hc, rfl⟩ := alone_fetch_ok h
    refine ⟨c, ?_⟩
    rw [moved_eq_self hc hnone]

/-- What has become of a branch that is preserved. -/
structure Released (root : String) (ticket : Ticket) (branch : String) (w : World Commit) :
    Prop where
  unbroken : w.broken = false
  named : matches_ branch ticket = true
  head : ∃ name, w.remoteHead = [name] ∧ branch ≠ name
  noPull : ∃ rows, w.pulls = some rows ∧ branch ∉ rows
  gone : w.remoteRefs branch = none
  archived : ∃ c, w.remoteRefs (archiveOf branch) = some c
  marked : ∀ tree ∈ w.worktrees, tree.branch = some branch → TreeMarked root ticket w tree
  local_ : w.localRefs branch = none ∨ ∃ tree ∈ w.worktrees, tree.branch = some branch

/-- A run changes the refs of the branch and its archive, and FETCH_HEAD. -/
structure Frame (branch : String) (w w' : World Commit) : Prop where
  eq : w' = { w with
    remoteRefs := w'.remoteRefs, localRefs := w'.localRefs, fetchHead := w'.fetchHead }
  remote : ∀ name, name ≠ branch → name ≠ archiveOf branch →
    w'.remoteRefs name = w.remoteRefs name
  locals : ∀ name, name ≠ branch → name ≠ archiveOf branch → w'.localRefs name = w.localRefs name

/-- A run that exits with 0 leaves the branch preserved and everything else as it was. -/
theorem released_of_alone
    (h : ((markBranch root validRef argument ticket).alone w).2 = (.ok 0, w')) :
    validRef ("refs/heads/" ++ baseName argument) = true ∧
      Released root ticket (baseName argument) w' ∧ Frame (baseName argument) w w' := by
  unfold markBranch at h
  obtain ⟨_, hnamed, h⟩ := (looks_refuse _ _).alone_bind_eq_ok.1 h
  obtain ⟨default, hdefault, h⟩ := looks_defaultBranch.alone_bind_eq_ok.1 h
  obtain ⟨_, hne, h⟩ := (looks_refuse _ _).alone_bind_eq_ok.1 h
  obtain ⟨_, w₀, hvalid, h⟩ := Interleaved.alone_bind_eq_ok.1 h
  obtain ⟨_, hpull, h⟩ := (looks_noPr _).alone_bind_eq_ok.1 h
  obtain ⟨_, -, h⟩ := (looks_checkedOutTrees root ticket _).alone_bind_eq_ok.1 h
  obtain ⟨remoteRefs, hrefs, h⟩ := (looks_report _ _).alone_bind_eq_ok.1 h
  obtain ⟨_, w₁, hpreserve, h⟩ := Interleaved.alone_bind_eq_ok.1 h
  obtain ⟨locals, hlocals, h⟩ := (looks_report _ _).alone_bind_eq_ok.1 h
  obtain ⟨trees, htrees, h⟩ := (looks_checkedOutTrees root ticket _).alone_bind_eq_ok.1 h
  obtain ⟨hbroken, hcheck⟩ := alone_update_eq_ok.1 hvalid
  -- the name is one for a ref, or the run ends here
  split at hcheck
  · rename_i href
    cases hcheck
    obtain ⟨-, rfl⟩ := alone_report_eq_ok.1 hrefs
    obtain ⟨c, rfl⟩ := alone_preserveRemote_ok hpreserve
    obtain ⟨-, rfl⟩ := alone_report_eq_ok.1 hlocals
    obtain ⟨-, rfl, hmarked⟩ := (alone_checkedOutTrees_eq_ok root ticket).1 htrees
    refine ⟨href, ?_⟩
    obtain ⟨_, hhead⟩ := alone_defaultBranch_eq_ok.1 hdefault
    have hnamed := alone_refuse_eq_ok.1 hnamed
    rw [Bool.not_eq_false] at hnamed
    have hpull := alone_noPr_eq_ok.1 hpull
    -- whatever becomes of the local branch, the rest is the same
    have hreleased (refs' : String → Option Commit)
        (hlocal : refs' (baseName argument) = none ∨
          ∃ tree ∈ w.worktrees, tree.branch = some (baseName argument)) :
        Released root ticket (baseName argument) { w with
          fetchHead := some c
          remoteRefs := moved (baseName argument) c w.remoteRefs
          localRefs := refs' } := by
      refine ⟨hbroken, hnamed, ⟨default, hhead, alone_refuse_eq_ok.1 hne⟩, hpull,
        moved_branch _ _ _, ⟨c, moved_archive _ _ _⟩, ?_, hlocal⟩
      intro tree htree hbranch
      have hmem : tree ∈ w.worktrees.filter
          (fun tree => tree.branch = some (baseName argument)) :=
        List.mem_filter.2 ⟨htree, decide_eq_true hbranch⟩
      apply treeMarked_congr root ticket ?_ (hmarked tree hmem)
      exact ⟨rfl, rfl, rfl, rfl, rfl, rfl, rfl⟩
    split at h
    · -- the local branch is there and checked out nowhere: it is renamed
      rename_i hcond
      rw [Bool.and_eq_true, List.isEmpty_iff] at hcond
      obtain ⟨_, -, h⟩ := (looks_refuse _ _).alone_bind_eq_ok.1 h
      obtain ⟨_, w₂, hrename, h⟩ := Interleaved.alone_bind_eq_ok.1 h
      obtain rfl : w₂ = w' := congrArg Prod.snd h
      obtain ⟨-, hrenamed⟩ := alone_update_eq_ok.1 hrename
      split at hrenamed
      · rename_i d hlocal harchive
        cases hrenamed
        rw [map_rename_eq_self hcond.2]
        refine ⟨hreleased (moved (baseName argument) d w.localRefs) (.inl (moved_branch _ _ _)),
          rfl, ?_, ?_⟩
        · intro name hname hnot
          exact moved_of_ne hnot hname
        · intro name hname hnot
          exact moved_of_ne hnot hname
      · cases hrenamed
    · -- there is no local branch, or a worktree has it
      rename_i hcond
      obtain rfl : _ = w' := congrArg Prod.snd h
      refine ⟨hreleased w.localRefs ?_, rfl, ?_, ?_⟩
      · rw [Bool.and_eq_true, not_and_or, Bool.not_eq_true, List.isEmpty_iff] at hcond
        rcases hcond with hgone | hsome
        · left
          simpa using hgone
        · right
          obtain ⟨tree, htree⟩ := List.exists_mem_of_ne_nil _ hsome
          obtain ⟨hmem, hbranch⟩ := List.mem_filter.1 htree
          exact ⟨tree, hmem, of_decide_eq_true hbranch⟩
      · intro name hname hnot
        exact moved_of_ne hnot hname
      · intro name _ _
        rfl
  · cases hcheck

/-- Where the branch is preserved already, a run only fetches the archive. -/
theorem Released.alone_markBranch (h : Released root ticket (baseName argument) w)
    (hvalid : validRef ("refs/heads/" ++ baseName argument) = true) :
    ((markBranch root validRef argument ticket).alone w).2 =
      (.ok 0, { w with fetchHead := w.remoteRefs (archiveOf (baseName argument)) }) := by
  obtain ⟨default, hhead, hne⟩ := h.head
  obtain ⟨c, hc⟩ := h.archived
  have hmarked : ∀ tree ∈ w.worktrees.filter
      (fun tree => tree.branch = some (baseName argument)), TreeMarked root ticket w tree := by
    intro tree htree
    obtain ⟨hmem, hbranch⟩ := List.mem_filter.1 htree
    exact h.marked tree hmem (of_decide_eq_true hbranch)
  have hpreserved :
      ((preserveRemote root (baseName argument) ticket none (some c)).alone w).2 =
        (.ok (), { w with fetchHead := some c }) := by
    have hsaved : ¬ some c = none := Option.some_ne_none c
    refine (looks_refuse _ _).alone_bind_eq_ok.2 ⟨(), alone_refuse_eq_ok.2 hsaved, ?_⟩
    refine alone_update_eq_ok.2 ⟨h.unbroken, ?_⟩
    rw [hc]
    rfl
  -- the run, step by step: every check passes as it did before
  unfold markBranch
  refine (looks_refuse _ _).alone_bind_eq_ok.2 ⟨(), alone_refuse_eq_ok.2 ?_, ?_⟩
  · rw [h.named]
    decide
  refine looks_defaultBranch.alone_bind_eq_ok.2
    ⟨default, alone_defaultBranch_eq_ok.2 ⟨h.unbroken, hhead⟩, ?_⟩
  refine (looks_refuse _ _).alone_bind_eq_ok.2 ⟨(), alone_refuse_eq_ok.2 hne, ?_⟩
  refine Interleaved.alone_bind_eq_ok.2
    ⟨(), w, alone_update_eq_ok.2 ⟨h.unbroken, if_pos hvalid⟩, ?_⟩
  refine (looks_noPr _).alone_bind_eq_ok.2 ⟨(), alone_noPr_eq_ok.2 h.noPull, ?_⟩
  refine (looks_checkedOutTrees root ticket _).alone_bind_eq_ok.2
    ⟨_, (alone_checkedOutTrees_eq_ok root ticket).2 ⟨h.unbroken, rfl, hmarked⟩, ?_⟩
  refine (looks_report _ _).alone_bind_eq_ok.2
    ⟨_, alone_report_eq_ok.2 ⟨h.unbroken, rfl⟩, ?_⟩
  rw [h.gone, hc]
  refine Interleaved.alone_bind_eq_ok.2 ⟨(), _, hpreserved, ?_⟩
  refine (looks_report _ _).alone_bind_eq_ok.2
    ⟨_, alone_report_eq_ok.2 ⟨h.unbroken, rfl⟩, ?_⟩
  refine (looks_checkedOutTrees root ticket _).alone_bind_eq_ok.2
    ⟨_, (alone_checkedOutTrees_eq_ok root ticket).2 ⟨h.unbroken, rfl, ?_⟩, ?_⟩
  · intro tree htree
    apply treeMarked_congr root ticket ?_ (hmarked tree htree)
    exact ⟨rfl, rfl, rfl, rfl, rfl, rfl, rfl⟩
  · rw [if_neg]
    · rfl
    · -- the local branch is gone, or a worktree has it
      rw [Bool.and_eq_true, List.isEmpty_iff]
      rintro ⟨hlocal, hempty⟩
      rcases h.local_ with hgone | ⟨tree, hmem, hbranch⟩
      · rw [hgone] at hlocal
        cases hlocal
      · exact absurd (decide_eq_true hbranch) (List.filter_eq_nil_iff.1 hempty tree hmem)

/-- A branch that is preserved is preserved by a second run, under whichever of its two names, and
that run changes FETCH_HEAD at most. -/
theorem mark_branch_again {argument' : String} (hname : baseName argument' = baseName argument)
    (hrun : ((markBranch root validRef argument ticket).alone w).2 = (.ok 0, w')) :
    ((markBranch root validRef argument' ticket).alone w').2 =
      (.ok 0, { w' with fetchHead := w'.remoteRefs (archiveOf (baseName argument)) }) := by
  obtain ⟨hvalid, hreleased, -⟩ := released_of_alone hrun
  rw [← hname] at hvalid hreleased ⊢
  exact hreleased.alone_markBranch hvalid

/-- Under its archive's name. -/
theorem mark_branch_again_published :
    ∃ w' : World ℕ, (markKyo17.alone publishedWorld).2 = (.ok 0, w') ∧
      ((markBranch "." (fun _ => true) "stranded/kyo-17-fix" ⟨"KYO", "17"⟩).alone w').2.1 =
        .ok 0 := by
  have hrun : (markKyo17.alone publishedWorld).2 =
      (.ok 0, (markKyo17.alone publishedWorld).2.2) := rfl
  have hname : baseName (archiveOf "kyo-17-fix") = baseName "kyo-17-fix" :=
    (baseName_archiveOf "kyo-17-fix").trans (by decide)
  exact ⟨_, hrun, congrArg Prod.fst (mark_branch_again hname hrun)⟩

end Branch

/-! ## What the check says afterwards -/

/-- What the commands print is the repository as it is. -/
structure Evidence.Shows (e : Evidence) (remote : String) (site : Site Commit) : Prop where
  pulls : ∃ rows, pullListing e remote = .ok rows ∧ site.world.pulls = some (rows.map (·.ref))
  remotes : ∃ refs, remoteListing e = .ok refs ∧
    ∀ name, name ∈ refs ↔ (site.world.remoteRefs name).isSome = true
  worktrees : worktreeListing e = .ok site.world.worktrees
  locals : ∃ names, localListing e = .ok names ∧
    ∀ name, name ∈ names ↔ (site.world.localRefs name).isSome = true
  marker : e.marker = site.marker

/-- Nothing but the branch may keep the ticket in flight: what else is named after it is left out
of account or stranded, and the markers can be read. -/
structure ClearBut (branch : String) (excluded : List String) (ticket : Ticket)
    (site : Site Commit) : Prop where
  pulls : ∀ refs, site.world.pulls = some refs → ∀ ref ∈ refs, ref ≠ branch →
    matches_ ref ticket = true → ref ∈ excluded
  remotes : ∀ name, (site.world.remoteRefs name).isSome = true → name ≠ branch →
    matches_ name ticket = true → name ∈ excluded ∨ isStranded name = true
  markers : ∀ tree ∈ site.world.worktrees, tree.branch ≠ some branch →
    counts excluded ticket tree.branchName = true → Readable site.marker tree
  worktrees : ∀ tree ∈ site.world.worktrees, tree.branch ≠ some branch →
    matches_ tree.branchName ticket = true →
      tree.branchName ∈ excluded ∨ StrandedTree ticket site.marker tree
  locals : ∀ name, (site.world.localRefs name).isSome = true → name ≠ branch →
    matches_ name ticket = true → name ∈ excluded ∨ isStranded name = true ∨
      ∃ tree ∈ site.world.worktrees, tree.branchName = name ∧ StrandedTree ticket site.marker tree

/-- Where a marker is read from matters for the errors only. -/
theorem markerTicketOf_congr {path : String} (path' : String) {file : MarkerFile}
    {marked : Option String} (h : markerTicketOf path file = .ok marked) :
    markerTicketOf path' file = .ok marked := by
  -- only errors name the path
  cases file with
  | missing => exact h
  | symlink => cases h
  | unreadable error => cases h
  | text content =>
      unfold markerTicketOf at h ⊢
      dsimp only at h ⊢
      split at h
      · exact h
      · cases h

section Verdict

variable {root : String} {ticket : Ticket} {branch : String} {site : Site Commit}

/-- A marked worktree is stranded for the check. -/
theorem TreeMarked.stranded {tree : Worktree} (h : TreeMarked root ticket site.world tree)
    (hmarkers : ∀ path, site.world.marker path = markerTicketOf path (site.markers path)) :
    markerTicketOf tree.path (site.marker tree.path) = .ok (some ticket.key) := by
  obtain ⟨path, hresolve, hmarker⟩ := h.marker
  rw [hmarkers] at hmarker
  rw [Site.marker, hresolve]
  exact markerTicketOf_congr tree.path hmarker

/-- The verdict on a preserved branch is the one on the others. -/
theorem Released.verdict_iff {word : List Char} (haccepted : ticket.Accepted word)
    (h : Released root ticket branch site.world)
    (hmarkers : ∀ path, site.world.marker path = markerTicketOf path (site.markers path))
    {e : Evidence} {args : CheckArgs} {excluded : List String}
    (hexcluded : excludedBranches args ticket = .ok excluded) (hshows : e.Shows args.remote site) :
    exitCode (check ticket e args) = 0 ↔ ClearBut branch excluded ticket site := by
  obtain ⟨rows, hrows, hpulls⟩ := hshows.pulls
  obtain ⟨refs, hrefs, hremotes⟩ := hshows.remotes
  obtain ⟨names, hnames, hlocals⟩ := hshows.locals
  have hstranded {tree : Worktree} (htree : tree ∈ site.world.worktrees)
      (hbranch : tree.branch = some branch) :
      markerTicketOf tree.path (site.marker tree.path) = .ok (some ticket.key) :=
    (h.marked tree htree hbranch).stranded hmarkers
  rw [exitCode_eq_zero_iff haccepted hexcluded]
  constructor
  · -- a clear ticket: whatever the check says of every name holds of the others
    rintro ⟨rows', refs', trees, locals, hread, hclear⟩
    obtain rfl : rows = rows' := Except.ok.inj (hrows.symm.trans hread.pulls)
    obtain rfl : refs = refs' := Except.ok.inj (hrefs.symm.trans hread.remotes)
    obtain rfl : site.world.worktrees = trees :=
      Except.ok.inj (hshows.worktrees.symm.trans hread.worktrees)
    obtain rfl : names = locals := Except.ok.inj (hnames.symm.trans hread.locals)
    rw [hshows.marker] at hclear
    have hreadable := hread.markers
    rw [hshows.marker] at hreadable
    refine ⟨?_, ?_, fun tree htree _ => hreadable tree htree,
      fun tree htree _ => hclear.worktrees tree htree, ?_⟩
    · intro listed hlisted ref href _
      rw [hpulls] at hlisted
      cases hlisted
      obtain ⟨row, hrow, rfl⟩ := List.mem_map.1 href
      exact hclear.pulls row hrow
    · intro name hname _
      exact hclear.remotes name ((hremotes name).2 hname)
    · intro name hname _
      exact hclear.locals name ((hlocals name).2 hname)
  · -- the branch itself is in nobody's way, in any of the four listings
    intro hbut
    refine ⟨rows, refs, site.world.worktrees, names, ⟨hrows, hrefs, hshows.worktrees, ?_, hnames⟩,
      ?_⟩
    · rw [hshows.marker]
      intro tree htree hcounts
      by_cases hbranch : tree.branch = some branch
      · exact ⟨_, hstranded htree hbranch⟩
      · exact hbut.markers tree htree hbranch hcounts
    · rw [hshows.marker]
      constructor
      · -- no pull request is of the branch
        intro row hrow hmatch
        have hmem := List.mem_map_of_mem (f := PullRequest.ref) hrow
        refine hbut.pulls _ hpulls row.ref hmem ?_ hmatch
        rintro rfl
        obtain ⟨listed, hlisted, hnot⟩ := h.noPull
        rw [hpulls] at hlisted
        cases hlisted
        exact hnot hmem
      · -- the remote has it no more
        intro name hname hmatch
        refine hbut.remotes name ((hremotes name).1 hname) ?_ hmatch
        rintro rfl
        have hsome := (hremotes name).1 hname
        rw [h.gone] at hsome
        cases hsome
      · -- a worktree of the branch has the ticket's marker
        intro tree htree hmatch
        by_cases hbranch : tree.branch = some branch
        · exact .inr (.inr (hstranded htree hbranch))
        · exact hbut.worktrees tree htree hbranch hmatch
      · -- the local branch is gone, or a stranded worktree has it
        intro name hname hmatch
        by_cases hbranch : name = branch
        · subst hbranch
          rcases h.local_ with hgone | ⟨tree, htree, hcheckedOut⟩
          · have hsome := (hlocals name).1 hname
            rw [hgone] at hsome
            cases hsome
          · refine .inr (.inr ⟨tree, htree, ?_, .inr (hstranded htree hcheckedOut)⟩)
            rw [Worktree.branchName, hcheckedOut]
            rfl
        · exact hbut.locals name ((hlocals name).1 hname) hbranch hmatch

/-- After `mark_branch` has exited with 0, its branch does not keep the ticket in flight: `check`
reports a clear ticket if and only if everything else that is named after the ticket is left out of
account or stranded, and readable. -/
theorem mark_branch_releases [DecidableEq Commit] {validRef : String → Bool} {argument : String}
    {word : List Char} {w' : World Commit} (haccepted : ticket.Accepted word)
    (hmarkers : ∀ path, site.world.marker path = markerTicketOf path (site.markers path))
    (hrun : ((markBranch root validRef argument ticket).alone site.world).2 = (.ok 0, w'))
    {e : Evidence} {args : CheckArgs} {excluded : List String}
    (hexcluded : excludedBranches args ticket = .ok excluded)
    (hshows : e.Shows args.remote { site with world := w' }) :
    exitCode (check ticket e args) = 0 ↔
      ClearBut (baseName argument) excluded ticket { site with world := w' } := by
  obtain ⟨-, hreleased, hframe⟩ := released_of_alone hrun
  have hmarkers' : ∀ path, w'.marker path = markerTicketOf path (site.markers path) := by
    intro path
    rw [hframe.eq]
    exact hmarkers path
  exact Released.verdict_iff haccepted hreleased hmarkers' hexcluded hshows

/-- The published branch, without markers. -/
def publishedSite : Site ℕ := ⟨publishedWorld, fun _ => .missing, none, roomyDisk⟩

/-- The repository once the branch is preserved. -/
def preservedEvidence : Evidence where
  remoteUrl := .ok "git@github.com:example/project.git\n"
  pulls _ := .ok "[[]]"
  jsonLoads raw := if raw = "[[]]" then .ok (.list [.list []]) else .error "no listing"
  lsRemote := .ok "89abcdef0123456789abcdef0123456789abcdef\trefs/heads/stranded/kyo-17-fix\n"
  worktreeList := .ok ""
  forEachRef := .ok "stranded/kyo-17-fix\n"
  marker _ := .missing

/-- `kyo` and `17` are accepted for KYO-17. -/
theorem accepted_kyo17 : Ticket.Accepted ⟨"KYO", "17"⟩ "kyo".toList := by
  have hword : "kyo".toList.all (fun c => isLetterFolded c || c.isDigit) = true := by decide
  have hnumber : "17".toList.all Char.isDigit = true := by decide
  refine ⟨by decide, by decide, ?_, by decide, List.all_eq_true.1 hnumber⟩
  intro c hc
  exact Bool.or_eq_true_iff.1 (List.all_eq_true.1 hword c hc)

/-- Nothing else is named after the ticket, and the check reports it as clear. -/
theorem mark_branch_releases_published :
    ClearBut "kyo-17-fix" [] ⟨"KYO", "17"⟩
      { publishedSite with world := (markKyo17.alone publishedWorld).2.2 } := by
  have hrun : (markKyo17.alone publishedSite.world).2 =
      (.ok 0, (markKyo17.alone publishedWorld).2.2) := rfl
  have hmem (name : String) : name ∈ ["stranded/kyo-17-fix"] ↔
      (moved "kyo-17-fix" 1 (fun name => if name = "kyo-17-fix" then some 1 else none)
        name).isSome = true := by
    have harchive : archiveOf "kyo-17-fix" = "stranded/kyo-17-fix" := rfl
    rw [List.mem_singleton, moved, harchive]
    by_cases hname : name = "stranded/kyo-17-fix"
    · simp [hname]
    · by_cases hbranch : name = "kyo-17-fix"
      · simp [hbranch]
      · simp [hname, hbranch]
  have hshows : preservedEvidence.Shows "origin"
      { publishedSite with world := (markKyo17.alone publishedWorld).2.2 } := by
    refine ⟨⟨[], rfl, rfl⟩, ⟨["stranded/kyo-17-fix"], by decide +kernel, hmem⟩, by decide +kernel,
      ⟨["stranded/kyo-17-fix"], by decide +kernel, hmem⟩, rfl⟩
  have hexcluded : excludedBranches ⟨"origin", none, []⟩ ⟨"KYO", "17"⟩ = .ok [] := rfl
  have hiff := mark_branch_releases accepted_kyo17 (fun _ => rfl) hrun hexcluded hshows
  exact hiff.1 (by decide +kernel)

end Verdict

end KyomiConnect.TicketWorktrees
