import KyomiConnect.Text
import KyomiConnect.Lib.Interleaved

/-! # Preserving a branch

`mark_branch` of the ticket worktree helpers: move a remote branch to
`stranded/BRANCH`, and rename the local branch. Every Git or GitHub command is one
atomic action on a world of remote refs, local branches and worktrees, on which other
clients act in between.

A command can fail at any time (`broken`), a push also after the server has executed it
(`answered`). What is printed is not modelled.
-/

namespace KyomiConnect.TicketWorktrees

open Interleaved (Prog)

/-- An error with its exit code. -/
structure Failure where
  message : String
  code : ℕ := 3
deriving DecidableEq, Repr

/-- A ticket key, `TEAM-N`. -/
structure Ticket where
  team : String
  number : String
deriving DecidableEq, Repr

def Ticket.key (t : Ticket) : String := t.team ++ "-" ++ t.number

/-! ## Branch names -/

/-- Characters that `re.I` takes for the same. -/
def foldCase (c : Char) : Char :=
  match c.toNat with
  | 0x130 => 'i'
  | 0x131 => 'i'
  | 0x17F => 's'
  | 0x212A => 'k'
  | _ => c.toLower

/-- `[a-z0-9]`, ignoring case. -/
def isWordChar (c : Char) : Bool := (foldCase c).isLower || c.isDigit

/-- Drop a text at the start, ignoring case. -/
def dropFolded : List Char → List Char → Option (List Char)
  | [], cs => some cs
  | _ :: _, [] => none
  | p :: ps, c :: cs => if foldCase p = foldCase c then dropFolded ps cs else none

/-- `TEAM-?N(?![0-9])` at the start of a text. -/
def ticketAt (t : Ticket) (cs : List Char) : Bool :=
  match dropFolded t.team.toList cs with
  | none => false
  | some rest =>
      match dropFolded t.number.toList (if rest.head? = some '-' then rest.drop 1 else rest) with
      | none => false
      | some rest => !(rest.head?.any Char.isDigit)

/-- `(?<![a-z0-9])TEAM-?N(?![0-9])` somewhere in a text. -/
def ticketIn (t : Ticket) : Option Char → List Char → Bool
  | prev, [] => !(prev.any isWordChar) && ticketAt t []
  | prev, c :: cs => (!(prev.any isWordChar) && ticketAt t (c :: cs)) || ticketIn t (some c) cs

/-- Whether a branch is named after a ticket. -/
def matches_ (branch : String) (t : Ticket) : Bool := ticketIn t none branch.toList

example : matches_ "feature/fla-17-ticket" ⟨"FLA", "17"⟩ = true := by decide
example : matches_ "feature/fla-170-other" ⟨"FLA", "17"⟩ = false := by decide

/-! ## The world -/

structure Worktree where
  path : String
  branch : Option String
deriving DecidableEq, Repr

/-- What `git rev-parse` says in a directory. -/
structure Directory where
  toplevel : String
  gitDir : String
  commonDir : String

structure World (Commit : Type) where
  /-- the branches of the remote -/
  remoteRefs : String → Option Commit
  /-- what the remote's HEAD refers to -/
  remoteHead : List String
  localRefs : String → Option Commit
  fetchHead : Option Commit
  worktrees : List Worktree
  /-- the head refs of all pull requests, none if the listing is incomplete -/
  pulls : Option (List String)
  /-- the real path, none if there is nothing there -/
  resolve : String → Option String
  directory : String → Directory
  /-- the ticket of a worktree's marker -/
  marker : String → Except Failure (Option String)
  /-- the remote supports atomic pushes -/
  atomicPush : Bool
  /-- the answer to a push arrives -/
  answered : Bool
  /-- commands fail -/
  broken : Bool
  stderr : String

section Commands

variable {Commit : Type}

abbrev Script (Commit α : Type) := Prog (World Commit) Failure α

def World.failure (w : World Commit) (command : String) : Failure :=
  ⟨command ++ " failed: " ++ w.stderr, 3⟩

/-- A command that only reports. -/
def report (command : String) (f : World Commit → α) : Script Commit α :=
  Prog.read fun w => if w.broken then .error (w.failure command) else .ok (f w)

/-- A command that changes something, or fails. -/
def update (command : String) (f : World Commit → Option (World Commit)) : Script Commit Unit :=
  Prog.atomic fun w =>
    if w.broken then (.error (w.failure command), w)
    else match f w with
      | some w' => (.ok (), w')
      -- the change cannot be made, and nothing has happened
      | none => (.error (w.failure command), w)

/-- `if c: raise e` -/
def refuse (c : Prop) [Decidable c] (e : Failure) : Script Commit Unit :=
  if c then throw e else pure ()

/-- The branches of the remote. -/
def refs : Script Commit (String → Option Commit) := report "git ls-remote --heads" (·.remoteRefs)

def defaultBranch : Script Commit String := do
  match ← report "git ls-remote --symref" (·.remoteHead) with
  | [name] => pure name
  | _ => throw ⟨"Cannot determine remote default branch", 3⟩

def listWorktrees : Script Commit (List Worktree) := report "git worktree list" (·.worktrees)

def markerTicket (path : String) : Script Commit (Option String) := Prog.read (·.marker path)

def localBranches : Script Commit (String → Bool) :=
  report "git for-each-ref" fun w name => (w.localRefs name).isSome

def pullRequests : Script Commit (List String) :=
  Prog.read fun w =>
    match w.pulls with
    | some rows => .ok rows
    | none => .error ⟨"Incomplete PR listing: " ++ w.stderr, 3⟩

/-- `git fetch` of one branch, which sets FETCH_HEAD. -/
def fetch (name : String) : Script Commit Unit :=
  update "git fetch" fun w => (w.remoteRefs name).map fun c => { w with fetchHead := some c }

def revParseFetchHead : Script Commit (Option Commit) :=
  report "git rev-parse FETCH_HEAD" (·.fetchHead)

variable [DecidableEq Commit]

/-- `git push --atomic` with both leases: create `archive` at a commit, which must not
be there, and delete `branch`, which must be at that commit, in one transaction. -/
def pushAtomic (archive branch : String) (original : Commit) : Script Commit Unit :=
  Prog.atomic fun w =>
    -- a lease that does not hold rejects the whole transaction
    if w.broken ∨ ¬ w.atomicPush ∨ (w.remoteRefs archive).isSome ∨
        w.remoteRefs branch ≠ some original then
      (.error (w.failure "git push"), w)
    else
      let w' := { w with remoteRefs := fun name =>
        if name = archive then some original
        else if name = branch then none
        else w.remoteRefs name }
      -- the remote may have moved the refs although the answer is lost
      (if w.answered then .ok () else .error (w.failure "git push"), w')

/-- `git branch -m`, which refuses a name that is taken. Worktrees follow. -/
def renameBranch (branch archive : String) : Script Commit Unit :=
  update "git branch -m" fun w =>
    match w.localRefs branch, w.localRefs archive with
    | some c, none => some { w with
        localRefs := fun name =>
          if name = archive then some c else if name = branch then none else w.localRefs name
        worktrees := w.worktrees.map fun t =>
          if t.branch = some branch then { t with branch := some archive } else t }
    -- there is nothing to rename, or the name is taken
    | _, _ => none

end Commands

/-! ## The helper -/

section Helper

variable {Commit : Type} [DecidableEq Commit] (root : String)

/-- The worktree at a path, with its branch, if it may be touched for the ticket. -/
def checkedTree (path : String) (ticket : Ticket) : Script Commit (String × String) := do
  let path ← Prog.read fun w =>
    match w.resolve path with
    | some path => .ok path
    | none => .error ⟨w.stderr, 3⟩
  -- the argument has to be the root of a linked worktree of this repository
  let actual ← report "git rev-parse" fun w => (w.directory path).toplevel
  refuse (actual ≠ path) ⟨"--worktree must be its root directory", 2⟩
  let ownCommon ← report "git rev-parse" fun w => (w.directory root).commonDir
  let targetCommon ← report "git rev-parse" fun w => (w.directory path).commonDir
  let targetGit ← report "git rev-parse" fun w => (w.directory path).gitDir
  refuse (ownCommon ≠ targetCommon) ⟨"Refusing worktree from another repository", 1⟩
  refuse (targetGit = targetCommon) ⟨"Refusing primary worktree", 1⟩
  -- it has to be registered once, with a branch that is checked out there
  let trees ← listWorktrees
  let resolve ← Prog.read fun w => .ok w.resolve
  match trees.filter fun tree => resolve tree.path = some path with
  | [⟨_, some branch⟩] => do
      let default ← defaultBranch
      refuse (branch = default ∨ matches_ branch ticket = false)
        ⟨"Refusing default branch or branch that does not match ticket", 1⟩
      return (path, branch)
  | _ => throw ⟨"Refusing detached or unregistered worktree", 1⟩

def noPr (branch : String) : Script Commit Unit := do
  let rows ← pullRequests
  refuse (branch ∈ rows) ⟨"Branch " ++ branch ++ " has a PR; preserve it for merge-sweeper", 1⟩

/-- The check of one worktree that has the branch checked out. -/
def checkMarked (ticket : Ticket) (tree : Worktree) : Script Commit Unit := do
  let (path, _) ← checkedTree root tree.path ticket
  let marked ← markerTicket path
  refuse (marked ≠ some ticket.key)
    ⟨"Checked-out branch requires matching stranded marker: " ++ path, 1⟩

/-- The worktrees in which the branch is checked out, all of them marked. -/
def checkedOutTrees (branch : String) (ticket : Ticket) : Script Commit (List Worktree) := do
  let trees ← listWorktrees
  let current := trees.filter fun tree => tree.branch = some branch
  current.forM (checkMarked root ticket)
  return current

/-- The name under which a branch is preserved. -/
def archiveOf (branch : String) : String := "stranded/" ++ branch

/-- The branch that is meant by a name with or without the archive's prefix. -/
def baseName (branch : String) : String :=
  if Text.startsWith branch "stranded/" then .ofList (branch.toList.drop 9) else branch

/-- Move the remote branch to its archive, or see that the archive is there. `original`
and `saved` are what the remote has under the two names. -/
def preserveRemote (branch : String) (ticket : Ticket) (original saved : Option Commit) :
    Script Commit Unit :=
  match original with
  | some original => do
      refuse (saved.isSome = true)
        ⟨"Original and stranded remote refs both exist; refusing ambiguous recovery", 1⟩
      -- the commit that was listed is the one that is fetched and pushed
      fetch branch
      let fetched ← revParseFetchHead
      refuse (fetched ≠ some original)
        ⟨"Remote branch changed during fetch; retry after reassessing ownership", 1⟩
      -- both are looked at again, right before the push
      noPr branch
      let _ ← checkedOutTrees root branch ticket
      pushAtomic (archiveOf branch) branch original
      -- the push may have succeeded without an answer, so the refs are read once more
      let after ← refs
      refuse (after (archiveOf branch) ≠ some original ∨ (after branch).isSome = true)
        ⟨"Cannot verify atomic preservation result; reassess before retrying", 3⟩
  | none => do
      -- the branch is gone: an earlier run has preserved it, or somebody has deleted it
      refuse (saved = none) ⟨"Neither original nor preserved branch exists on remote", 1⟩
      fetch (archiveOf branch)

/-- Preserve a remote branch and rename the local one. Returns the exit code.
`validRef` is `git check-ref-format`. -/
def markBranch (validRef : String → Bool) (argument : String) (ticket : Ticket) :
    Script Commit ℕ := do
  let branch := baseName argument
  refuse (matches_ branch ticket = false)
    ⟨"Refusing default branch or branch that does not match ticket", 1⟩
  let default ← defaultBranch
  refuse (branch = default) ⟨"Refusing default branch or branch that does not match ticket", 1⟩
  update "git check-ref-format" fun w => if validRef ("refs/heads/" ++ branch) then some w else none
  noPr branch
  let archive := archiveOf branch
  let _ ← checkedOutTrees root branch ticket
  let remoteRefs ← refs
  preserveRemote root branch ticket (remoteRefs branch) (remoteRefs archive)
  -- the local branch follows unless a worktree has it checked out
  let locals ← localBranches
  let trees ← checkedOutTrees root branch ticket
  if locals branch && trees.isEmpty then
    refuse (locals archive = true)
      ⟨"Existing local archive prevents rename; original local branch preserved", 1⟩
    renameBranch branch archive
  return 0

end Helper

end KyomiConnect.TicketWorktrees
