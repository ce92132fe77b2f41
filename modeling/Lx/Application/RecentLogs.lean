import Lx.Application.ResourceLookups

/-!
# The recent logs of a port

The owners of a port are units and processes without a unit, and each of them is a source
of log entries. `addLogs` reads the last twenty entries of every source, keeps one copy of
an entry that several sources have, and `finalizeLogs` keeps the latest twenty of what was
collected. The result is the latest twenty of all entries, those included that a source was
never asked for.

## Layers

- The entries an inspection collects (§1).
- The journal reads around a port: each source once (§2).
- The latest entries of all sources (§3).
-/

namespace Lx

open Interaction Prog Latest

namespace InspectService

/-! ## §1 The entries of an inspection -/

/-- The source of a read, whatever came of it. -/
def logQuery : Lookup → Option LogQuery
  | .logs query => some query
  | _ => none

section Entries

variable {target : ResourceTarget} {graph : ResourceGraph} {u : Trace Lookups}

end Entries

/-! ## §2 The sources around a port -/

section Sources

variable {service : InspectService} {port : Nat} {ports : Observation (List PortInfo)}
  {u : Trace Lookups} {t : Trace Contract}

end Sources

/-! ## §3 The latest entries of all sources -/

section Latest

variable {matching : LogQuery → List JournalEntry} {u : Trace Lookups}

end Latest

def firstEntry : JournalEntry := { timestamp := 1, cursor := [97] }

def secondEntry : JournalEntry := { timestamp := 2, cursor := [98] }

def sharedExchange : Trace Contract :=
  [⟨.querySockets { localPort := some 80 },
      .ok ⟨[{ localEnd := ⟨[], 80⟩, inode := 7 }], []⟩⟩,
    ⟨.resolveOwners [7], .ok ⟨[(7, [42, 43])], []⟩⟩, ⟨.hashOrder [42, 43], ⟨[42, 43], .refl _⟩⟩,
    ⟨.getProcess 42, .ok ⟨{ pid := 42 }, []⟩⟩, ⟨.getProcess 43, .ok ⟨{ pid := 43 }, []⟩⟩,
    ⟨.queryJournal (pidLogs 42), .ok ⟨[firstEntry, secondEntry], []⟩⟩,
    ⟨.queryJournal (pidLogs 43), .error refused⟩]

end InspectService

end Lx
