import Advisory.Catalog.Load
import Advisory.Service.Reply

/-!
# Sessions

A service answers from the catalogue that was published last. It begins with none. A snapshot that
loads replaces the catalogue; one that does not leaves it as it was. A refresh holds a lock while it
loads and gives it back whatever comes of it. A refresh in the background is begun and ended in two
steps, and while one is under way no other begins.
-/

namespace Advisory

/-- Where a snapshot is looked for: nothing stands for a file that does not exist. -/
abbrev Source := Option Snapshot

/-- The catalogue of a source. -/
def Source.load (source : Source) : Except LoadError Catalog :=
  match source with
  | none => .error .unopened
  | some snapshot => Catalog.load snapshot

/-- What a service holds. -/
structure Service where
  /-- The catalogue that was published last. -/
  current : Option Catalog
  /-- Whether a refresh holds the lock under which it loads. -/
  locked : Bool
  /-- Whether a refresh in the background is under way. -/
  refreshing : Bool

namespace Service

/-- A service before its first catalogue. -/
def initial : Service := ⟨none, false, false⟩

/-- Whether a snapshot is being loaded, or is going to be in the background. -/
def isLoading (s : Service) : Bool := s.locked || s.refreshing

def publish (s : Service) (c : Catalog) : Service := { s with current := some c }

/-- The service after an attempt to load. -/
def afterLoading (s : Service) (outcome : Except LoadError Catalog) : Service :=
  match outcome with
  | .ok c => s.publish c
  | .error _ => s

def lock (s : Service) : Service := { s with locked := true }

/-- The service after a refresh has given back the lock. -/
def unlock (s : Service) : Service := { s with locked := false }

def refresh (s : Service) (source : Source) : Service := (s.lock.afterLoading source.load).unlock

/-- Begins a refresh in the background unless one is under way. -/
def beginRefresh (s : Service) : Option Service :=
  if s.refreshing then none else some { s with refreshing := true }

/-- Ends a refresh in the background. -/
def endRefresh (s : Service) (source : Source) : Service :=
  { s.refresh source with refreshing := false }

/-- A refresh in the background that runs to its end; refused while another is under way. -/
def backgroundRefresh (s : Service) (source : Source) : Service :=
  match s.beginRefresh with
  | some begun => begun.endRefresh source
  | none => s

/-- The reply to a request line. -/
def reply (s : Service) (line : String) : Reply := Reply.toLine s.current line

end Service

/-- What may happen to a service. -/
inductive Step where
  /-- A snapshot is loaded and published. -/
  | load (snapshot : Snapshot)
  | refresh (source : Source)
  /-- A refresh is run in the background to its end. -/
  | backgroundRefresh (source : Source)
  | handle (line : String)

/-- The service after a step. -/
def Service.after (s : Service) : Step → Service
  | .load snapshot => s.afterLoading (Catalog.load snapshot)
  | .refresh source => s.refresh source
  | .backgroundRefresh source => s.backgroundRefresh source
  | .handle _ => s

/-- The service after some steps. -/
def Service.run (s : Service) (steps : List Step) : Service := steps.foldl Service.after s

/-- What is said about a catalogue that has been loaded. -/
def Catalog.summary (c : Catalog) : Json :=
  .object [("packages", .ofNat c.packages.size), ("errata", .ofNat c.errata.size),
    ("cves", .ofNat c.cves.size), ("repos", .ofNat c.repositories.size),
    ("ordering_violations", .ofNat c.orderingViolations),
    ("exported", .text c.freshness.exported.render)]

end Advisory
