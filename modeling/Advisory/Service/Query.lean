import Advisory.Catalog.Freshness
import Advisory.Query.Cves
import Advisory.Query.Errata
import Advisory.Query.Packages
import Advisory.Query.Repositories
import Advisory.Query.Vulnerabilities

/-!
# Queries

A query is a request of one of the seven endpoints. Reading it, checking it and answering it are
separate steps, and each has failures of its own: a query that cannot be read does not exist, one
that fails its check is not answered, and of the answers only those by name can fail, at a pattern.
-/

namespace Advisory

inductive Endpoint where
  | updates | vulnerabilities | cves | errata | repositories | packages | freshness
deriving DecidableEq, Repr

def Endpoint.ofName? : String → Option Endpoint
  | "updates" => some updates
  | "vulnerabilities" => some vulnerabilities
  | "cves" => some cves
  | "errata" => some errata
  | "repos" => some repositories
  | "packages" => some packages
  | "dbchange" => some freshness
  | _ => none

/-- A request of an endpoint. -/
inductive Query where
  | updates (version : UpdatesVersion) (request : UpdatesRequest)
  | vulnerabilities (request : UpdatesRequest)
  | cves (request : CvesRequest)
  | errata (request : ErrataRequest)
  | repositories (request : RepositoriesRequest)
  | packages (request : PackagesRequest)
  | freshness
deriving DecidableEq, Repr

/-- The answer to a query. -/
inductive Answer where
  | updates (answer : UpdatesAnswer)
  | vulnerabilities (answer : VulnerabilitiesAnswer)
  | cves (answer : CvesAnswer)
  | errata (answer : ErrataAnswer)
  | repositories (answer : RepositoriesAnswer)
  | packages (answer : PackagesAnswer)
  | freshness (answer : Freshness)

def Answer.toJson : Answer → Json
  | updates a => a.toJson
  | vulnerabilities a => a.toJson
  | cves a => a.toJson
  | errata a => a.toJson
  | repositories a => a.toJson
  | packages a => a.toJson
  | freshness a => a.toJson

namespace Query

/-- The version of the updates endpoint that answers where none is asked for. -/
def defaultVersion : Nat := 3

/-- What can be read, or the failure to read it. -/
def readable (request : Option α) : Except Failure α :=
  match request with
  | some r => .ok r
  | none => .error .malformed

def updatesVersion (number : Option Nat) : Except Failure UpdatesVersion :=
  let n := number.getD defaultVersion
  match UpdatesVersion.ofNumber? n with
  | some v => .ok v
  | none => .error (.unsupportedVersion n)

/-- Reads a query. The version counts for updates only, and there it is looked at first; the
freshness record takes no body. -/
def read (endpoint : Endpoint) (version : Option Nat) (body : Json) : Except Failure Query :=
  match endpoint with
  | .updates => do
    let v ← updatesVersion version
    let r ← readable (UpdatesRequest.ofJson? body)
    return updates v r
  | .vulnerabilities => vulnerabilities <$> readable (UpdatesRequest.ofJson? body)
  | .cves => cves <$> readable (CvesRequest.ofJson? body)
  | .errata => errata <$> readable (ErrataRequest.ofJson? body)
  | .repositories => repositories <$> readable (RepositoriesRequest.ofJson? body)
  | .packages => packages <$> readable (PackagesRequest.ofJson? body)
  | .freshness => .ok freshness

def validate : Query → Except Failure Unit
  | updates _ r => r.validate
  | vulnerabilities r => r.validate
  | cves r => r.validate
  | errata r => r.validate
  | repositories r => r.validate
  | packages r => r.validate
  | freshness => .ok ()

def answer (c : Catalog) : Query → Except Failure Answer
  | updates v r => .ok (.updates (r.resolve c (v.options r)))
  | vulnerabilities r => .ok (.vulnerabilities (r.vulnerabilities c))
  | cves r => .cves <$> r.answer c
  | errata r => .errata <$> r.answer c
  | repositories r => .repositories <$> r.answer c
  | packages r => .ok (.packages (r.answer c))
  | freshness => .ok (.freshness c.freshness)

/-- Answers a query from the catalogue there is, if there is one, after checking it. -/
def process (current : Option Catalog) (q : Query) : Except Failure Answer :=
  match current with
  | none => .error .unavailable
  | some c => do
    q.validate
    q.answer c

end Query

end Advisory
