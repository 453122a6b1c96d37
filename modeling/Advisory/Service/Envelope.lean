import Advisory.Json.Reader
import Advisory.Service.Query

/-!
# Envelopes

A request line holds one JSON value, the envelope: an object with the endpoint, a version if wanted
and the body, or an array of the three in this order. In an object any of the three may stand only
once. What else it holds is passed over, and there a piece may even be malformed as long as the line
follows the grammar; the three themselves may not be, nor may they be nested too deep.

A null body counts as an empty one.
-/

namespace Advisory

/-- What a request line holds. -/
structure Envelope where
  endpoint : Endpoint
  version : Option Nat
  body : Json

namespace Envelope

/-- The greatest version that can be written. -/
def maxVersion : Int := 255

/-- Reads an endpoint: its name, or an object with its name over null. -/
def endpoint? : Json → Option Endpoint
  | .text name => Endpoint.ofName? name
  | .object [(name, .null)] => Endpoint.ofName? name
  | _ => none

/-- Reads a version, which may be null. -/
def version? : Json → Option (Option Nat)
  | .null => some none
  | .integer n => if 0 ≤ n ∧ n ≤ maxVersion then some (some n.toNat) else none
  | _ => none

/-- Reads a body, which has to be sound at its depth in the line. -/
def body? (json : Json) : Option Json :=
  if json.isSound (Json.maxDepth - 1) then some json else none

/-- The only value under a name: nothing inside the result if there is none, no result if there are
several. -/
def only? (name : String) (members : List (String × Json)) : Option (Option Json) :=
  match members.filter (·.1 = name) with
  | [] => some none
  | [(_, json)] => some (some json)
  | _ => none

def ofJson? : Json → Option Envelope
  | .object members => do
    let endpoint ← endpoint? (← (← only? "endpoint" members))
    let version ← version? ((← only? "version" members).getD .null)
    let body ← body? ((← only? "body" members).getD .null)
    return ⟨endpoint, version, body⟩
  | .array (endpoint :: version :: rest) => do
    let endpoint ← endpoint? endpoint
    let version ← version? version
    let body ←
      match rest with
      | [] => some .null
      | [body] => body? body
      | _ => none
    return ⟨endpoint, version, body⟩
  | _ => none

def read? (line : String) : Option Envelope := do
  ofJson? (← Json.read? line)

def queryBody (e : Envelope) : Json :=
  match e.body with
  | .null => .object []
  | body => body

/-- The query that a request line holds. -/
def query (line : String) : Except Failure Query := do
  let e ← Query.readable (read? line)
  Query.read e.endpoint e.version e.queryBody

end Envelope

end Advisory
