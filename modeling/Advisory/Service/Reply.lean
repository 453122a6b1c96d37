import Advisory.Service.Envelope

/-!
# Replies

Every request line gets one reply: a status and either the answer or what went wrong.
-/

namespace Advisory

structure Reply where
  status : Nat
  body : Json

namespace Reply

def ofAnswer (a : Answer) : Reply := ⟨200, a.toJson⟩

def ofFailure (f : Failure) : Reply := ⟨f.status, .object [("error", .text f.message)]⟩

def toJson (r : Reply) : Json := .object [("status", .ofNat r.status), ("body", r.body)]

/-- The reply to a request line from the catalogue there is. -/
def toLine (current : Option Catalog) (line : String) : Reply :=
  match Envelope.query line >>= Query.process current with
  | .ok a => ofAnswer a
  | .error f => ofFailure f

end Reply

end Advisory
