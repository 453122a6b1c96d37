/-!
# How a request fails

A request fails as a whole or not at all. An item of it that is malformed or unknown is left out of
the answer and is no failure.
-/

namespace Advisory

/-- Why a request is not answered. -/
inductive Failure where
  /-- A field that the request needs is not there. -/
  | missingField (name : String)
  /-- A list that the request needs is empty. -/
  | emptyList (name : String)
  /-- Part of the name of a module stream is empty. -/
  | invalidModule (field : String)
  /-- A pattern cannot be read. -/
  | invalidPattern
  /-- There is no catalogue to answer from. -/
  | unavailable
  /-- There is no such version of the endpoint. -/
  | unsupportedVersion (version : Nat)
  /-- The request cannot be read. -/
  | malformed
deriving DecidableEq, Repr

namespace Failure

def message : Failure → String
  | missingField name => "'" ++ name ++ "' is a required property"
  | emptyList name => "[] is too short - '" ++ name ++ "'"
  | invalidModule field => "'" ++ field ++ "' is a required property"
  | invalidPattern => "Invalid regular expression"
  | unavailable => "Cache is not loaded yet"
  | unsupportedVersion version => "Unsupported API version " ++ toString version
  | malformed => "Invalid request"

/-- The status of a reply that reports a failure. -/
def status : Failure → Nat
  | unavailable => 503
  | unsupportedVersion _ => 404
  | _ => 400

end Failure

/-- Checks that a list is there and not empty. -/
def requireList (list : Option (List α)) (name : String) : Except Failure Unit :=
  match list with
  | none => .error (.missingField name)
  | some [] => .error (.emptyList name)
  | some _ => .ok ()

end Advisory
