import PeerPost.Json.Record

/-!
# Failure bodies

The body of a failed request: a code, a message, and details if there are any.
-/

namespace PeerPost.Http

/-- The body of a failed request. -/
structure Failure where
  code : String
  message : String
  details? : Option Json

namespace Failure

/-- The request cannot be understood. -/
def badRequest (message : String) : Failure := ⟨"BAD_REQUEST", message, none⟩

/-- What the request names does not exist. -/
def notFound (resource id : String) : Failure := ⟨"NOT_FOUND", resource ++ " not found: " ++ id, none⟩

/-- The request failed for reasons of the node. -/
def internal (message : String) : Failure := ⟨"INTERNAL_ERROR", message, none⟩

def withDetails (failure : Failure) (details : Json) : Failure :=
  { failure with details? := some details }

def record (failure : Failure) : Record :=
  Record.empty.put "code" (.string failure.code)
    |>.put "message" (.string failure.message)
    |>.putIfPresent "details" failure.details?

def toJson (failure : Failure) : Json :=
  failure.record.toJson

end Failure

end PeerPost.Http
