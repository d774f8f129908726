import PeerPost.Json.Value
import PeerPost.Text.Utf8

/-!
# Responses

A response is a status, headers with lower-case names, and a text for body.
-/

namespace PeerPost.Http

structure Response where
  status : Nat
  headers : List (String × String)
  body : String
deriving DecidableEq

namespace Response

/-- A response without a body. -/
def bare (status : Nat) : Response := ⟨status, [], ""⟩

def json (status : Nat) (value : Json) : Response :=
  ⟨status, [("content-type", "application/json")], value.text⟩

def plain (status : Nat) (text : String) : Response :=
  ⟨status, [("content-type", "text/plain; charset=utf-8")], text⟩

def withHeader (response : Response) (name value : String) : Response :=
  { response with headers := response.headers ++ [(name, value)] }

def header? (response : Response) (name : String) : Option String :=
  (response.headers.find? fun h => h.1 = name).map Prod.snd

/-- A response with the size of its body. -/
def withSize (response : Response) : Response :=
  response.withHeader "content-length" (String.ofList (Decimal.digits (Text.size response.body)))

/-- A response without its body, with all its headers. -/
def withoutBody (response : Response) : Response :=
  { response with body := "" }

end Response

end PeerPost.Http
