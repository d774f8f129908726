import PeerPost.Http.Request
import PeerPost.Http.Response

/-!
# Cross-origin access

Which origins may read responses. The setting is a list with commas; `*` in it admits every origin, and
otherwise the origin of the request must be one of those listed, byte for byte. Whatever the response
is, `dress` adds the headers about it.
-/

namespace PeerPost.Http

/-- The parts of a list with commas, without white space around them and without empty ones. -/
def originParts (setting : String) : List String :=
  ((Text.splitOn ',' setting.toList).map Text.trim).filterMap fun part =>
    if part.isEmpty then none else some (String.ofList part)

/-- Whether a character may stand in a header value: a tab, or what is not a control character of ASCII. -/
def isHeaderChar (c : Char) : Bool :=
  c = '\t' || (0x20 ≤ c.toNat && c.toNat ≠ 0x7F)

/-- The origins that are admitted. -/
inductive Origins where
  | any
  | listed (origins : List String)
deriving DecidableEq

namespace Origins

/-- The origins that a list admits. Those that cannot stand in a header are left out. -/
def ofList (parts : List String) : Origins :=
  if parts.contains "*" then .any else .listed (parts.filter fun part => part.toList.all isHeaderChar)

/-- The value of the header that admits the origin of a request. -/
def admit? (origins : Origins) (request : Request) : Option String :=
  match origins with
  | .any => some "*"
  | .listed known =>
    match request.header? "origin" with
    | some origin => known.find? fun o => Text.utf8 o = origin
    | none => none

/-- The request headers on which a response depends. -/
def varyOn : String := "origin, access-control-request-method, access-control-request-headers"

/-- A response with the headers about its use from other origins. -/
def dress (origins : Origins) (request : Request) (response : Response) : Response :=
  let response := response.withHeader "vary" varyOn
  match origins.admit? request with
  | some value => response.withHeader "access-control-allow-origin" value
  | none => response

/-- The answer to the question of what is allowed, which is the same for all targets. -/
def preflight : Response :=
  (Response.bare 200).withHeader "access-control-allow-methods" "GET,POST"
    |>.withHeader "access-control-allow-headers" "*"

end Origins

end PeerPost.Http
