import PeerPost.Http.Controller
import PeerPost.Http.Cors
import PeerPost.Node

/-!
# The router

How a node answers a request: the route decides the controller, and every response gets the headers
about its size and about its use from other origins. HEAD is answered as GET without the body.
-/

namespace PeerPost.Http

/-- The greatest size of a request body in bytes. -/
def maxBodySize : Nat := 2097152

/-- A route does not allow the method. -/
def notAllowed (route : Route) : Response :=
  (Response.bare 405).withHeader "allow" route.allowed

/-- A path segment is not UTF-8 after decoding. -/
def badSegment : Response :=
  .plain 400 "Invalid URL: Invalid UTF-8 in `contact_id`"

/-- A request body is too large. -/
def bodyTooLarge : Response :=
  .plain 413 "Failed to buffer the request body: length limit exceeded"

/-- Why a request does not open an event stream. The checks are made in the order of the constructors. -/
inductive HandshakeFault where
  | methodNotGet
  | connectionNotUpgrade
  | upgradeNotWebSocket
  | versionNot13
  | keyMissing
deriving DecidableEq

def HandshakeFault.response : HandshakeFault → Response
  | .methodNotGet => .plain 405 "Request method must be `GET`"
  | .connectionNotUpgrade => .plain 400 "Connection header did not include 'upgrade'"
  | .upgradeNotWebSocket => .plain 400 "`Upgrade` header did not include 'websocket'"
  | .versionNot13 => .plain 400 "`Sec-WebSocket-Version` header did not include '13'"
  | .keyMissing => .plain 400 "`Sec-WebSocket-Key` header missing"

/-- The first check that a request to open an event stream fails. -/
def handshakeFault? (request : Request) : Option HandshakeFault :=
  if request.method ≠ "GET" then some .methodNotGet
  else if !request.headerHas "connection" "upgrade" then some .connectionNotUpgrade
  else if !request.headerIs "upgrade" "websocket" then some .upgradeNotWebSocket
  else if !request.headerIs "sec-websocket-version" "13" then some .versionNot13
  else if (request.header? "sec-websocket-key").isNone then some .keyMissing
  else none

/-- The response to a handshake that is in order on a connection that cannot change its protocol. -/
def upgradeImpossible : Response :=
  .plain 426 "WebSocket request couldn't be upgraded since no upgrade state was present"

/-- The response to a request for the event stream on a connection that cannot change its protocol. -/
def eventsResponse (request : Request) : Response :=
  match handshakeFault? request with
  | some fault => fault.response
  | none => upgradeImpossible

/-- The context of a request for a contact. -/
def contactContext (contactId : String) : Context :=
  (Context.fresh "").withParam Controller.contactParam contactId

/-- What a request leads to: a response at once, or a dialogue with the node that ends with the context of
the response. -/
inductive Plan where
  | respond (response : Response)
  | hold (dialogue : Dialogue Context)

/-- The plan for a request of a route. -/
def planRoute (request : Request) (route : Route) : Plan :=
  let reads := request.method = "GET" ∨ request.method = "HEAD"
  match route with
  | .contacts => if reads then .hold (Controller.listContacts (.fresh "")) else .respond (notAllowed route)
  | .events => .respond (if reads then eventsResponse request else notAllowed route)
  | .conversation segment =>
    if reads then
      match segmentText? segment with
      | none => .respond badSegment
      | some contactId => .hold (Controller.listMessages (contactContext contactId))
    else if request.method = "POST" then
      match segmentText? segment with
      | none => .respond badSegment
      | some contactId =>
        if maxBodySize < request.body.length then .respond bodyTooLarge
        else .hold (Controller.writeMessage ((contactContext contactId).withBody request.body))
    else .respond (notAllowed route)

/-- The plan for a request. -/
def plan (request : Request) : Plan :=
  if request.method = "OPTIONS" then
    .respond (match request.route? with
      | some route => Origins.preflight.withHeader "allow" route.allowed
      | none => Origins.preflight)
  else
    match request.route? with
    | some route => planRoute request route
    | none => .respond (.bare 404)

/-- The response that a plan gives with a node at a time, before the headers that every response has. -/
def Plan.carryOut (node : Node) (now : Timestamp) : Plan → Response × Node
  | .respond response => (response, node)
  | .hold dialogue =>
    let (ctx, node) := node.hold now dialogue
    (ctx.toResponse, node)

/-- How the node answers a request. -/
def serve (origins : Origins) (node : Node) (now : Timestamp) (request : Request) : Response × Node :=
  let (response, node) := (plan request).carryOut node now
  let response := origins.dress request response.withSize
  (if request.method = "HEAD" then response.withoutBody else response, node)

end PeerPost.Http
