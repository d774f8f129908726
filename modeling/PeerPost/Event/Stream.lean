import PeerPost.Event.Settling
import PeerPost.Http.Router

/-!
# The event stream

What can be done with the event stream of a node from outside: clients connect, send, ping, read and leave.
Whatever a client does is heard after the sending sides have had the turns that were due, so it gets what one
turn was enough to send, and then all else is settled. A frame that is published only calls the sending
sides; when they have fallen behind by the time of their turn, they skip the frames that are no longer held.
-/

namespace PeerPost.Hub

/-- The greatest size of the payload of a ping in bytes. -/
def maxPingSize : Nat := 125

/-- The greatest size of a text or of bytes that a client may send, in bytes. -/
def maxMessageSize : Nat := 16777216

/-- Answers a request on a connection of its own. A handshake for the event stream that is in order makes
a new client, whose number is given; every other request is answered by the node, at the end of the round in
which its turn comes. -/
def connect (origins : Http.Origins) (now : Timestamp) (request : Http.Request) (hub : Hub) :
    Except Http.Response Nat × Hub :=
  if request.route? = some .events ∧ Http.handshakeFault? request = none then
    (.ok hub.clients.length, hub.settleAfter .greeting)
  else
    -- The round goes on after the answer, and the turns that are then still due are left for later.
    let hub := run (fun hub => !hub.rota.queue.contains .answering) (hub.wake.call .answering)
    let (response, node) := Http.serve origins hub.node now request
    (.error response, { hub with node := node }.call .idling)

/-- A client does something that its connection hears, if that has not ended. -/
def act (hub : Hub) (number : Nat) (heard : Heard) : Hub :=
  if hub.isConnected number then hub.settleAfter (.hearing number heard) else hub.settle

/-- A client leaves. What was not sent by then is lost. -/
def leave (hub : Hub) (number : Nat) (how : Departure) : Hub :=
  hub.act number (.departure how)

/-- A client sends a text or bytes of some size, which nobody reads. What is too large ends its connection. -/
def send (hub : Hub) (number size : Nat) : Hub :=
  if maxMessageSize < size then hub.leave number .fault else hub.act number .message

/-- A client sends a ping. It gets the same payload back after what was received by then; a payload that is
too large ends its connection. -/
def ping (hub : Hub) (number : Nat) (payload : Bytes) : Hub :=
  if maxPingSize < payload.length then hub.leave number .fault else hub.act number (.ping payload)

/-- Takes what has arrived at a client, with how its connection stands. -/
def read? (hub : Hub) (number : Nat) : Option ((List Delivery × Connection) × Hub) :=
  let hub := hub.settle
  hub.clients[number]?.map fun client => (client.read.1, hub.update number fun _ => client.read.2)

end PeerPost.Hub
