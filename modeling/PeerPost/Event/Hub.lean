import PeerPost.Event.Rota
import PeerPost.Node

/-!
# The hub of the event stream

A node, the clients that are connected to its event stream, and the rota of the turns that are due. A round
gives at most `roundTurns` turns; it ends early when nobody is left in the queue. When the connection of a
client is ended, its sending side has a last turn, in which it does nothing.
-/

namespace PeerPost

/-- A node and the clients of its event stream. Clients are numbered from 0 and keep their places. -/
structure Hub where
  node : Node
  clients : List Client
  rota : Rota

namespace Hub

def ofNode (node : Node) : Hub := ⟨node, [], .empty⟩

def update (hub : Hub) (number : Nat) (change : Client → Client) : Hub :=
  { hub with clients := hub.clients.modify number change }

/-- Puts a turn at the end of the queue. -/
def call (hub : Hub) (turn : Turn) : Hub :=
  { hub with rota := hub.rota.call turn }

/-- Whether there is a frame for a client. -/
def isReady (hub : Hub) (number : Nat) : Bool :=
  hub.clients[number]?.any fun client => 0 < client.pending hub.node.events

/-- Calls the sending sides for which there is a frame. -/
def wake (hub : Hub) : Hub :=
  { hub with rota := hub.rota.wake hub.isReady }

/-- Whether a client has a connection that has not ended. -/
def isConnected (hub : Hub) (number : Nat) : Bool :=
  hub.clients[number]?.any fun client => client.connection.receiver?.isSome

/-! ### Turns -/

/-- The hub after a turn of the sending side of a client, which leaves the client and the channel like this. -/
def afterSending (hub : Hub) (number : Nat) (client : Client) (events : Channel) (outcome : Outcome) : Hub :=
  ⟨{ hub.node with events := events }, hub.clients.set number client, hub.rota.place number outcome⟩

/-- The turn of a sending side. -/
def sendTo (hub : Hub) (number : Nat) : Hub :=
  match hub.clients[number]? with
  | some client =>
    let sent := client.send hub.node.events
    hub.afterSending number sent.1 sent.2.1 sent.2.2
  | none => hub

/-- The turn of a listening side. When its client leaves, it calls for the end of the connection. -/
def hear (hub : Hub) (number : Nat) : Heard → Hub
  | .message => hub
  | .ping payload => hub.update number fun client => client.pong payload
  | .departure .farewell => (hub.update number Client.part).call (.ending number)
  | .departure _ => hub.call (.ending number)

/-- The turn that ends a connection. -/
def endConnection (hub : Hub) (number : Nat) : Hub :=
  match hub.clients[number]?.bind fun client => client.connection.receiver? with
  | some receiver =>
    let node := { hub.node with events := hub.node.events.unsubscribe receiver }
    ⟨node, hub.clients.modify number Client.cut, hub.rota.withdraw number⟩
  | none => hub

/-- The turn that opens the connection of a new client. -/
def openConnection (hub : Hub) : Hub :=
  let (receiver, events) := hub.node.events.subscribe
  ⟨{ hub.node with events := events }, hub.clients ++ [.ofReceiver receiver],
   (hub.rota.call (.sending hub.clients.length)).call .idling⟩

def take (hub : Hub) : Turn → Hub
  | .sending number => hub.sendTo number
  | .hearing number heard => hub.hear number heard
  | .ending number => hub.endConnection number
  | .greeting => hub.call .opening
  | .opening => hub.openConnection
  | .answering => hub
  | .idling => hub

/-! ### Rounds -/

/-- The greatest number of turns in a round. -/
def roundTurns : Nat := 61

def withQueue (hub : Hub) (queue : List Turn) : Hub :=
  { hub with rota := { hub.rota with queue := queue } }

/-- Gives the first turns of the queue, at most so many. -/
def takeTurns : Nat → Hub → Hub
  | 0, hub => hub
  | left + 1, hub =>
    match hub.rota.queue with
    | [] => hub
    | turn :: rest => takeTurns left ((hub.withQueue rest).take turn)

def round (hub : Hub) : Hub :=
  let hub := takeTurns roundTurns hub
  { hub with rota := hub.rota.endRound }

end Hub

end PeerPost
