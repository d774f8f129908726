import PeerPost.Event.Channel

/-!
# Clients of the event stream

A client has a connection with two sides. The listening side hears what the client does; clients only
listen, and of what they send only a ping is answered. The sending side receives frames from the event
channel and sends them, in turns of `turnSteps` steps. Receiving a frame takes a step, sending it another
one, and learning that frames were missed takes one too. So a turn may end with a frame that has been
received and is not sent; it is sent at the start of the next turn, or before a pong if that comes first.
-/

namespace PeerPost

inductive Delivery where
  | frame (text : String)
  | pong (payload : Bytes)
deriving DecidableEq

/-- How a client leaves: it says so, it sends what is not accepted, or it is gone. -/
inductive Departure where
  | farewell
  | fault
  | vanishing
deriving DecidableEq

/-- What a listening side hears from its client. -/
inductive Heard where
  | message
  | ping (payload : Bytes)
  | departure (how : Departure)
deriving DecidableEq

/-- How a connection stands. After the farewell of its client it is `parting`, and `answered` says whether the
answer to the farewell has been sent. The node ends a connection without a farewell of its own, so that it is
`broken` if no answer was sent. The client notices the end when it has read what came before, and the
connection stays `over` from then on. -/
inductive Connection where
  | live (receiver : Nat)
  | parting (receiver : Nat) (answered : Bool)
  | broken
  | closed
  | over
deriving DecidableEq

namespace Connection

/-- The receiver of a connection that has not ended. -/
def receiver? : Connection → Option Nat
  | .live receiver => some receiver
  | .parting receiver _ => some receiver
  | _ => none

/-- A connection that the node ends. -/
def ended : Connection → Connection
  | .parting _ true => .closed
  | _ => .broken

/-- A connection whose client has said farewell. -/
def parted : Connection → Connection
  | .live receiver => .parting receiver false
  | connection => connection

theorem receiver?_ended (connection : Connection) : connection.ended.receiver? = none := by
  unfold ended
  split <;> rfl

theorem receiver?_parted (connection : Connection) : connection.parted.receiver? = connection.receiver? := by
  cases connection <;> rfl

end Connection

/-- A client: what has arrived at it since it last read, and the frame that was received for it and is not
sent. -/
structure Client where
  connection : Connection
  inbox : List Delivery
  unsent? : Option String
deriving DecidableEq

/-- What comes after a turn of a sending side. One that has used up its steps is late, and one with nothing
left to send waits for the next frame. -/
inductive Outcome where
  | late
  | waits
  | finished
deriving DecidableEq

namespace Client

/-- The greatest number of steps in a turn. -/
def turnSteps : Nat := 128

/-- The frames that a number of steps is enough to send. -/
def sentIn (steps : Nat) : Nat := steps / 2

/-- The frames that a number of steps is enough to receive. -/
def receivedIn (steps : Nat) : Nat := (steps + 1) / 2

def ofReceiver (receiver : Nat) : Client := ⟨.live receiver, [], none⟩

/-- The number of frames that wait for a client. -/
def pending (client : Client) (events : Channel) : Nat :=
  match client.connection.receiver? with
  | some receiver => events.pending receiver
  | none => 0

/-- The frame that is not sent, as a delivery. -/
def unsent (client : Client) : List Delivery :=
  client.unsent?.toList.map .frame

/-- Sends the frame that is not sent yet, if there is one. -/
def flush (client : Client) : Client :=
  { client with inbox := client.inbox ++ client.unsent, unsent? := none }

/-- The steps of the next turn that go to the frames that wait for a receiver. -/
def frameSteps (client : Client) (events : Channel) (receiver : Nat) : Nat :=
  turnSteps - client.unsent.length - if events.isBehind receiver then 1 else 0

/-- A turn of a sending side while the connection is live. -/
def sendLive (client : Client) (events : Channel) (receiver : Nat) : Client × Channel × Outcome :=
  let steps := client.frameSteps events receiver
  -- With an odd number of steps the last frame that is received is not sent in this turn.
  let (frames, rest) := events.readUpTo receiver (receivedIn steps)
  let sent := (frames.take (sentIn steps)).map Delivery.frame
  ({ client with inbox := client.inbox ++ client.unsent ++ sent, unsent? := frames[sentIn steps]? }, rest,
   if steps ≤ 2 * events.pending receiver then .late else .waits)

/-- A turn of a sending side after the farewell of its client. A frame that was received before goes out, and
the answer to the farewell with it; but a new frame is refused, which ends the connection. -/
def sendParting (client : Client) (events : Channel) (receiver : Nat) (answered : Bool) :
    Client × Channel × Outcome :=
  let client := { client.flush with connection := .parting receiver (answered || client.unsent?.isSome) }
  if events.pending receiver = 0 then (client, events, .waits)
  else ({ client with connection := client.connection.ended }, events.unsubscribe receiver, .finished)

def send (client : Client) (events : Channel) : Client × Channel × Outcome :=
  match client.connection with
  | .live receiver => client.sendLive events receiver
  | .parting receiver answered => client.sendParting events receiver answered
  | _ => (client, events, .finished)

/-- A client that gets the payload of its ping back, after what was received before. -/
def pong (client : Client) (payload : Bytes) : Client :=
  { client.flush with inbox := client.flush.inbox ++ [.pong payload] }

/-- A client that has said farewell. -/
def part (client : Client) : Client :=
  { client with connection := client.connection.parted }

/-- A client whose connection the node ends. What was not sent is lost. -/
def cut (client : Client) : Client :=
  { client with connection := client.connection.ended, unsent? := none }

/-- What has arrived at a client, with how its connection stands. The end of a connection is reported once. -/
def read (client : Client) : (List Delivery × Connection) × Client :=
  let next := if client.connection.receiver?.isSome then client.connection else .over
  ((client.inbox, client.connection), ⟨next, [], client.unsent?⟩)

end Client

end PeerPost
