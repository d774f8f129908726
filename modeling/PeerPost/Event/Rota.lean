import PeerPost.Event.Client

/-!
# The rota

The sides of the connections of a hub and the tasks around them stand in one queue and have their turns in
rounds. A side that is called goes to the end of the queue. A sending side that is late comes back to the
queue when the round ends, the last of the late ones first. A sending side that waits is called as soon as
there is a frame for it.
-/

namespace PeerPost

/-- A turn that is due. Clients are named by their numbers. -/
inductive Turn where
  /-- The sending side of a client sends. -/
  | sending (client : Nat)
  /-- The listening side of a client hears something. -/
  | hearing (client : Nat) (heard : Heard)
  /-- The connection of a client is ended. -/
  | ending (client : Nat)
  /-- The handshake of a new client is answered, which calls for its connection. -/
  | greeting
  /-- The connection of a new client is opened, which calls its two sides. -/
  | opening
  /-- A request that is no handshake is answered. -/
  | answering
  /-- A side finds that there is nothing to do. -/
  | idling
deriving DecidableEq

/-- Who waits for a frame, whose turns are due in this round and the following ones, and who is late. The lists
stand in the order in which the clients or turns came to them. -/
structure Rota where
  waiting : List Nat
  queue : List Turn
  late : List Nat

namespace Rota

def empty : Rota := ⟨[], [], []⟩

/-- Puts a turn at the end of the queue. -/
def call (rota : Rota) (turn : Turn) : Rota :=
  { rota with queue := rota.queue ++ [turn] }

/-- Calls the sending sides that wait and for which there is a frame. -/
def wake (rota : Rota) (ready : Nat → Bool) : Rota :=
  { rota with
    waiting := rota.waiting.filter fun client => !ready client
    queue := rota.queue ++ (rota.waiting.filter ready).map .sending }

/-- Places a sending side after its turn. -/
def place (rota : Rota) (client : Nat) : Outcome → Rota
  | .late => { rota with late := rota.late ++ [client] }
  | .waits => { rota with waiting := rota.waiting ++ [client] }
  | .finished => rota

/-- Calls a sending side that is to stop, unless it stands in the queue. -/
def withdraw (rota : Rota) (client : Nat) : Rota :=
  let called := if rota.queue.contains (.sending client) then [] else [.sending client]
  ⟨rota.waiting.filter fun c => c ≠ client, rota.queue ++ called, rota.late.filter fun c => c ≠ client⟩

/-- Brings the late ones back to the queue. -/
def endRound (rota : Rota) : Rota :=
  { rota with queue := rota.queue ++ rota.late.reverse.map .sending, late := [] }

def due (rota : Rota) : List Turn :=
  rota.queue ++ rota.late.map .sending

end Rota

end PeerPost
