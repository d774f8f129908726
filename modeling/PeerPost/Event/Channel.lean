import PeerPost.Text.Utf8

/-!
# The event channel

A bounded fan-out of frames. Every frame that is published has a position; the channel holds the last
`capacity` of them, and each receiver has the position of the frame it reads next. A receiver whose
next frame is no longer held is told once how many frames it has missed and goes on with the oldest
frame held.
-/

namespace PeerPost

/-- Why a channel cannot be made. -/
inductive ChannelFault where
  | zeroCapacity
  | capacityTooLarge
  | memoryTooLarge
deriving DecidableEq

def ChannelFault.message : ChannelFault → String
  | .zeroCapacity => "broadcast channel capacity cannot be zero"
  | .capacityTooLarge => "broadcast channel capacity exceeded `usize::MAX / 2`"
  | .memoryTooLarge => "capacity overflow"

/-- What a receiver gets when it reads. -/
inductive Reception where
  | frame (text : String)
  | lagged (missed : Nat)
  | empty
deriving DecidableEq

/-- A channel. `first` is the position of the oldest frame held, and `cursors` has the next position of
every receiver. -/
structure Channel where
  capacity : Nat
  first : Nat
  held : List String
  cursors : List (Nat × Nat)
  nextReceiver : Nat
deriving DecidableEq

namespace Channel

/-- The greatest capacity that can be asked for. -/
def maxCapacity : Nat := 9223372036854775807

/-- The memory that a channel sets aside for every frame that it can hold, in bytes. -/
def slotSize : Nat := 48

/-- The greatest memory that can be set aside, in bytes. -/
def maxMemory : Nat := 9223372036854775807

/-- The least power of two that is not below a number. -/
def roundUp (n : Nat) : Nat :=
  if n ≤ 1 then 1 else Nat.pow 2 ((n - 1).log2 + 1)

/-- A channel without receivers. The capacity is rounded up to a power of two, and the memory for that many
frames has a limit too. -/
def create (capacity : Nat) : Except ChannelFault Channel :=
  if capacity = 0 then .error .zeroCapacity
  else if maxCapacity < capacity then .error .capacityTooLarge
  else if maxMemory < roundUp capacity * slotSize then .error .memoryTooLarge
  else .ok ⟨roundUp capacity, 0, [], [], 0⟩

/-- The position of the next frame to be published. -/
def endPosition (ch : Channel) : Nat :=
  ch.first + ch.held.length

/-- A new receiver. It gets the frames published from now on. -/
def subscribe (ch : Channel) : Nat × Channel :=
  (ch.nextReceiver,
   { ch with cursors := ch.cursors ++ [(ch.nextReceiver, ch.endPosition)], nextReceiver := ch.nextReceiver + 1 })

def unsubscribe (ch : Channel) (receiver : Nat) : Channel :=
  { ch with cursors := ch.cursors.filter fun c => c.1 ≠ receiver }

def receiverCount (ch : Channel) : Nat :=
  ch.cursors.length

/-- The position of the next frame of a receiver. -/
def cursor? (ch : Channel) (receiver : Nat) : Option Nat :=
  (ch.cursors.find? fun c => c.1 = receiver).map Prod.snd

/-- Publishes a frame to all receivers and gives their number. Without receivers nothing is kept. -/
def publish (ch : Channel) (frame : String) : Nat × Channel :=
  if ch.cursors.isEmpty then (0, ch)
  else
    let excess := ch.held.length + 1 - ch.capacity
    (ch.receiverCount, { ch with first := ch.first + excess, held := (ch.held ++ [frame]).drop excess })

def moveTo (ch : Channel) (receiver position : Nat) : Channel :=
  { ch with cursors := ch.cursors.map fun c => if c.1 = receiver then (receiver, position) else c }

/-- The next thing that a receiver reads, if there is such a receiver. -/
def receive? (ch : Channel) (receiver : Nat) : Option (Reception × Channel) :=
  (ch.cursor? receiver).map fun cursor =>
    if cursor < ch.first then (.lagged (ch.first - cursor), ch.moveTo receiver ch.first)
    else
      match ch.held[cursor - ch.first]? with
      | some frame => (.frame frame, ch.moveTo receiver (cursor + 1))
      | none => (.empty, ch)

/-- Whether the next frame of a receiver is no longer held. -/
def isBehind (ch : Channel) (receiver : Nat) : Bool :=
  (ch.cursor? receiver).any fun cursor => cursor < ch.first

/-- The number of frames that wait for a receiver. -/
def pending (ch : Channel) (receiver : Nat) : Nat :=
  match ch.cursor? receiver with
  | some cursor => ch.held.length - (cursor - ch.first)
  | none => 0

/-- The next frames that a receiver reads, at most `limit` of them. What it has missed is passed over. -/
def readUpTo (ch : Channel) (receiver limit : Nat) : List String × Channel :=
  match ch.cursor? receiver with
  | some cursor =>
    let frames := (ch.held.drop (cursor - ch.first)).take limit
    (frames, ch.moveTo receiver (max cursor ch.first + frames.length))
  | none => ([], ch)

/-! ### What changing a channel does to the frames that wait -/

theorem pending_le (ch : Channel) (receiver : Nat) : ch.pending receiver ≤ ch.held.length := by
  unfold pending
  split <;> omega

theorem cursor?_moveTo (ch : Channel) (receiver position other : Nat) :
    (ch.moveTo receiver position).cursor? other =
      if other = receiver then (ch.cursor? receiver).map fun _ => position else ch.cursor? other := by
  unfold cursor? moveTo
  induction ch.cursors with
  | nil => simp
  | cons c cs ih =>
    rw [List.map_cons, List.find?_cons, List.find?_cons, List.find?_cons]
    by_cases own : c.1 = receiver
    · by_cases same : other = receiver
      · simp [own, same]
      · have apart : receiver ≠ other := fun e => same e.symm
        simpa [own, same, apart] using ih
    · by_cases found : c.1 = other
      · have apart : other ≠ receiver := fun e => own (found.trans e)
        simp [found, apart]
      · simpa [own, found] using ih

theorem held_readUpTo (ch : Channel) (receiver limit : Nat) : (ch.readUpTo receiver limit).2.held = ch.held := by
  unfold readUpTo
  split <;> rfl

theorem first_readUpTo (ch : Channel) (receiver limit : Nat) : (ch.readUpTo receiver limit).2.first = ch.first := by
  unfold readUpTo
  split <;> rfl

/-- Reading moves a receiver past what it has read and past what it has missed. -/
theorem pending_readUpTo (ch : Channel) (receiver limit other : Nat) :
    (ch.readUpTo receiver limit).2.pending other =
      ch.pending other - if other = receiver then limit else 0 := by
  unfold pending
  rw [held_readUpTo, first_readUpTo]
  cases h : ch.cursor? receiver with
  | none =>
    simp only [readUpTo, h]
    by_cases e : other = receiver
    · subst e
      simp [h]
    · simp [e]
  | some cursor =>
    simp only [readUpTo, h]
    rw [cursor?_moveTo, h]
    by_cases e : other = receiver
    · subst e
      simp only [if_true, Option.map_some, h, List.length_take, List.length_drop]
      omega
    · simp [e]

theorem cursor?_unsubscribe (ch : Channel) (receiver other : Nat) :
    (ch.unsubscribe receiver).cursor? other = if other = receiver then none else ch.cursor? other := by
  unfold cursor? unsubscribe
  induction ch.cursors with
  | nil => simp
  | cons c cs ih =>
    rw [List.filter_cons]
    by_cases own : c.1 = receiver
    · by_cases same : other = receiver
      · simp [own, same]
      · have apart : receiver ≠ other := fun e => same e.symm
        simpa [own, same, apart] using ih
    · by_cases found : c.1 = other
      · have apart : other ≠ receiver := fun e => own (found.trans e)
        simp [found, apart]
      · simpa [own, found] using ih

theorem pending_unsubscribe (ch : Channel) (receiver other : Nat) :
    (ch.unsubscribe receiver).pending other = if other = receiver then 0 else ch.pending other := by
  unfold pending
  rw [cursor?_unsubscribe]
  by_cases e : other = receiver <;> simp [e, unsubscribe]

/-- Nothing waits for a new receiver. -/
theorem pending_subscribe (ch : Channel) (other : Nat) : ch.subscribe.2.pending other = ch.pending other := by
  unfold pending cursor? subscribe
  simp only [List.find?_append]
  cases h : ch.cursors.find? fun c => c.1 = other with
  | some c => simp
  | none =>
    by_cases e : ch.nextReceiver = other <;> simp [e, endPosition]

end Channel

end PeerPost
