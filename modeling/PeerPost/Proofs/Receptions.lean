import Mathlib.Algebra.GroupWithZero.Nat
import PeerPost.Proofs.Operations
import PeerPost.Proofs.Records

/-! # What receivers get

A receiver of the event channel is owed the frames that were broadcast since it subscribed. What it gets
accounts for them one after the other: a frame is the next of them, and a lag passes over those that the
channel no longer holds. `Owes` relates the place of a receiver to the frames that it is owed, also those that
are no longer held, and every operation keeps it. -/

namespace PeerPost

namespace Reception

/-- The number of frames that a reception accounts for. -/
def taken : Reception → Nat
  | .frame _ => 1
  | .lagged missed => missed
  | .empty => 0

def text? : Reception → Option String
  | .frame text => some text
  | _ => none

/-- What a receiver gets when these frames are owed to it and the channel holds so many. -/
def Fits (capacity : Nat) (owed : List String) : Reception → Prop
  | .frame text => owed[0]? = some text
  | .lagged missed => 1 ≤ missed ∧ capacity < owed.length ∧ owed.length - missed = capacity
  | .empty => owed = []

end Reception

namespace Channel

/-- A channel holds at most as many frames as its capacity, and it has dropped frames only if it is full.
Receivers have numbers that were given out before. -/
structure Sound (ch : Channel) : Prop where
  held_le : ch.held.length ≤ ch.capacity
  full : 0 < ch.first → ch.held.length = ch.capacity
  known : ∀ c ∈ ch.cursors, c.1 < ch.nextReceiver

/-- These are the frames that a receiver has neither got nor missed, the oldest first. -/
def Owes (ch : Channel) (receiver : Nat) (frames : List String) : Prop :=
  ∃ cursor, ch.cursor? receiver = some cursor ∧ cursor + frames.length = ch.endPosition ∧
    ∀ i, ch.first ≤ cursor + i → frames[i]? = ch.held[cursor + i - ch.first]?

variable {ch next : Channel} {receiver reader : Nat} {frames : List String} {reception : Reception}

/-! ### Changes of a channel -/

theorem receive?_inv (h : ch.receive? reader = some (reception, next)) :
    ∃ cursor, ch.cursor? reader = some cursor ∧
      ((cursor < ch.first ∧ reception = .lagged (ch.first - cursor) ∧ next = ch.moveTo reader ch.first) ∨
        (ch.first ≤ cursor ∧ ∃ frame, ch.held[cursor - ch.first]? = some frame ∧ reception = .frame frame ∧
          next = ch.moveTo reader (cursor + 1)) ∨
        (ch.first ≤ cursor ∧ ch.held[cursor - ch.first]? = none ∧ reception = .empty ∧ next = ch)) := by
  unfold receive? at h
  obtain ⟨cursor, hc, h⟩ := Option.map_eq_some_iff.mp h
  refine ⟨cursor, hc, ?_⟩
  split at h
  · next behind =>
    cases h
    exact Or.inl ⟨behind, rfl, rfl⟩
  · next inside =>
    have le := Nat.le_of_not_lt inside
    split at h
    · next frame hf =>
      cases h
      exact Or.inr (Or.inl ⟨le, frame, hf, rfl, rfl⟩)
    · next none =>
      cases h
      exact Or.inr (Or.inr ⟨le, none, rfl, rfl⟩)

theorem cursor?_new (h : Sound ch) : ch.cursor? ch.nextReceiver = none := by
  unfold cursor?
  rw [Option.map_eq_none_iff, List.find?_eq_none]
  intro c hc same
  rw [decide_eq_true_eq] at same
  exact absurd (h.known c hc) (by omega)

theorem cursor?_subscribe (ch : Channel) (other : Nat) : ch.subscribe.2.cursor? other =
    (ch.cursor? other).or (if ch.nextReceiver = other then some ch.endPosition else none) := by
  unfold cursor? subscribe
  simp only [List.find?_append, Option.map_or]
  by_cases h : ch.nextReceiver = other <;> simp [h]

theorem publish_of_cursor {cursor : Nat} (h : ch.cursor? receiver = some cursor) (frame : String) :
    (ch.publish frame).2 = { ch with
      first := ch.first + (ch.held.length + 1 - ch.capacity)
      held := (ch.held ++ [frame]).drop (ch.held.length + 1 - ch.capacity) } := by
  have there : ch.cursors.isEmpty = false := by
    obtain ⟨c, hc, -⟩ := Option.map_eq_some_iff.mp h
    cases hn : ch.cursors with
    | nil =>
      rw [hn] at hc
      cases hc
    | cons => rfl
  rw [publish, there]
  rfl

namespace Sound

theorem publish (h : Sound ch) (frame : String) : Sound (ch.publish frame).2 := by
  obtain ⟨le, full, known⟩ := h
  unfold Channel.publish
  split
  · exact ⟨le, full, known⟩
  · refine ⟨?_, ?_, known⟩
    · simp only [List.length_drop, List.length_append, List.length_singleton]
      omega
    · simp only [List.length_drop, List.length_append, List.length_singleton]
      intro dropped
      by_cases pos : 0 < ch.first
      · have := full pos
        omega
      · omega

theorem subscribe (h : Sound ch) : Sound ch.subscribe.2 := by
  refine ⟨h.held_le, h.full, fun c hc => ?_⟩
  rcases List.mem_append.mp hc with hc | hc
  · exact Nat.lt_succ_of_lt (h.known c hc)
  · rw [List.mem_singleton.mp hc]
    exact Nat.lt_succ_self _

theorem unsubscribe (h : Sound ch) (receiver : Nat) : Sound (ch.unsubscribe receiver) :=
  ⟨h.held_le, h.full, fun c hc => h.known c (List.mem_filter.mp hc).1⟩

theorem moveTo (h : Sound ch) (reader position : Nat) : Sound (ch.moveTo reader position) := by
  refine ⟨h.held_le, h.full, fun c hc' => ?_⟩
  obtain ⟨old, ho, rfl⟩ := List.mem_map.mp hc'
  have before := h.known old ho
  split
  · next own => rwa [own] at before
  · exact before

theorem receive? (h : Sound ch) (hr : ch.receive? reader = some (reception, next)) : Sound next := by
  obtain ⟨cursor, -, ⟨-, -, rfl⟩ | ⟨-, frame, -, -, rfl⟩ | ⟨-, -, -, rfl⟩⟩ := receive?_inv hr
  · exact h.moveTo reader _
  · exact h.moveTo reader _
  · exact h

end Sound

/-! ### What a receiver is owed -/

namespace Owes

theorem of_subscribe (h : Sound ch) : ch.subscribe.2.Owes ch.subscribe.1 [] := by
  refine ⟨ch.endPosition, ?_, rfl, fun i hi => ?_⟩
  · rw [cursor?_subscribe]
    show (ch.cursor? ch.nextReceiver).or _ = _
    rw [cursor?_new h, Option.none_or]
    exact if_pos rfl
  · have past : ch.held.length ≤ ch.endPosition + i - ch.first := by
      unfold endPosition
      omega
    rw [List.getElem?_nil]
    exact (List.getElem?_eq_none past).symm

theorem subscribe (h : ch.Owes receiver frames) : ch.subscribe.2.Owes receiver frames := by
  obtain ⟨cursor, hc, sum, same⟩ := h
  exact ⟨cursor, by rw [cursor?_subscribe, hc, Option.some_or], sum, same⟩

theorem unsubscribe (h : ch.Owes receiver frames) {other : Nat} (ho : other ≠ receiver) :
    (ch.unsubscribe other).Owes receiver frames := by
  obtain ⟨cursor, hc, sum, same⟩ := h
  exact ⟨cursor, by rw [cursor?_unsubscribe, if_neg (Ne.symm ho), hc], sum, same⟩

theorem moveTo (h : ch.Owes receiver frames) (ho : reader ≠ receiver) (position : Nat) :
    (ch.moveTo reader position).Owes receiver frames := by
  obtain ⟨cursor, hc, sum, same⟩ := h
  exact ⟨cursor, by rw [cursor?_moveTo, if_neg (Ne.symm ho), hc], sum, same⟩

theorem publish (h : ch.Owes receiver frames) (sound : Sound ch) (frame : String) :
    (ch.publish frame).2.Owes receiver (frames ++ [frame]) := by
  obtain ⟨cursor, hc, sum, same⟩ := h
  have le := sound.held_le
  rw [publish_of_cursor hc]
  refine ⟨cursor, hc, ?_, fun i hi => ?_⟩
  · simp only [endPosition, List.length_append, List.length_drop, List.length_singleton] at sum ⊢
    omega
  · simp only at hi ⊢
    rw [endPosition] at sum
    -- Both lists have the new frame at the same place, and before it they agree as they did.
    have place : ch.held.length + 1 - ch.capacity +
        (cursor + i - (ch.first + (ch.held.length + 1 - ch.capacity))) = cursor + i - ch.first := by omega
    rw [List.getElem?_drop, place, List.getElem?_append, List.getElem?_append]
    by_cases old : i < frames.length
    · rw [if_pos old, if_pos (by omega)]
      exact same i (by omega)
    · rw [if_neg old, if_neg (by omega)]
      congr 1
      omega

/-- What a receiver gets, and what it is owed then. -/
theorem receive? (h : ch.Owes reader frames) (sound : Sound ch) : ∃ reception next,
    ch.receive? reader = some (reception, next) ∧ reception.Fits ch.capacity frames ∧
      reception.taken ≤ frames.length ∧ next.Owes reader (frames.drop reception.taken) := by
  obtain ⟨cursor, hc, sum, same⟩ := h
  rw [endPosition] at sum
  have moved (position : Nat) : (ch.moveTo reader position).cursor? reader = some position := by
    rw [cursor?_moveTo, if_pos rfl, hc, Option.map_some]
  by_cases behind : cursor < ch.first
  · have full := sound.full (by omega)
    refine ⟨.lagged (ch.first - cursor), ch.moveTo reader ch.first, ?_, ?_, ?_, ch.first, moved _, ?_, fun i hi => ?_⟩
    · simp only [Channel.receive?, hc, Option.map_some, behind, if_true]
    · exact ⟨by omega, by omega, by omega⟩
    · show ch.first - cursor ≤ _
      omega
    · show ch.first + (frames.drop (ch.first - cursor)).length = ch.first + ch.held.length
      rw [List.length_drop]
      omega
    · show (frames.drop (ch.first - cursor))[i]? = ch.held[ch.first + i - ch.first]?
      rw [List.getElem?_drop, same _ (by omega)]
      congr 1
      omega
  · have le := Nat.le_of_not_lt behind
    have head := same 0 le
    rw [Nat.add_zero] at head
    cases hf : ch.held[cursor - ch.first]? with
    | some frame =>
      have inside := (List.getElem?_eq_some_iff.mp hf).1
      refine ⟨.frame frame, ch.moveTo reader (cursor + 1), ?_, head.trans hf, ?_, cursor + 1, moved _, ?_,
        fun i hi => ?_⟩
      · simp only [Channel.receive?, hc, Option.map_some, behind, if_false, hf]
      · show 1 ≤ frames.length
        omega
      · show cursor + 1 + (frames.drop 1).length = ch.first + ch.held.length
        rw [List.length_drop]
        omega
      · show (frames.drop 1)[i]? = ch.held[cursor + 1 + i - ch.first]?
        rw [List.getElem?_drop, same _ (by omega)]
        congr 1
        omega
    | none =>
      have nothing : frames = [] := by
        have past := List.getElem?_eq_none_iff.mp hf
        exact List.length_eq_zero_iff.mp (by omega)
      refine ⟨.empty, ch, ?_, nothing, Nat.zero_le _, cursor, hc, ?_, ?_⟩
      · simp only [Channel.receive?, hc, Option.map_some, behind, if_false, hf]
      · exact sum
      · exact same

theorem receive?_other (h : ch.Owes receiver frames) (ho : reader ≠ receiver)
    (hr : ch.receive? reader = some (reception, next)) : next.Owes receiver frames := by
  obtain ⟨cursor, -, ⟨-, -, rfl⟩ | ⟨-, frame, -, -, rfl⟩ | ⟨-, -, -, rfl⟩⟩ := receive?_inv hr
  · exact h.moveTo ho _
  · exact h.moveTo ho _
  · exact h

end Owes

/-! ### The capacity of a channel -/

theorem exists_roundUp (n : Nat) : ∃ k, roundUp n = 2 ^ k := by
  unfold roundUp
  split
  · exact ⟨0, rfl⟩
  · exact ⟨_, rfl⟩

/-- A number that is rounded up to a power of two stays below the same powers of two. -/
theorem roundUp_le_iff {n k : Nat} : roundUp n ≤ 2 ^ k ↔ n ≤ 2 ^ k := by
  have pos : 1 ≤ 2 ^ k := Nat.one_le_two_pow
  unfold roundUp
  split
  · omega
  · next large =>
    show 2 ^ ((n - 1).log2 + 1) ≤ 2 ^ k ↔ _
    rw [Nat.pow_le_pow_iff_right (by decide), Nat.succ_le_iff, Nat.log2_lt (by omega)]
    omega

theorem le_roundUp (n : Nat) : n ≤ roundUp n := by
  obtain ⟨k, power⟩ := exists_roundUp n
  exact power ▸ roundUp_le_iff.mp power.le

theorem sound_create {requested : Nat} (h : create requested = .ok ch) :
    ch.Sound ∧ ch.capacity = roundUp requested := by
  unfold create at h
  split at h
  · cases h
  · split at h
    · cases h
    · split at h
      · cases h
      · cases h
        exact ⟨⟨Nat.zero_le _, fun h => absurd h (Nat.lt_irrefl 0), fun _ h => nomatch h⟩, rfl⟩

end Channel

theorem Occurrence.Drives.sound {o : Occurrence} {next : Channel} (hd : o.Drives next) (h : o.node.events.Sound) :
    next.Sound ∧ next.capacity = o.node.events.capacity := by
  cases hd with
  | published frame _ _ eq =>
    subst eq
    refine ⟨h.publish frame, ?_⟩
    unfold Channel.publish
    split <;> rfl
  | subscribed _ _ eq =>
    subst eq
    exact ⟨h.subscribe, rfl⟩
  | unsubscribed receiver _ _ _ eq =>
    subst eq
    exact ⟨h.unsubscribe receiver, rfl⟩
  | received reader reception _ _ received =>
    refine ⟨h.receive? received, ?_⟩
    obtain ⟨cursor, -, ⟨-, -, rfl⟩ | ⟨-, frame, -, -, rfl⟩ | ⟨-, -, -, rfl⟩⟩ := Channel.receive?_inv received <;> rfl
  | kept _ _ same =>
    subst same
    exact ⟨h, rfl⟩

/-! ### Following a receiver -/

/-- The number of frames that the receptions of a receiver account for. -/
def takenIn (receiver : Nat) (history : List Occurrence) : Nat :=
  ((receptionsIn receiver history).map Reception.taken).sum

def textsIn (receiver : Nat) (history : List Occurrence) : List String :=
  (receptionsIn receiver history).filterMap Reception.text?

theorem takenIn_concat (receiver : Nat) (history : List Occurrence) (o : Occurrence) :
    takenIn receiver (history ++ [o]) =
      takenIn receiver history + ((o.reception? receiver).map Reception.taken).getD 0 := by
  cases h : o.reception? receiver <;> simp [takenIn, receptionsIn_concat, h]

theorem textsIn_concat (receiver : Nat) (history : List Occurrence) (o : Occurrence) :
    textsIn receiver (history ++ [o]) =
      textsIn receiver history ++ ((o.reception? receiver).bind Reception.text?).toList := by
  cases h : (o.reception? receiver).bind Reception.text? <;>
    cases hr : o.reception? receiver <;> simp_all [textsIn, receptionsIn_concat]

/-- What a receiver got since it subscribed accounts for the first frames that were broadcast since then, and
it is owed the others. -/
structure Accounted (receiver : Nat) (past : List Occurrence) (events : Channel) : Prop where
  within : takenIn receiver past ≤ (framesIn past).length
  owes : events.Owes receiver ((framesIn past).drop (takenIn receiver past))
  texts : (textsIn receiver past).Sublist ((framesIn past).take (takenIn receiver past))

theorem Reception.fits_at {taken : Nat} {frames : List String} (within : taken ≤ frames.length) (capacity : Nat)
    (reception : Reception) : reception.Fits capacity (frames.drop taken) →
    match reception with
    | .frame text => frames[taken]? = some text
    | .lagged missed => 1 ≤ missed ∧ capacity < frames.length - taken ∧ frames.length - (taken + missed) = capacity
    | .empty => taken = frames.length := by
  intro h
  cases reception with
  | frame text => simpa [Fits] using h
  | lagged missed =>
    obtain ⟨some, more, left⟩ := h
    rw [List.length_drop] at more left
    exact ⟨some, more, by omega⟩
  | empty =>
    have none : (frames.drop taken).length = 0 := congrArg List.length h
    rw [List.length_drop] at none
    show taken = frames.length
    omega

theorem Reception.Fits.texts {capacity : Nat} {owed : List String} {reception : Reception}
    (h : reception.Fits capacity owed) : reception.text?.toList.Sublist (owed.take reception.taken) := by
  cases reception with
  | frame text =>
    cases owed with
    | nil => cases h
    | cons first rest =>
      cases h
      exact List.Sublist.refl _
  | _ => exact List.nil_sublist _

namespace Accounted

variable {receiver : Nat} {past : List Occurrence} {o : Occurrence} {events next : Channel}

theorem quiet (h : Accounted receiver past events) (unsent : o.frame? = none)
    (unread : o.reception? receiver = none)
    (owes : next.Owes receiver ((framesIn past).drop (takenIn receiver past))) :
    Accounted receiver (past ++ [o]) next where
  within := by simpa [framesIn_concat, takenIn_concat, unsent, unread] using h.within
  owes := by simpa [framesIn_concat, takenIn_concat, unsent, unread] using owes
  texts := by simpa [framesIn_concat, takenIn_concat, textsIn_concat, unsent, unread] using h.texts

theorem publish (h : Accounted receiver past events) (sound : events.Sound) {frame : String}
    (sent : o.frame? = some frame) (unread : o.reception? receiver = none) :
    Accounted receiver (past ++ [o]) (events.publish frame).2 := by
  have frames : framesIn (past ++ [o]) = framesIn past ++ [frame] := by simp [framesIn_concat, sent]
  have taken : takenIn receiver (past ++ [o]) = takenIn receiver past := by simp [takenIn_concat, unread]
  have texts : textsIn receiver (past ++ [o]) = textsIn receiver past := by simp [textsIn_concat, unread]
  refine ⟨?_, ?_, ?_⟩
  · rw [taken, frames, List.length_append]
    exact Nat.le_add_right_of_le h.within
  · rw [taken, frames, List.drop_append_of_le_length h.within]
    exact h.owes.publish sound frame
  · rw [taken, frames, texts, List.take_append_of_le_length h.within]
    exact h.texts

theorem receive? (h : Accounted receiver past events) (sound : events.Sound) (unsent : o.frame? = none)
    {reception : Reception} (read : o.reception? receiver = some reception)
    (received : events.receive? receiver = some (reception, next)) : Accounted receiver (past ++ [o]) next := by
  obtain ⟨got, after, hr, fits, le, owes⟩ := h.owes.receive? sound
  obtain ⟨rfl, rfl⟩ := Prod.mk.inj (Option.some.inj (received.symm.trans hr))
  have frames : framesIn (past ++ [o]) = framesIn past := by simp [framesIn_concat, unsent]
  have taken : takenIn receiver (past ++ [o]) = takenIn receiver past + reception.taken := by
    simp [takenIn_concat, read]
  have texts : textsIn receiver (past ++ [o]) = textsIn receiver past ++ reception.text?.toList := by
    simp [textsIn_concat, read]
  have within := h.within
  rw [List.length_drop] at le
  refine ⟨?_, ?_, ?_⟩
  · rw [taken, frames]
    omega
  · rw [taken, frames, ← List.drop_drop]
    exact owes
  · rw [taken, frames, texts, List.take_add]
    exact h.texts.append fits.texts

theorem drives (h : Accounted receiver past o.node.events) (sound : o.node.events.Sound) (hd : o.Drives next)
    (there : o.operation ≠ .unsubscribe receiver) : Accounted receiver (past ++ [o]) next := by
  cases hd with
  | published frame sent unread eq => exact eq ▸ h.publish sound sent (unread receiver)
  | subscribed unsent unread eq => exact h.quiet unsent (unread receiver) (eq ▸ h.owes.subscribe)
  | unsubscribed other operation unsent unread eq =>
    have apart : other ≠ receiver := fun same => there (same ▸ operation)
    exact h.quiet unsent (unread receiver) (eq ▸ h.owes.unsubscribe apart)
  | received reader reception unsent read received =>
    by_cases own : reader = receiver
    · subst own
      exact h.receive? sound unsent ((read reader).trans (if_pos rfl)) received
    · exact h.quiet unsent ((read receiver).trans (if_neg own)) (h.owes.receive?_other own received)
  | kept unsent unread same => exact h.quiet unsent (unread receiver) (same ▸ h.owes)

end Accounted

namespace Node

theorem sound_operateAll {node : Node} (h : node.events.Sound) (operations : List Operation) :
    (node.operateAll operations).2.events.Sound ∧
      (node.operateAll operations).2.events.capacity = node.events.capacity := by
  refine operateAll_run (fun _ next => next.events.Sound ∧ next.events.capacity = node.events.capacity) ?_ ⟨h, rfl⟩
  intro operation _ past next ⟨sound, size⟩
  obtain ⟨after, same⟩ := (next.drives_operate operation).sound sound
  exact ⟨after, same.trans size⟩

theorem accounted_operateAll {node : Node} (sound : node.events.Sound) {operations : List Operation}
    (there : .unsubscribe node.events.subscribe.1 ∉ operations) :
    let run := (node.operate .subscribe).2.operateAll operations
    Accounted node.events.subscribe.1 run.1 run.2.events := by
  intro run
  have start : Accounted node.events.subscribe.1 [] (node.operate .subscribe).2.events :=
    ⟨Nat.le_refl 0, .of_subscribe sound, List.Sublist.refl _⟩
  have step : ∀ operation ∈ operations, ∀ past (next : Node),
      next.events.Sound ∧ Accounted node.events.subscribe.1 past next.events →
        (next.operate operation).2.events.Sound ∧
          Accounted node.events.subscribe.1 (past ++ [next.occurrence operation])
            (next.operate operation).2.events := by
    intro operation ho past next ⟨sound, h⟩
    have hd := next.drives_operate operation
    exact ⟨(hd.sound sound).1, h.drives sound hd fun same => there (same ▸ ho)⟩
  exact (operateAll_run _ step ⟨sound.subscribe, start⟩).2

/-! ### Broadcasts -/

theorem frame?_of_added {node : Node} {operation : Operation} {newcomer : Author} {entry : AddressBook.Entry}
    {event : ContactAdded} (h : operation = .command (.add newcomer entry))
    (accepted : (node.occurrence operation).upshot = .replied (.added event)) :
    (node.occurrence operation).frame? = some
      ("\x7b\"type\":\"event\",\"name\":\"ContactAddedEvent\",\"data\":\x7b\"contactId\":" ++
        event.contactId.display ++ ",\"verified\":" ++ (if entry.verified then "true" else "false") ++
        "\x7d\x7d") := by
  subst h
  cases ha : node.contacts.add newcomer entry with
  | error e =>
    simp only [occurrence, operate, perform_add_error ha] at accepted
    cases accepted
  | ok added =>
    simp only [occurrence, operate, perform_add_ok ha] at accepted
    cases accepted
    obtain ⟨-, -, id, -, verified, -⟩ := AddressBook.add_inv ha
    simp only [occurrence, Occurrence.frame?, Occurrence.admission?, operate, perform_add_ok ha, Option.map_some,
      ContactAdded.frame_eq, verified]

theorem journal_operateAll {node : Node} {number : Nat} {journal : List ContactAdded}
    (h : node.journals[number]? = some journal) (operations : List Operation) :
    (node.operateAll operations).2.journals[number]? =
      some (journal ++ (admissionsIn (node.operateAll operations).1).map (·.event)) := by
  refine operateAll_run
    (fun past next => next.journals[number]? = some (journal ++ (admissionsIn past).map (·.event))) ?_ ?_
  · intro operation _ past next ih
    rw [journal_operate ih, admissionsIn_concat, List.map_append, List.append_assoc]
  · simpa [admissionsIn] using h

/-- The frames that are broadcast through a node and what its receivers get. The capacity of the channel is the
least power of two that is not below the one asked for. The receptions of a receiver account one after the other
for the frames that were broadcast since it subscribed: a frame is the next of them, and a lag passes over as many
as it says, so that exactly the capacity of the channel is left; it comes only when more than that are left, and
nothing comes only when none are left. An accepted addition broadcasts the frame that announces its contact, and
besides direct broadcasts nothing else broadcasts anything. A journal has the accepted additions since it was
opened. -/
theorem frames_accounted {author : Author} {requested : Nat} {first : Node}
    (made : ofAuthor author requested = .ok first) (earlier since : List Operation) :
    let node := (first.operateAll earlier).2
    let capacity := Channel.roundUp requested
    -- how many frames the channel holds
    (requested ≤ capacity ∧ (∃ k, capacity = 2 ^ k) ∧ ∀ k, requested ≤ 2 ^ k → capacity ≤ 2 ^ k) ∧
    -- what a receiver gets
    (∃ receiver, (node.operate .subscribe).1 = .subscribed receiver ∧ (.unsubscribe receiver ∉ since →
      let history := ((node.operate .subscribe).2.operateAll since).1
      let next := ((node.operate .subscribe).2.operateAll since).2
      let frames := framesIn history
      let taken := takenIn receiver history
      taken ≤ frames.length ∧ (textsIn receiver history).Sublist (frames.take taken) ∧
        ∃ reception, (next.operate (.read receiver)).1 = .read (some reception) ∧
          match reception with
          | .frame text => frames[taken]? = some text
          | .lagged missed => 1 ≤ missed ∧ capacity < frames.length - taken ∧
              frames.length - (taken + missed) = capacity
          | .empty => taken = frames.length)) ∧
    -- what is broadcast
    (∀ o ∈ (first.operateAll earlier).1,
      (∀ newcomer entry event, o.operation = .command (.add newcomer entry) →
        o.upshot = .replied (.added event) → o.frame? = some
          ("\x7b\"type\":\"event\",\"name\":\"ContactAddedEvent\",\"data\":\x7b\"contactId\":" ++
            event.contactId.display ++ ",\"verified\":" ++ (if entry.verified then "true" else "false") ++
            "\x7d\x7d")) ∧
      ((∀ frame, o.operation ≠ .publish frame) → o.admission? = none → o.frame? = none)) ∧
    -- what is written into a journal
    (∃ journal, (node.operate .listen).1 = .listening journal ∧
      ((node.operate .listen).2.operateAll since).2.journals[journal]? =
        some ((admissionsIn ((node.operate .listen).2.operateAll since).1).map (·.event))) := by
  intro node capacity
  have fresh : first.events.Sound ∧ first.events.capacity = capacity := by
    unfold ofAuthor at made
    split at made
    · next channel created =>
      cases made
      exact Channel.sound_create created
    · cases made
  obtain ⟨sound, size⟩ := sound_operateAll fresh.1 earlier
  refine ⟨⟨Channel.le_roundUp _, Channel.exists_roundUp _, fun k => Channel.roundUp_le_iff.mpr⟩,
    ⟨node.events.subscribe.1, rfl, fun there => ?_⟩, ?_, ⟨node.journals.length, rfl, ?_⟩⟩
  · intro history next frames taken
    have accounted : Accounted node.events.subscribe.1 history next.events := accounted_operateAll sound there
    have opened : (node.operate .subscribe).2.events.Sound := sound.subscribe
    obtain ⟨sound, same⟩ := sound_operateAll opened since
    have full : next.events.capacity = capacity := same.trans (size.trans fresh.2)
    obtain ⟨reception, after, received, fits, -, -⟩ := accounted.owes.receive? sound
    refine ⟨accounted.within, accounted.texts, reception, ?_, ?_⟩
    · simp only [operate, received]
    · rw [full] at fits
      exact reception.fits_at accounted.within capacity fits
  · intro o ho
    rw [mem_operateAll ho]
    refine ⟨fun newcomer entry event => frame?_of_added, fun direct quiet => ?_⟩
    unfold Occurrence.frame?
    split
    · next frame published => exact absurd published (direct frame)
    · rw [quiet, Option.map_none]
  · have opened : (node.operate .listen).2.journals[node.journals.length]? = some [] := by
      simp [operate, openJournal]
    exact journal_operateAll opened since

theorem reception?_read {node : Node} {receiver : Nat} {reception? : Option Reception}
    (h : (node.operate (.read receiver)).1 = .read reception?) :
    (node.occurrence (.read receiver)).reception? receiver = reception? := by
  simp only [occurrence, Occurrence.reception?, h, if_true]

/-- A node whose channel was made for three frames and holds four. A receiver gets one frame, and then a contact
is added and four frames are broadcast before it reads again. -/
theorem frames_accounted_of_lag :
    let first := start (plainAuthor "Me" 1) ⟨4, 0, [], [], 0⟩
    let opened := ((first.operateAll [.publish "lost"]).2.operate .subscribe).2
    let since : List Operation := [.publish "a", .read 0, .command (.add (plainAuthor "Ann" 2) ⟨true, none, none⟩),
      .publish "b", .publish "c", .publish "d", .publish "e"]
    ofAuthor (plainAuthor "Me" 1) 3 = .ok first ∧ .unsubscribe 0 ∉ since ∧
      ((framesIn (opened.operateAll since).1).length = 6 ∧ takenIn 0 (opened.operateAll since).1 = 1) ∧
      ∃ missed, ((opened.operateAll since).2.operate (.read 0)).1 = .read (some (.lagged missed)) ∧
        1 ≤ missed ∧ 4 < 6 - 1 ∧ 6 - (1 + missed) = 4 := by
  intro first opened since
  have made : ofAuthor (plainAuthor "Me" 1) 3 = .ok first := by
    have created : Channel.create 3 = .ok ⟨4, 0, [], [], 0⟩ := by decide +kernel
    rw [ofAuthor, created]
  have there : .unsubscribe 0 ∉ since := by simp [since]
  obtain ⟨-, ⟨receiver, number, gets⟩, -, -⟩ := frames_accounted made [.publish "lost"] since
  cases (show 0 = receiver from Upshot.subscribed.inj number)
  obtain ⟨-, -, reception, got, fits⟩ := gets there
  have sizes : (framesIn (opened.operateAll since).1).length = 6 ∧ takenIn 0 (opened.operateAll since).1 = 1 := by
    decide +kernel
  have read : ((opened.operateAll since).2.occurrence (.read 0)).reception? 0 = some (.lagged 1) := by decide +kernel
  have same : ((opened.operateAll since).2.occurrence (.read 0)).reception? 0 = some reception := reception?_read got
  cases Option.some.inj (read.symm.trans same)
  obtain ⟨some, more, left⟩ := fits
  have size : Channel.roundUp 3 = 4 := by decide +kernel
  rw [sizes.1, sizes.2, size] at more left
  exact ⟨made, there, sizes, 1, got, some, more, left⟩

end Node

end PeerPost
