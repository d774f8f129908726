import PeerPost.Proofs.Commands
import PeerPost.Proofs.Dialogues

/-! # Writers at the same time

A crowd is a node with any number of writes under way. It moves by one call of one writer at a time, in
any order: a write may begin or be abandoned between any two calls, and commands to the node and changes
of the clock may come between them. A writer that asks for the turn of a group waits while another one has
it. The log of a crowd has every call of a writer that was answered.

`WriterStage` says where a writer is: the calls that it has made, what is left of it, and the turn that it has. -/

namespace PeerPost

/-- Makes the next call of a dialogue: the call, what is left after the answer, and the state after it. -/
def Dialogue.advance {α σ : Type} (answer : (c : Call) → σ → c.Answer × σ) :
    Dialogue α → σ → Option (Call × Dialogue α × σ)
  | .done _, _ => none
  | .ask c next, s => some (c, next (answer c s).1, (answer c s).2)

/-- The turn that a writer has after a call. -/
def Call.turnAfter (turn? : Option GroupId) : Call → Option GroupId
  | .takeTurn g => some g
  | .endTurn _ => none
  | _ => turn?

/-- After a call a writer has a turn that it had before or that it asked for. -/
theorem Call.turnAfter_inv {call : Call} {turn? : Option GroupId} {group : GroupId}
    (h : call.turnAfter turn? = some group) : turn? = some group ∨ call.turn? = some group := by
  cases call with
  | takeTurn g => exact Or.inr h
  | endTurn g => cases h
  | _ => exact Or.inl h

/-- A write under way. `left?` is empty once it was abandoned, and `turn?` is the group whose turn it has. -/
structure Writer where
  id : ContactId
  text : String
  left? : Option (Dialogue (Except WriteError WrittenMessage))
  turn? : Option GroupId

/-- A call of a writer that was answered by a node at a time. -/
structure Exchange where
  writer : Nat
  call : Call
  node : Node
  clock : Timestamp

/-- A node with writes under way. The log has the calls that were answered, the oldest first. -/
structure Crowd where
  node : Node
  clock : Timestamp
  writers : List Writer
  log : List Exchange

/-- A move of a crowd. -/
inductive Move where
  | enter (id : ContactId) (text : String)
  | proceed (i : Nat)
  | abandon (i : Nat)
  | setClock (time : Timestamp)
  | perform (command : Command)

namespace Crowd

/-- A node without writes under way. -/
def start (node : Node) (clock : Timestamp) : Crowd := ⟨node, clock, [], []⟩

/-- Whether a call has to wait, because it asks for the turn of a group that a writer has. -/
def waits (crowd : Crowd) (call : Call) : Bool :=
  call.turn?.isSome && crowd.writers.any fun w => w.turn? = call.turn?

/-- The crowd after a call of a writer was answered, with what is left of the write and the node after it. -/
def answered (crowd : Crowd) (i : Nat) (w : Writer) (call : Call) (rest : Dialogue (Except WriteError WrittenMessage))
    (node : Node) : Crowd :=
  { crowd with
    node := node
    writers := crowd.writers.set i { w with left? := some rest, turn? := call.turnAfter w.turn? }
    log := crowd.log ++ [⟨i, call, crowd.node, crowd.clock⟩] }

/-- Makes the next call of a writer, unless it has ended or has to wait. -/
def proceed (crowd : Crowd) (i : Nat) : Crowd :=
  match crowd.writers[i]? with
  | none => crowd
  | some w =>
    match w.left?.bind fun left => left.advance (Node.answer crowd.clock) crowd.node with
    | none => crowd
    | some (call, rest, node) => if crowd.waits call then crowd else crowd.answered i w call rest node

/-- Makes a move. A move that is not possible changes nothing. -/
def make (crowd : Crowd) : Move → Crowd
  | .enter id text => { crowd with writers := crowd.writers ++ [⟨id, text, some (Writing.write id text), none⟩] }
  | .proceed i => crowd.proceed i
  | .abandon i => { crowd with writers := crowd.writers.modify i fun w => { w with left? := none, turn? := none } }
  | .setClock time => { crowd with clock := time }
  | .perform command => { crowd with node := (crowd.node.perform command).2 }

/-- Makes moves one after the other. -/
def makeAll (crowd : Crowd) (moves : List Move) : Crowd :=
  moves.foldl make crowd

/-- The next call of a writer, which does not have to wait, with what is left of the write and the node after
it. -/
structure Answers (crowd : Crowd) (i : Nat) (w : Writer) (call : Call)
    (rest : Dialogue (Except WriteError WrittenMessage)) (node : Node) : Prop where
  writer : crowd.writers[i]? = some w
  free : crowd.waits call = false
  advance : ∃ left, w.left? = some left ∧
    left.advance (Node.answer crowd.clock) crowd.node = some (call, rest, node)

variable {crowd : Crowd} {i : Nat} {w : Writer} {call : Call} {node : Node}
  {rest : Dialogue (Except WriteError WrittenMessage)}

theorem proceed_inv (crowd : Crowd) (i : Nat) : crowd.proceed i = crowd ∨
    ∃ w call rest node, crowd.Answers i w call rest node ∧
      crowd.proceed i = crowd.answered i w call rest node := by
  unfold proceed
  split
  · exact Or.inl rfl
  · next w hw =>
    split
    · exact Or.inl rfl
    · next call rest node ha =>
      split
      · exact Or.inl rfl
      · next free => exact Or.inr ⟨w, call, rest, node, ⟨hw, by simpa using free, Option.bind_eq_some_iff.mp ha⟩, rfl⟩

theorem writer_enter_inv {id : ContactId} {text : String}
    (h : (crowd.make (.enter id text)).writers[i]? = some w) :
    crowd.writers[i]? = some w ∨ i = crowd.writers.length ∧ w = ⟨id, text, some (Writing.write id text), none⟩ := by
  rw [make, List.getElem?_append] at h
  split at h
  · exact Or.inl h
  · next old =>
    rw [List.getElem?_singleton] at h
    split at h
    · next last =>
      cases h
      exact Or.inr ⟨by omega, rfl⟩
    · cases h

theorem writer_abandon_inv {j : Nat} (h : (crowd.make (.abandon i)).writers[j]? = some w) :
    ∃ v, crowd.writers[j]? = some v ∧ (w = v ∨ w = { v with left? := none, turn? := none }) := by
  rw [make, List.getElem?_modify] at h
  obtain ⟨v, hv, rfl⟩ := Option.map_eq_some_iff.mp h
  refine ⟨v, hv, ?_⟩
  split
  · exact Or.inr rfl
  · exact Or.inl rfl

theorem Answers.node_eq (a : crowd.Answers i w call rest node) :
    node = { crowd.node with archive := call.stored?.toList.foldl Archive.store crowd.node.archive } := by
  obtain ⟨left, -, ha⟩ := a.advance
  cases left with
  | done result => cases ha
  | ask c next =>
    rw [Dialogue.advance, Option.some.injEq, Prod.mk.injEq, Prod.mk.injEq] at ha
    obtain ⟨rfl, -, rfl⟩ := ha
    exact Node.answer_node _ _ _

theorem Answers.continues (a : crowd.Answers i w call rest node) : crowd.node.contacts.Continues node.contacts := by
  rw [a.node_eq]
  exact .refl _

theorem writer_answered_inv {j : Nat} {v : Writer} (h : (crowd.answered i w call rest node).writers[j]? = some v) :
    (i = j ∧ v = { w with left? := some rest, turn? := call.turnAfter w.turn? }) ∨
      (i ≠ j ∧ crowd.writers[j]? = some v) := by
  rw [Crowd.answered, List.getElem?_set] at h
  split at h
  · next e =>
    split at h
    · cases h
      exact Or.inl ⟨e, rfl⟩
    · cases h
  · next e => exact Or.inr ⟨e, h⟩

end Crowd

/-! ### The log -/

namespace Exchange

/-- The message that was stored. -/
def stored? (e : Exchange) : Option StoredMessage :=
  e.call.stored?

/-- The counters of a group were read. -/
def Counts (e : Exchange) (group : GroupId) : Prop :=
  ∃ id contact, e.call = .count id ∧ e.node.contacts.find? id = some contact ∧ contact.group = group

end Exchange

/-- The calls that a writer has made. -/
def callsOf (log : List Exchange) (i : Nat) : List Call :=
  (log.filter (·.writer = i)).map (·.call)

/-- The messages that writers have stored, the oldest first. -/
def storedInLog (log : List Exchange) : List StoredMessage :=
  log.filterMap Exchange.stored?

/-- The headers that writers have added to a group. -/
def addedTo (log : List Exchange) (group : GroupId) : List MessageHeader :=
  ((storedInLog log).map (·.header)).filter (·.groupId = group)

theorem callsOf_append (log : List Exchange) (e : Exchange) (i : Nat) :
    callsOf (log ++ [e]) i = if e.writer = i then callsOf log i ++ [e.call] else callsOf log i := by
  by_cases h : e.writer = i <;> simp [callsOf, List.filter_append, h]

theorem storedInLog_append (log : List Exchange) (e : Exchange) :
    storedInLog (log ++ [e]) = storedInLog log ++ e.stored?.toList := by
  rw [storedInLog, List.filterMap_append]
  cases h : e.stored? <;> simp [storedInLog, h]

theorem addedTo_append (log : List Exchange) (e : Exchange) (group : GroupId) :
    addedTo (log ++ [e]) group =
      addedTo log group ++ ((e.stored?.toList.map (·.header)).filter (·.groupId = group)) := by
  rw [addedTo, storedInLog_append, List.map_append, List.filter_append]
  rfl

/-! ### Stages of a write -/

/-- A contact that was found is still there, with the same group. -/
def Admitted (node : Node) (contact : Contact) : Prop :=
  ∃ found, node.contacts.find? contact.id = some found ∧ found.group = contact.group

theorem Admitted.continues {node next : Node} {contact : Contact} (h : Admitted node contact)
    (hc : node.contacts.Continues next.contacts) : Admitted next contact := by
  obtain ⟨found, hf, hg⟩ := h
  obtain ⟨again, ha, hag⟩ := hc.group hf
  exact ⟨again, ha, hag.trans hg⟩

/-- A message has the text of a write and belongs to the group of its contact. -/
def Addressed (node : Node) (id : ContactId) (text : String) (m : StoredMessage) : Prop :=
  m.text.text = text ∧ ∃ contact, node.contacts.find? id = some contact ∧ contact.group = m.header.groupId

theorem Addressed.continues {node next : Node} {id : ContactId} {text : String} {m : StoredMessage}
    (h : Addressed node id text m) (hc : node.contacts.Continues next.contacts) : Addressed next id text m := by
  obtain ⟨content, contact, hf, hg⟩ := h
  obtain ⟨again, ha, hag⟩ := hc.group hf
  exact ⟨content, again, ha, hag.trans hg⟩

/-- A writer has read the counters of a group in this exchange, and no writer has sent to the group since. -/
structure Reading (log : List Exchange) (i : Nat) (group : GroupId) (e : Exchange) : Prop where
  writer : e.writer = i
  counts : e.Counts group
  since : ∃ k, log[k]? = some e ∧ ∀ later ∈ log.drop k, ∀ m, later.stored? = some m → m.header.groupId ≠ group

/-- Where a write of a text to a contact is: the calls that it has made, what is left of it, and the turn
that it has. -/
inductive WriterStage (node : Node) (log : List Exchange) (i : Nat) (id : ContactId) (text : String) :
    List Call → Option (Dialogue (Except WriteError WrittenMessage)) → Option GroupId → Prop
  | entered : WriterStage node log i id text [] (some (Writing.write id text)) none
  | failed {e : WriteError} : WriterStage node log i id text [.contact id] (some (.done (.error e))) none
  | found {contact : Contact} {checked : MessageText} (here : Admitted node contact) (number : contact.id = id)
      (content : checked.text = text) :
      WriterStage node log i id text [.contact id] (some (Writing.toContact contact checked)) none
  | grouped {contact : Contact} {checked : MessageText} (here : Admitted node contact) (number : contact.id = id)
      (content : checked.text = text) :
      WriterStage node log i id text [.contact id, .group contact]
        (some (Writing.toGroup contact checked contact.group)) none
  | inTurn {contact : Contact} {checked : MessageText} (here : Admitted node contact) (number : contact.id = id)
      (content : checked.text = text) :
      WriterStage node log i id text [.contact id, .group contact, .takeTurn contact.group]
        (some (Writing.inTurn contact contact.group checked)) (some contact.group)
  | counted {contact : Contact} {checked : MessageText} {e : Exchange} (here : Admitted node contact)
      (number : contact.id = id) (content : checked.text = text) (reading : Reading log i contact.group e) :
      WriterStage node log i id text [.contact id, .group contact, .takeTurn contact.group, .count contact.id]
        (some (Writing.pickTime contact contact.group checked (e.node.archive.count contact.group)))
        (some contact.group)
  | timed {contact : Contact} {checked : MessageText} {e t : Exchange} (here : Admitted node contact)
      (number : contact.id = id) (content : checked.text = text) (reading : Reading log i contact.group e)
      (asked : t.writer = i ∧ t.call = .now) (order : [e, t].Sublist log) :
      WriterStage node log i id text [.contact id, .group contact, .takeTurn contact.group, .count contact.id, .now]
        (some (Writing.send contact
          ⟨contact.group, (e.node.archive.count contact.group).nextTime t.clock, checked⟩))
        (some contact.group)
  | sent {contact : Contact} {m : OutgoingMessage} (number : contact.id = id)
      (mine : Addressed node id text (Archive.outgoing m)) :
      WriterStage node log i id text [.contact id, .group contact, .takeTurn m.groupId, .count contact.id, .now,
          .send m]
        (some (Writing.finish m.groupId (.ok ⟨id, (Archive.outgoing m).header, m.text⟩)))
        (some m.groupId)
  | ended {contact : Contact} {m : OutgoingMessage} (number : contact.id = id)
      (mine : Addressed node id text (Archive.outgoing m)) :
      WriterStage node log i id text [.contact id, .group contact, .takeTurn m.groupId, .count contact.id, .now,
          .send m, .endTurn m.groupId]
        (some (.done (.ok ⟨id, (Archive.outgoing m).header, m.text⟩))) none
  | abandoned {calls : List Call} (few : (calls.filterMap Call.stored?).length ≤ 1)
      (mine : ∀ m ∈ calls.filterMap Call.stored?, Addressed node id text m) :
      WriterStage node log i id text calls none none

namespace Reading

variable {log : List Exchange} {i : Nat} {group : GroupId} {e : Exchange}

theorem mem (h : Reading log i group e) : e ∈ log := by
  obtain ⟨k, hk, -⟩ := h.since
  exact List.mem_of_getElem? hk

theorem append (h : Reading log i group e) {last : Exchange}
    (quiet : ∀ m, last.stored? = some m → m.header.groupId ≠ group) : Reading (log ++ [last]) i group e := by
  refine ⟨h.writer, h.counts, ?_⟩
  obtain ⟨k, hk, hs⟩ := h.since
  have bound : k < log.length := (List.getElem?_eq_some_iff.mp hk).1
  refine ⟨k, by rw [List.getElem?_append_left bound, hk], ?_⟩
  intro later hl m hm
  rw [List.drop_append_of_le_length (le_of_lt bound)] at hl
  rcases List.mem_append.mp hl with hl | hl
  · exact hs later hl m hm
  · rw [List.mem_singleton.mp hl] at hm
    exact quiet m hm

/-- The counters have just been read. -/
theorem of_last (log : List Exchange) (last : Exchange) (hc : last.Counts group) :
    Reading (log ++ [last]) last.writer group last := by
  refine ⟨rfl, hc, log.length, ?_, ?_⟩
  · rw [List.getElem?_append_right (le_refl _), Nat.sub_self, List.getElem?_cons_zero]
  · intro later hl m hm
    rw [List.drop_left, List.mem_singleton] at hl
    obtain ⟨id, contact, hcall, -⟩ := hc
    rw [hl, Exchange.stored?, hcall] at hm
    cases hm

end Reading

namespace WriterStage

variable {node : Node} {log : List Exchange} {i : Nat} {id : ContactId} {text : String} {calls : List Call}
  {left? : Option (Dialogue (Except WriteError WrittenMessage))} {turn? : Option GroupId}

/-- A writer stays where it is when contacts are added or renamed. -/
theorem continues (h : WriterStage node log i id text calls left? turn?) {next : Node}
    (hc : node.contacts.Continues next.contacts) : WriterStage next log i id text calls left? turn? := by
  cases h with
  | entered => exact .entered
  | failed => exact .failed
  | found here number content => exact .found (here.continues hc) number content
  | grouped here number content => exact .grouped (here.continues hc) number content
  | inTurn here number content => exact .inTurn (here.continues hc) number content
  | counted here number content reading => exact .counted (here.continues hc) number content reading
  | timed here number content reading asked order =>
    exact .timed (here.continues hc) number content reading asked order
  | sent number mine => exact .sent number (mine.continues hc)
  | ended number mine => exact .ended number (mine.continues hc)
  | abandoned few mine => exact .abandoned few fun m hm => (mine m hm).continues hc

/-- A writer stays where it is when another one makes a call that does not send to the group whose turn it
has. -/
theorem append (h : WriterStage node log i id text calls left? turn?) {last : Exchange}
    (quiet : ∀ m, last.stored? = some m → turn? ≠ some m.header.groupId) :
    WriterStage node (log ++ [last]) i id text calls left? turn? := by
  cases h with
  | entered => exact .entered
  | failed => exact .failed
  | found here number content => exact .found here number content
  | grouped here number content => exact .grouped here number content
  | inTurn here number content => exact .inTurn here number content
  | counted here number content reading =>
    exact .counted here number content (reading.append fun m hm he => quiet m hm (congrArg some he.symm))
  | timed here number content reading asked order =>
    exact .timed here number content (reading.append fun m hm he => quiet m hm (congrArg some he.symm)) asked
      (order.trans (List.sublist_append_left _ _))
  | sent number mine => exact .sent number mine
  | ended number mine => exact .ended number mine
  | abandoned few mine => exact .abandoned few mine

/-- A writer stores at most one message. -/
theorem few (h : WriterStage node log i id text calls left? turn?) : (calls.filterMap Call.stored?).length ≤ 1 := by
  cases h with
  | abandoned few => exact few
  | _ => exact Nat.le_of_ble_eq_true rfl

/-- What a writer stores has its text and belongs to the group of its contact. -/
theorem addressed (h : WriterStage node log i id text calls left? turn?) :
    ∀ m ∈ calls.filterMap Call.stored?, Addressed node id text m := by
  cases h with
  | sent number mine =>
    intro m hm
    rw [List.mem_singleton.mp hm]
    exact mine
  | ended number mine =>
    intro m hm
    rw [List.mem_singleton.mp hm]
    exact mine
  | abandoned few mine => exact mine
  | _ =>
    intro m hm
    cases hm

/-- A call takes a writer that is under way to its next stage. -/
theorem advance {left rest : Dialogue (Except WriteError WrittenMessage)} {call : Call} {next : Node}
    {clock : Timestamp} (h : WriterStage node log i id text calls (some left) turn?)
    (ha : left.advance (Node.answer clock) node = some (call, rest, next)) :
    WriterStage next (log ++ [⟨i, call, node, clock⟩]) i id text (calls ++ [call]) (some rest)
      (call.turnAfter turn?) := by
  cases h with
  | entered =>
    simp only [Dialogue.advance, Writing.write, Node.answer, Option.some.injEq, Prod.mk.injEq] at ha
    obtain ⟨rfl, rfl, rfl⟩ := ha
    cases hg : node.contacts.get id with
    | error e => exact .failed
    | ok contact =>
      have found := AddressBook.get_eq_ok_iff.mp hg
      have number := (AddressBook.find?_inv found).2
      cases ht : MessageText.ofString text with
      | error e => exact .failed
      | ok checked =>
        refine .found ⟨contact, ?_, rfl⟩ number (MessageText.text_of_ofString ht)
        rw [number]
        exact found
  | failed => cases ha
  | found here number content =>
    cases ha
    exact .grouped here number content
  | grouped here number content =>
    cases ha
    exact .inTurn here number content
  | @inTurn contact checked here number content =>
    obtain ⟨found, hf, hg⟩ := here
    have count : node.count contact.id = .ok (node.archive.count contact.group) := by
      rw [Node.count_of_find? hf, hg]
    simp only [Dialogue.advance, Writing.inTurn, Node.answer, count, Option.some.injEq, Prod.mk.injEq] at ha
    obtain ⟨rfl, rfl, rfl⟩ := ha
    have reading := Reading.of_last log ⟨i, .count contact.id, node, clock⟩ ⟨contact.id, found, rfl, hf, hg⟩
    exact .counted (e := ⟨i, .count contact.id, node, clock⟩) ⟨found, hf, hg⟩ number content reading
  | @counted contact checked e here number content reading =>
    cases ha
    have unsent : ∀ m, Exchange.stored? ⟨i, .now, node, clock⟩ = some m → m.header.groupId ≠ contact.group := by
      intro m hm
      cases hm
    refine .timed (t := ⟨i, .now, node, clock⟩) here number content (reading.append unsent) ⟨rfl, rfl⟩ ?_
    exact (List.singleton_sublist.mpr reading.mem).append (List.Sublist.refl _)
  | @timed contact checked e t here number content reading asked order =>
    simp only [Dialogue.advance, Writing.send, Node.answer, Node.send_eq, Option.some.injEq, Prod.mk.injEq] at ha
    obtain ⟨rfl, rfl, rfl⟩ := ha
    subst number
    exact .sent (m := ⟨contact.group, (e.node.archive.count contact.group).nextTime t.clock, checked⟩) rfl
      ⟨content, here⟩
  | sent number mine =>
    cases ha
    exact .ended number mine
  | ended => cases ha

/-- A writer that sends has the turn of the group, has read its counters and the clock, and picked the time of
the message from them. -/
theorem send_inv {left rest : Dialogue (Except WriteError WrittenMessage)} {call : Call} {next : Node}
    {clock : Timestamp} {m : StoredMessage} (h : WriterStage node log i id text calls (some left) turn?)
    (ha : left.advance (Node.answer clock) node = some (call, rest, next)) (hm : call.stored? = some m) :
    turn? = some m.header.groupId ∧ ∃ e t, Reading log i m.header.groupId e ∧ (t.writer = i ∧ t.call = .now) ∧
      [e, t].Sublist log ∧ m.header.timestamp = (e.node.archive.count m.header.groupId).nextTime t.clock := by
  cases h with
  | timed here number content reading asked order =>
    simp only [Dialogue.advance, Writing.send, Option.some.injEq, Prod.mk.injEq] at ha
    obtain ⟨rfl, -, -⟩ := ha
    cases hm
    exact ⟨rfl, _, _, reading, asked, order, rfl⟩
  | failed => cases ha
  | ended => cases ha
  | _ =>
    -- The call is none that stores.
    cases ha
    cases hm

/-- A writer that has read counters and not sent yet has the turn of the group of these counters. -/
theorem turn_of_count {call : Call} {next : call.Answer → Dialogue (Except WriteError WrittenMessage)}
    (h : WriterStage node log i id text calls (some (.ask call next)) turn?) {number : ContactId}
    (hc : .count number ∈ calls) (quiet : calls.filterMap Call.stored? = []) :
    ∃ found, node.contacts.find? number = some found ∧ turn? = some found.group := by
  cases h with
  | @counted contact checked e here id_eq content reading =>
    have same : number = contact.id := by simpa using hc
    obtain ⟨found, hf, hg⟩ := here
    exact ⟨found, same ▸ hf, congrArg some hg.symm⟩
  | @timed contact checked e t here id_eq content reading asked order =>
    have same : number = contact.id := by simpa using hc
    obtain ⟨found, hf, hg⟩ := here
    exact ⟨found, same ▸ hf, congrArg some hg.symm⟩
  | sent => cases quiet
  | _ => simp at hc

/-- What a writer that has ended has stored: nothing if it failed, and otherwise the message that its result
names. -/
theorem stored_of_done {result : Except WriteError WrittenMessage}
    (h : WriterStage node log i id text calls (some (.done result)) turn?) :
    (∀ e, result = .error e → calls.filterMap Call.stored? = []) ∧
      ∀ written, result = .ok written → written.contactId = id ∧ written.text.text = text ∧
        calls.filterMap Call.stored? = [⟨written.header, written.text⟩] := by
  cases h with
  | failed =>
    refine ⟨fun _ _ => rfl, fun written hw => ?_⟩
    cases hw
  | ended number mine =>
    refine ⟨fun _ h => (nomatch h), fun written hw => ?_⟩
    cases hw
    exact ⟨rfl, mine.1, rfl⟩

/-- A writer that has a turn is under way, and its next call asks for no other turn. -/
theorem under_way {group : GroupId} (h : WriterStage node log i id text calls left? (some group)) :
    ∃ call next, left? = some (.ask call next) ∧ call.turn? = none := by
  cases h with
  | inTurn => exact ⟨_, _, rfl, rfl⟩
  | counted => exact ⟨_, _, rfl, rfl⟩
  | timed => exact ⟨_, _, rfl, rfl⟩
  | sent => exact ⟨_, _, rfl, rfl⟩

end WriterStage

end PeerPost
