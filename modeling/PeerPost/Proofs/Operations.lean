import PeerPost.Proofs.Histories

/-! # What is done with a node

An operation is a command, a request, or something that is done with the event channel or the journals. The
history of a run of operations has every operation with the node that it found and with what came of it.
`Occurrence.Changes` and `Occurrence.Drives` say all that an operation may do to the contacts and to the
event channel. -/

namespace PeerPost

inductive Operation where
  | command (command : Command)
  | request (origins : Http.Origins) (now : Timestamp) (request : Http.Request)
  | publish (frame : String)
  | listen
  | subscribe
  | unsubscribe (receiver : Nat)
  | read (receiver : Nat)

/-- What came of an operation. A read by a receiver that is not there gives nothing. -/
inductive Upshot where
  | replied (reply : Reply)
  | responded (response : Http.Response)
  | published (receivers : Nat)
  | listening (journal : Nat)
  | subscribed (receiver : Nat)
  | unsubscribed
  | read (reception? : Option Reception)

structure Occurrence where
  node : Node
  operation : Operation
  upshot : Upshot

structure Admission where
  author : Author
  entry : AddressBook.Entry
  event : ContactAdded

namespace Node

def operate (node : Node) : Operation → Upshot × Node
  | .command command => (.replied (node.perform command).1, (node.perform command).2)
  | .request origins now request =>
    (.responded (Http.serve origins node now request).1, (Http.serve origins node now request).2)
  | .publish frame => (.published (node.publish frame).1, (node.publish frame).2)
  | .listen => (.listening node.openJournal.1, node.openJournal.2)
  | .subscribe => (.subscribed node.events.subscribe.1, { node with events := node.events.subscribe.2 })
  | .unsubscribe receiver => (.unsubscribed, { node with events := node.events.unsubscribe receiver })
  | .read receiver =>
    match node.events.receive? receiver with
    | some (reception, events) => (.read (some reception), { node with events := events })
    | none => (.read none, node)

/-- The operation on a node as it is found in a history. -/
def occurrence (node : Node) (operation : Operation) : Occurrence :=
  ⟨node, operation, (node.operate operation).1⟩

/-- Does operations one after the other, and gives their history, the oldest first. -/
def operateAll (node : Node) : List Operation → List Occurrence × Node
  | [] => ([], node)
  | operation :: rest =>
    let (history, last) := (node.operate operation).2.operateAll rest
    (node.occurrence operation :: history, last)

end Node

/-! ### What a history says -/

namespace Occurrence

def stored (o : Occurrence) : List StoredMessage :=
  match o.operation, o.upshot with
  | .command command, .replied reply => (storedBy? (command, reply)).toList
  | .request _ now request, _ => (Http.plan request).stored o.node now
  | _, _ => []

def admission? (o : Occurrence) : Option Admission :=
  match o.operation, o.upshot with
  | .command (.add author entry), .replied (.added event) => some ⟨author, entry, event⟩
  | _, _ => none

/-- The contact whose alias an operation set or cleared, with its alias from then on. -/
def renaming? (o : Occurrence) : Option (ContactId × Option String) :=
  match o.operation, o.upshot with
  | .command (.rename id alias?), .replied .renamed => some (id, alias?)
  | _, _ => none

/-- The frame that an operation broadcast: its own, or the one that announces a contact. -/
def frame? (o : Occurrence) : Option String :=
  match o.operation with
  | .publish frame => some frame
  | _ => o.admission?.map (·.event.frame)

def reception? (receiver : Nat) (o : Occurrence) : Option Reception :=
  match o.operation, o.upshot with
  | .read reader, .read reception? => if reader = receiver then reception? else none
  | _, _ => none

end Occurrence

def storedDuring (history : List Occurrence) : List StoredMessage :=
  history.flatMap Occurrence.stored

def admissionsIn (history : List Occurrence) : List Admission :=
  history.filterMap Occurrence.admission?

def framesIn (history : List Occurrence) : List String :=
  history.filterMap Occurrence.frame?

def receptionsIn (receiver : Nat) (history : List Occurrence) : List Reception :=
  history.filterMap (Occurrence.reception? receiver)

theorem storedDuring_append (earlier later : List Occurrence) :
    storedDuring (earlier ++ later) = storedDuring earlier ++ storedDuring later :=
  List.flatMap_append

section Concat

variable (history : List Occurrence) (o : Occurrence)

theorem storedDuring_concat : storedDuring (history ++ [o]) = storedDuring history ++ o.stored := by
  simp [storedDuring]

theorem admissionsIn_concat : admissionsIn (history ++ [o]) = admissionsIn history ++ o.admission?.toList := by
  cases h : o.admission? <;> simp [admissionsIn, h]

theorem framesIn_concat : framesIn (history ++ [o]) = framesIn history ++ o.frame?.toList := by
  cases h : o.frame? <;> simp [framesIn, h]

theorem receptionsIn_concat (receiver : Nat) :
    receptionsIn receiver (history ++ [o]) = receptionsIn receiver history ++ (o.reception? receiver).toList := by
  cases h : o.reception? receiver <;> simp [receptionsIn, h]

end Concat

namespace Node

/-! ### Runs -/

/-- What every operation keeps, of the history so far and the node, a run of operations keeps. -/
theorem operateAll_keeps (P : List Occurrence → Node → Prop) {operations : List Operation}
    (step : ∀ operation ∈ operations, ∀ past node, P past node →
      P (past ++ [node.occurrence operation]) (node.operate operation).2)
    {past : List Occurrence} {node : Node} (h : P past node) :
    P (past ++ (node.operateAll operations).1) (node.operateAll operations).2 := by
  -- The history that the induction leaves behind stands before that of the rest.
  induction operations generalizing past node with
  | nil => simpa [operateAll] using h
  | cons operation rest ih =>
    have next := step operation List.mem_cons_self past node h
    have last := ih (fun o ho => step o (List.mem_cons_of_mem _ ho)) next
    rwa [List.append_assoc] at last

theorem operateAll_run (P : List Occurrence → Node → Prop) {node : Node} {operations : List Operation}
    (step : ∀ operation ∈ operations, ∀ past node, P past node →
      P (past ++ [node.occurrence operation]) (node.operate operation).2) (h : P [] node) :
    P (node.operateAll operations).1 (node.operateAll operations).2 :=
  operateAll_keeps P step h

theorem mem_operateAll {node : Node} {operations : List Operation} {o : Occurrence}
    (h : o ∈ (node.operateAll operations).1) : o = o.node.occurrence o.operation := by
  refine operateAll_run (fun past _ => ∀ o ∈ past, o = o.node.occurrence o.operation) ?_ (fun _ h => nomatch h) o h
  intro operation _ past node ih o ho
  rcases List.mem_append.mp ho with ho | ho
  · exact ih o ho
  · rw [List.mem_singleton.mp ho]
    rfl

/-! ### What one operation does -/

variable {node : Node} {stored : List StoredMessage}

theorem reached_operate (h : Reached node stored) (operation : Operation) :
    Reached (node.operate operation).2 (stored ++ (node.occurrence operation).stored) := by
  -- All but commands and requests store nothing and leave the contacts and the archive alone.
  have same (events : Channel) (journals : List (List ContactAdded)) :
      Reached { node with events := events, journals := journals } (stored ++ []) := by
    rw [List.append_nil]
    exact h.relay events journals
  cases operation with
  | command command => exact h.command command
  | request origins now request => exact h.request origins now request
  | read receiver =>
    cases hr : node.events.receive? receiver with
    | none =>
      simp only [operate, hr]
      exact same node.events node.journals
    | some received =>
      simp only [operate, hr]
      exact same received.2 node.journals
  | _ => exact same _ _

theorem reached_operateAll (h : Reached node stored) (operations : List Operation) :
    Reached (node.operateAll operations).2 (stored ++ storedDuring (node.operateAll operations).1) := by
  refine operateAll_run (fun past node => Reached node (stored ++ storedDuring past)) ?_ ?_
  · intro operation _ past node ih
    rw [storedDuring_concat, ← List.append_assoc]
    exact reached_operate ih operation
  · simpa [storedDuring] using h

theorem reached_run (author : Author) (events : Channel) (operations : List Operation) :
    Reached ((start author events).operateAll operations).2
      (storedDuring ((start author events).operateAll operations).1) := by
  simpa using reached_operateAll (.start author events) operations

end Node

/-- All that an operation may do to the contacts: add one, change an alias, or leave them as they were. -/
inductive Occurrence.Changes (o : Occurrence) (next : AddressBook) : Prop
  | added (a : Admission) (admitted : o.admission? = some a) (unnamed : o.renaming? = none)
      (accepted : o.node.contacts.add a.author a.entry = .ok (a.event, next))
  | renamed (id : ContactId) (alias? : Option String) (quiet : o.admission? = none)
      (named : o.renaming? = some (id, alias?)) (accepted : o.node.contacts.setAlias id alias? = .ok next)
  | kept (quiet : o.admission? = none) (unnamed : o.renaming? = none) (same : next = o.node.contacts)

/-- All that an operation may do to the event channel. Only a broadcast has a frame, and only a reader gets
something. -/
inductive Occurrence.Drives (o : Occurrence) (next : Channel) : Prop
  | published (frame : String) (sent : o.frame? = some frame) (unread : ∀ receiver, o.reception? receiver = none)
      (eq : next = (o.node.events.publish frame).2)
  | subscribed (unsent : o.frame? = none) (unread : ∀ receiver, o.reception? receiver = none)
      (eq : next = o.node.events.subscribe.2)
  | unsubscribed (receiver : Nat) (operation : o.operation = .unsubscribe receiver) (unsent : o.frame? = none)
      (unread : ∀ receiver, o.reception? receiver = none) (eq : next = o.node.events.unsubscribe receiver)
  | received (reader : Nat) (reception : Reception) (unsent : o.frame? = none)
      (read : ∀ receiver, o.reception? receiver = if reader = receiver then some reception else none)
      (received : o.node.events.receive? reader = some (reception, next))
  | kept (unsent : o.frame? = none) (unread : ∀ receiver, o.reception? receiver = none)
      (same : next = o.node.events)

namespace Node

/-! ### Additions and renamings -/

variable {node : Node} {author : Author} {entry : AddressBook.Entry} {id : ContactId} {alias? : Option String}
  {contacts : AddressBook} {e : DomainError}

theorem perform_add_error (h : node.contacts.add author entry = .error e) :
    node.perform (.add author entry) = (.refused e, node) := by
  simp only [perform, addContact, h]

theorem perform_add_ok {event : ContactAdded} (h : node.contacts.add author entry = .ok (event, contacts)) :
    node.perform (.add author entry) = (.added event, { node with contacts := contacts }.announce event) := by
  simp only [perform, addContact, h]

theorem perform_rename_error (h : node.contacts.setAlias id alias? = .error e) :
    node.perform (.rename id alias?) = (.refused e, node) := by
  simp only [perform, setAlias, h]

theorem perform_rename_ok (h : node.contacts.setAlias id alias? = .ok contacts) :
    node.perform (.rename id alias?) = (.renamed, { node with contacts := contacts }) := by
  simp only [perform, setAlias, h]

theorem perform_receive_node (node : Node) (id : ContactId) (time : Timestamp) (text : MessageText) :
    ∃ archive, (node.perform (.receive id time text)).2 = { node with archive := archive } := by
  cases h : node.contacts.get id <;> simp only [perform, receive, h] <;> exact ⟨_, rfl⟩

theorem changes_operate (node : Node) (operation : Operation) :
    (node.occurrence operation).Changes (node.operate operation).2.contacts := by
  cases operation with
  | command command =>
    cases command with
    | receive id time text =>
      obtain ⟨archive, same⟩ := perform_receive_node node id time text
      exact .kept rfl rfl (by rw [operate, same]; rfl)
    | send message => exact .kept rfl rfl rfl
    | add author entry =>
      cases h : node.contacts.add author entry with
      | error e =>
        refine .kept ?_ ?_ ?_ <;>
          simp [occurrence, Occurrence.admission?, Occurrence.renaming?, operate, perform_add_error h]
      | ok added =>
        refine .added ⟨author, entry, added.1⟩ ?_ ?_ ?_ <;>
          simp [occurrence, Occurrence.admission?, Occurrence.renaming?, operate, perform_add_ok h, announce, h]
    | rename id alias? =>
      cases h : node.contacts.setAlias id alias? with
      | error e =>
        refine .kept ?_ ?_ ?_ <;>
          simp [occurrence, Occurrence.admission?, Occurrence.renaming?, operate, perform_rename_error h]
      | ok contacts =>
        refine .renamed id alias? ?_ ?_ ?_ <;>
          simp [occurrence, Occurrence.admission?, Occurrence.renaming?, operate, perform_rename_ok h, h]
  | request origins now request =>
    refine .kept rfl rfl ?_
    rw [operate, Http.node_serve]
    rfl
  | read receiver =>
    refine .kept rfl rfl ?_
    cases h : node.events.receive? receiver <;> simp [occurrence, operate, h]
  | _ => exact .kept rfl rfl rfl

theorem drives_operate (node : Node) (operation : Operation) :
    (node.occurrence operation).Drives (node.operate operation).2.events := by
  cases operation with
  | command command =>
    cases command with
    | receive id time text =>
      obtain ⟨archive, same⟩ := perform_receive_node node id time text
      exact .kept rfl (fun _ => rfl) (by rw [operate, same]; rfl)
    | send message => exact .kept rfl (fun _ => rfl) rfl
    | add author entry =>
      cases h : node.contacts.add author entry with
      | error e =>
        refine .kept ?_ (fun _ => rfl) ?_ <;>
          simp [occurrence, Occurrence.frame?, Occurrence.admission?, operate, perform_add_error h]
      | ok added =>
        refine .published added.1.frame ?_ (fun _ => rfl) ?_ <;>
          simp [occurrence, Occurrence.frame?, Occurrence.admission?, operate, perform_add_ok h, announce]
    | rename id alias? =>
      refine .kept rfl (fun _ => rfl) ?_
      cases h : node.contacts.setAlias id alias? with
      | error e => simp [occurrence, operate, perform_rename_error h]
      | ok contacts => simp [occurrence, operate, perform_rename_ok h]
  | request origins now request =>
    refine .kept rfl (fun _ => rfl) ?_
    rw [operate, Http.node_serve]
    rfl
  | publish frame => exact .published frame rfl (fun _ => rfl) rfl
  | listen => exact .kept rfl (fun _ => rfl) rfl
  | subscribe => exact .subscribed rfl (fun _ => rfl) rfl
  | unsubscribe receiver => exact .unsubscribed receiver rfl rfl (fun _ => rfl) rfl
  | read receiver =>
    cases h : node.events.receive? receiver with
    | none =>
      refine .kept rfl (fun other => ?_) ?_ <;> simp [occurrence, Occurrence.reception?, operate, h]
    | some received =>
      obtain ⟨reception, events⟩ := received
      refine .received receiver reception rfl (fun other => ?_) ?_ <;>
        simp [occurrence, Occurrence.reception?, operate, h]

/-- A journal has one event more after an accepted addition, and is the same after any other operation. -/
theorem journal_operate {node : Node} {number : Nat} {journal : List ContactAdded}
    (h : node.journals[number]? = some journal) (operation : Operation) :
    (node.operate operation).2.journals[number]? =
      some (journal ++ (node.occurrence operation).admission?.toList.map (·.event)) := by
  have inside : number < node.journals.length := (List.getElem?_eq_some_iff.mp h).1
  cases operation with
  | command command =>
    cases command with
    | receive id time text =>
      obtain ⟨archive, same⟩ := perform_receive_node node id time text
      rw [operate, same]
      simpa [occurrence, Occurrence.admission?] using h
    | send message => simpa [operate, perform, send, occurrence, Occurrence.admission?] using h
    | add author entry =>
      cases ha : node.contacts.add author entry with
      | error e => simpa [occurrence, Occurrence.admission?, operate, perform_add_error ha] using h
      | ok added => simp [occurrence, Occurrence.admission?, operate, perform_add_ok ha, announce, h]
    | rename id alias? =>
      cases hs : node.contacts.setAlias id alias? with
      | error e => simpa [occurrence, Occurrence.admission?, operate, perform_rename_error hs] using h
      | ok contacts => simpa [occurrence, Occurrence.admission?, operate, perform_rename_ok hs] using h
  | request origins now request =>
    rw [operate, Http.node_serve]
    simpa [occurrence, Occurrence.admission?] using h
  | listen => simpa [operate, openJournal, occurrence, Occurrence.admission?, List.getElem?_append, inside] using h
  | read receiver =>
    cases hr : node.events.receive? receiver <;>
      simpa [occurrence, Occurrence.admission?, operate, hr] using h
  | publish frame => simpa [operate, Node.publish, occurrence, Occurrence.admission?] using h
  | _ => simpa [operate, occurrence, Occurrence.admission?] using h

end Node

end PeerPost
