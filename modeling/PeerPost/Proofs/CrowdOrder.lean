import PeerPost.Proofs.Crowd

/-! # The order of the messages of a crowd

`Orderly` is what every crowd satisfies that began with a node without writers, however its moves are
interleaved. No two writers have the turn of one group, every message that a writer has stored is still in
its group, and the messages of a group have increasing times, because whoever picks a time has seen all
messages that were stored before. -/

namespace PeerPost

/-- Of two messages of one group the second is later, or both are at the end of all times. -/
def InOrder (a b : StoredMessage) : Prop :=
  a.header.groupId = b.header.groupId → a.header.timestamp < b.header.timestamp ∨
    a.header.timestamp = Timestamp.last ∧ b.header.timestamp = Timestamp.last

/-- The writer of a message has read the counters of its group and then the clock. The time of the message
is after every time that the group had when the counters were read, or the end of all times, and it is not
before the time that the clock had. -/
def Picked (log : List Exchange) (e : Exchange) (m : StoredMessage) : Prop :=
  ∃ c t, [c, t, e].Sublist log ∧ c.writer = e.writer ∧ t.writer = e.writer ∧ c.Counts m.header.groupId ∧
    (∀ h ∈ c.node.archive.headers m.header.groupId,
      h.timestamp < m.header.timestamp ∨ m.header.timestamp = Timestamp.last) ∧
    t.call = .now ∧ t.clock ≤ m.header.timestamp

theorem Picked.append {log : List Exchange} {e : Exchange} {m : StoredMessage} (h : Picked log e m) (last : Exchange) :
    Picked (log ++ [last]) e m := by
  obtain ⟨c, t, order, rest⟩ := h
  exact ⟨c, t, order.trans (List.sublist_append_left _ _), rest⟩

namespace Crowd

variable {first : Node} {crowd : Crowd}

/-- A writer has the turn of a group. -/
def HasTurn (crowd : Crowd) (i : Nat) (group : GroupId) : Prop :=
  ∃ w, crowd.writers[i]? = some w ∧ w.turn? = some group

/-- What every crowd satisfies that began with a node without writers. -/
structure Orderly (first : Node) (crowd : Crowd) : Prop where
  staged : ∀ i w, crowd.writers[i]? = some w →
    WriterStage crowd.node crowd.log i w.id w.text (callsOf crowd.log i) w.left? w.turn?
  entered : ∀ e ∈ crowd.log, e.writer < crowd.writers.length
  turns : ∀ i j group, crowd.HasTurn i group → crowd.HasTurn j group → i = j
  continued : ∀ e ∈ crowd.log, e.node.contacts.Continues crowd.node.contacts
  kept : ∀ group, (first.archive.headers group ++ addedTo crowd.log group).Sublist (crowd.node.archive.headers group)
  seen : ∀ k e, crowd.log[k]? = some e → ∀ m ∈ storedInLog (crowd.log.take k),
    m.header ∈ e.node.archive.headers m.header.groupId
  ordered : (storedInLog crowd.log).Pairwise InOrder
  picked : ∀ e ∈ crowd.log, ∀ m, e.stored? = some m → Picked crowd.log e m

namespace Orderly

theorem start (first : Node) (clock : Timestamp) : Orderly first (start first clock) where
  staged i w h := nomatch h
  entered e h := nomatch h
  turns i j group := by
    rintro ⟨w, hw, -⟩
    cases hw
  continued e h := nomatch h
  kept group := by
    rw [show addedTo (Crowd.start first clock).log group = [] from rfl, List.append_nil]
    exact List.Sublist.refl _
  seen k e h := nomatch h
  ordered := .nil
  picked e h := nomatch h

/-- Every message that a writer has stored is in its group. -/
theorem mem_headers (h : Orderly first crowd) {m : StoredMessage} (hm : m ∈ storedInLog crowd.log) :
    m.header ∈ crowd.node.archive.headers m.header.groupId := by
  refine (h.kept _).subset (List.mem_append_right _ ?_)
  rw [addedTo, List.mem_filter]
  exact ⟨List.mem_map_of_mem hm, by simp⟩

/-! ### Moves that answer no call -/

theorem enter (h : Orderly first crowd) (id : ContactId) (text : String) :
    Orderly first (crowd.make (.enter id text)) where
  staged i w hw := by
    rcases writer_enter_inv hw with hw | ⟨rfl, rfl⟩
    · exact h.staged i w hw
    · have calls : callsOf crowd.log crowd.writers.length = [] := by
        rw [callsOf, List.map_eq_nil_iff, List.filter_eq_nil_iff]
        intro e he
        simpa using Nat.ne_of_lt (h.entered e he)
      simp only [make, calls]
      exact .entered
  entered e he := by
    rw [make, List.length_append]
    exact Nat.lt_add_right _ (h.entered e he)
  turns := by
    have old {i : Nat} {group : GroupId} (ht : (crowd.make (.enter id text)).HasTurn i group) :
        crowd.HasTurn i group := by
      obtain ⟨w, hw, ht⟩ := ht
      rcases writer_enter_inv hw with hw | ⟨-, rfl⟩
      · exact ⟨w, hw, ht⟩
      · cases ht
    exact fun i j group hi hj => h.turns i j group (old hi) (old hj)
  continued := h.continued
  kept := h.kept
  seen := h.seen
  ordered := h.ordered
  picked := h.picked

theorem abandon (h : Orderly first crowd) (i : Nat) : Orderly first (crowd.make (.abandon i)) where
  staged j w hw := by
    obtain ⟨v, hv, rfl | rfl⟩ := writer_abandon_inv hw
    · exact h.staged j w hv
    · exact .abandoned (h.staged j v hv).few (h.staged j v hv).addressed
  entered e he := by
    rw [make, List.length_modify]
    exact h.entered e he
  turns := by
    have old {j : Nat} {group : GroupId} (ht : (crowd.make (.abandon i)).HasTurn j group) :
        crowd.HasTurn j group := by
      obtain ⟨w, hw, ht⟩ := ht
      obtain ⟨v, hv, rfl | rfl⟩ := writer_abandon_inv hw
      · exact ⟨w, hv, ht⟩
      · cases ht
    exact fun j k group hj hk => h.turns j k group (old hj) (old hk)
  continued := h.continued
  kept := h.kept
  seen := h.seen
  ordered := h.ordered
  picked := h.picked

theorem setClock (h : Orderly first crowd) (time : Timestamp) : Orderly first (crowd.make (.setClock time)) :=
  ⟨h.staged, h.entered, h.turns, h.continued, h.kept, h.seen, h.ordered, h.picked⟩

theorem perform (h : Orderly first crowd) (command : Command) : Orderly first (crowd.make (.perform command)) where
  staged i w hw := (h.staged i w hw).continues (Node.perform_performs _ _).continues
  entered := h.entered
  turns := h.turns
  continued e he := (h.continued e he).trans (Node.perform_performs _ _).continues
  kept group := by
    refine (h.kept group).trans ?_
    rw [make, (Node.perform_performs crowd.node command).archive, Archive.headers_foldl_store]
    exact List.sublist_append_left _ _
  seen := h.seen
  ordered := h.ordered
  picked := h.picked

/-! ### The call of a writer -/

variable {i : Nat} {w : Writer} {call : Call} {rest : Dialogue (Except WriteError WrittenMessage)} {node : Node}

theorem hasTurn_answered_inv (a : crowd.Answers i w call rest node) {j : Nat} {group : GroupId}
    (h : (crowd.answered i w call rest node).HasTurn j group) :
    crowd.HasTurn j group ∨ (i = j ∧ call.turn? = some group) := by
  obtain ⟨v, hv, ht⟩ := h
  rcases writer_answered_inv hv with ⟨rfl, rfl⟩ | ⟨-, hv⟩
  · rcases Call.turnAfter_inv ht with old | new
    · exact Or.inl ⟨w, a.writer, old⟩
    · exact Or.inr ⟨rfl, new⟩
  · exact Or.inl ⟨v, hv, ht⟩

/-- A turn that is asked for without waiting is nobody's. -/
theorem not_hasTurn_of_asked (a : crowd.Answers i w call rest node) {j : Nat} {group : GroupId}
    (h : call.turn? = some group) : ¬crowd.HasTurn j group := by
  rintro ⟨v, hv, ht⟩
  have busy : crowd.waits call = true := by
    rw [waits, h, Option.isSome_some, Bool.true_and, List.any_eq_true]
    exact ⟨v, List.mem_of_getElem? hv, by simpa using ht⟩
  rw [a.free] at busy
  cases busy

/-- A writer that sends has the turn of the group. It read the counters of the group and the clock before, and
nobody has sent to the group since it read the counters. -/
theorem sender (h : Orderly first crowd) (a : crowd.Answers i w call rest node) {m : StoredMessage}
    (hm : call.stored? = some m) : crowd.HasTurn i m.header.groupId ∧
      ∃ e t, Reading crowd.log i m.header.groupId e ∧ (t.writer = i ∧ t.call = .now) ∧ [e, t].Sublist crowd.log ∧
        m.header.timestamp = (e.node.archive.count m.header.groupId).nextTime t.clock := by
  obtain ⟨left, hl, ha⟩ := a.advance
  have stage := h.staged i w a.writer
  rw [hl] at stage
  obtain ⟨turn, picked⟩ := stage.send_inv ha hm
  exact ⟨⟨w, a.writer, turn⟩, picked⟩

/-- A message that is sent comes after all messages that writers have stored in its group. -/
theorem inOrder_sent (h : Orderly first crowd) (a : crowd.Answers i w call rest node) {m : StoredMessage}
    (hm : call.stored? = some m) : ∀ earlier ∈ storedInLog crowd.log, InOrder earlier m := by
  obtain ⟨-, e, t, reading, -, -, time⟩ := h.sender a hm
  obtain ⟨k, hk, since⟩ := reading.since
  intro earlier he same
  -- The earlier message was stored before the counters were read, so it was among those counted.
  have before : earlier ∈ storedInLog (crowd.log.take k) := by
    rw [← List.take_append_drop k crowd.log, storedInLog, List.filterMap_append] at he
    rcases List.mem_append.mp he with he | he
    · exact he
    · obtain ⟨later, hl, hs⟩ := List.mem_filterMap.mp he
      exact absurd same (since later hl earlier hs)
  have counted := h.seen k e hk earlier before
  rw [same] at counted
  have after : earlier.header.timestamp < m.header.timestamp ∨ m.header.timestamp = Timestamp.last := by
    rw [time]
    exact MessageCount.lt_nextTime_or_last counted t.clock
  rcases after with lt | last
  · exact Or.inl lt
  · rcases lt_or_eq_of_le (Timestamp.le_last earlier.header.timestamp) with lt | eq
    · exact Or.inl (last ▸ lt)
    · exact Or.inr ⟨eq, last⟩

/-- The time of a message that is sent was picked after reading the counters of its group and the clock. -/
theorem picked_sent (h : Orderly first crowd) (a : crowd.Answers i w call rest node) {m : StoredMessage}
    (hm : call.stored? = some m) :
    Picked (crowd.answered i w call rest node).log ⟨i, call, crowd.node, crowd.clock⟩ m := by
  obtain ⟨-, e, t, reading, ⟨htw, htc⟩, order, time⟩ := h.sender a hm
  refine ⟨e, t, order.append (List.Sublist.refl _), reading.writer, htw, reading.counts, ?_, htc, ?_⟩
  · intro header hh
    rw [time]
    exact MessageCount.lt_nextTime_or_last hh t.clock
  · rw [time]
    exact MessageCount.now_le_nextTime _ _

theorem answered (h : Orderly first crowd) (a : crowd.Answers i w call rest node) :
    Orderly first (crowd.answered i w call rest node) where
  staged j v hv := by
    rcases writer_answered_inv hv with ⟨rfl, rfl⟩ | ⟨other, hv⟩
    · obtain ⟨left, hl, ha⟩ := a.advance
      have stage := h.staged i w a.writer
      rw [hl] at stage
      have calls : callsOf (crowd.log ++ [⟨i, call, crowd.node, crowd.clock⟩]) i = callsOf crowd.log i ++ [call] := by
        rw [callsOf_append, if_pos rfl]
      rw [Crowd.answered, calls]
      exact stage.advance ha
    · have calls : callsOf (crowd.log ++ [⟨i, call, crowd.node, crowd.clock⟩]) j = callsOf crowd.log j := by
        rw [callsOf_append, if_neg other]
      rw [Crowd.answered, calls]
      refine ((h.staged j v hv).append fun m hm ht => ?_).continues a.continues
      exact other (h.turns i j _ (h.sender a hm).1 ⟨v, hv, ht⟩)
  entered e he := by
    rw [Crowd.answered, List.length_set]
    rcases List.mem_append.mp he with he | he
    · exact h.entered e he
    · rw [List.mem_singleton.mp he]
      exact (List.getElem?_eq_some_iff.mp a.writer).1
  turns j k group hj hk := by
    rcases hasTurn_answered_inv a hj with oldj | ⟨ej, newj⟩
    · rcases hasTurn_answered_inv a hk with oldk | ⟨ek, newk⟩
      · exact h.turns j k group oldj oldk
      · exact absurd oldj (not_hasTurn_of_asked a newk)
    · rcases hasTurn_answered_inv a hk with oldk | ⟨ek, newk⟩
      · exact absurd oldk (not_hasTurn_of_asked a newj)
      · exact ej.symm.trans ek
  continued e he := by
    rcases List.mem_append.mp he with he | he
    · exact (h.continued e he).trans a.continues
    · rw [List.mem_singleton.mp he]
      exact a.continues
  kept group := by
    rw [Crowd.answered, addedTo_append, a.node_eq, Archive.headers_foldl_store, ← List.append_assoc]
    exact (h.kept group).append (List.Sublist.refl _)
  seen k e hk m hm := by
    rw [Crowd.answered, List.getElem?_append] at hk
    rw [Crowd.answered] at hm
    split at hk
    · next old =>
      rw [List.take_append_of_le_length (le_of_lt old)] at hm
      exact h.seen k e hk m hm
    · next new =>
      rw [List.getElem?_singleton] at hk
      split at hk
      · next last =>
        cases hk
        rw [show k = crowd.log.length by omega, List.take_left] at hm
        exact h.mem_headers hm
      · cases hk
  ordered := by
    rw [Crowd.answered, storedInLog_append, List.pairwise_append]
    refine ⟨h.ordered, ?_, ?_⟩
    · show call.stored?.toList.Pairwise InOrder
      cases call.stored? with
      | none => exact .nil
      | some m => exact List.pairwise_singleton _ _
    · intro earlier he m hm
      exact h.inOrder_sent a (Option.mem_toList.mp hm) earlier he
  picked e he m hm := by
    rcases List.mem_append.mp he with he | he
    · exact (h.picked e he m hm).append _
    · rw [List.mem_singleton.mp he] at hm ⊢
      exact h.picked_sent a hm

/-! ### All moves -/

theorem make (h : Orderly first crowd) (move : Move) : Orderly first (crowd.make move) := by
  cases move with
  | enter id text => exact h.enter id text
  | proceed i =>
    rcases proceed_inv crowd i with e | ⟨w, call, rest, node, a, e⟩
    · rw [Crowd.make, e]
      exact h
    · rw [Crowd.make, e]
      exact h.answered a
  | abandon i => exact h.abandon i
  | setClock time => exact h.setClock time
  | perform command => exact h.perform command

theorem makeAll (h : Orderly first crowd) (moves : List Move) : Orderly first (crowd.makeAll moves) := by
  induction moves generalizing crowd with
  | nil => exact h
  | cons move rest ih => exact ih (h.make move)

end Orderly

/-! ### What a crowd has written -/

/-- A writer is under way, has read the counters of a group, and has sent nothing yet. -/
def Choosing (crowd : Crowd) (i : Nat) (group : GroupId) : Prop :=
  (∃ w call next, crowd.writers[i]? = some w ∧ w.left? = some (.ask call next)) ∧
    (∃ e ∈ crowd.log, e.writer = i ∧ e.Counts group) ∧ ∀ e ∈ crowd.log, e.writer = i → e.stored? = none

/-- Whoever picks the time of a message has the turn of its group. -/
theorem Orderly.hasTurn_of_choosing (h : Orderly first crowd) {i : Nat} {group : GroupId}
    (hc : crowd.Choosing i group) : crowd.HasTurn i group := by
  obtain ⟨⟨w, call, next, hw, hl⟩, ⟨e, he, hi, id, contact, hcall, hf, hg⟩, quiet⟩ := hc
  have stage := h.staged i w hw
  rw [hl] at stage
  have asked : .count id ∈ callsOf crowd.log i := by
    rw [← hcall]
    exact List.mem_map_of_mem (List.mem_filter.mpr ⟨he, by simpa using hi⟩)
  have unsent : (callsOf crowd.log i).filterMap Call.stored? = [] := by
    rw [List.filterMap_eq_nil_iff]
    intro c hc
    obtain ⟨x, hx, rfl⟩ := List.mem_map.mp hc
    obtain ⟨hx, hxi⟩ := List.mem_filter.mp hx
    exact quiet x hx (by simpa using hxi)
  obtain ⟨found, hfound, turn⟩ := stage.turn_of_count asked unsent
  -- The contact whose counters were read still has its group.
  obtain ⟨again, ha, hag⟩ := (h.continued e he).group hf
  have same : found = again := Option.some.inj (hfound.symm.trans ha)
  refine ⟨w, hw, ?_⟩
  rw [turn, same, hag, hg]

/-- Writes through one node, in whatever order their calls are made, and with whatever happens between them.
At most one writer of a group is picking the time of a message. The messages that writers store in a group
have increasing times, up to the end of all times, and stay in the group in their order. Each of them is
later than all that its writer found in the group, and not before the time that its writer read. A write
stores at most one message, its own, and its result says whether it did. Whoever has a turn can go on, so that
nobody waits for a writer that waits itself. -/
theorem writes_in_order (node : Node) (clock : Timestamp) (moves : List Move) :
    let crowd := (start node clock).makeAll moves
    (∀ i j group, crowd.Choosing i group → crowd.Choosing j group → i = j) ∧
    ((storedInLog crowd.log).Pairwise InOrder ∧
      ∀ group, (node.archive.headers group ++ addedTo crowd.log group).Sublist (crowd.node.archive.headers group)) ∧
    (∀ e ∈ crowd.log, ∀ m, e.stored? = some m → Picked crowd.log e m) ∧
    (∀ i w, crowd.writers[i]? = some w →
      let stored := (callsOf crowd.log i).filterMap Call.stored?
      stored.length ≤ 1 ∧ (∀ m ∈ stored, Addressed crowd.node w.id w.text m) ∧
        (∀ e, w.left? = some (.done (.error e)) → stored = []) ∧
        ∀ written, w.left? = some (.done (.ok written)) →
          written.contactId = w.id ∧ written.text.text = w.text ∧ stored = [⟨written.header, written.text⟩]) ∧
    ∀ i group, crowd.HasTurn i group → ∃ w call next,
      crowd.writers[i]? = some w ∧ w.left? = some (.ask call next) ∧ crowd.waits call = false := by
  intro crowd
  have orderly : Orderly node crowd := (Orderly.start node clock).makeAll moves
  refine ⟨?_, ⟨orderly.ordered, orderly.kept⟩, orderly.picked, ?_, ?_⟩
  · intro i j group hi hj
    exact orderly.turns i j group (orderly.hasTurn_of_choosing hi) (orderly.hasTurn_of_choosing hj)
  · intro i w hw stored
    have stage := orderly.staged i w hw
    refine ⟨stage.few, stage.addressed, ?_, ?_⟩
    · intro e he
      rw [he] at stage
      exact stage.stored_of_done.1 e rfl
    · intro written hd
      rw [hd] at stage
      exact stage.stored_of_done.2 written rfl
  · rintro i group ⟨w, hw, turn⟩
    have stage := orderly.staged i w hw
    rw [turn] at stage
    obtain ⟨call, next, hl, free⟩ := stage.under_way
    exact ⟨w, call, next, hw, hl, by rw [waits, free, Option.isSome_none, Bool.false_and]⟩

end Crowd

end PeerPost
