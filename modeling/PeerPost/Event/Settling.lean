import PeerPost.Event.Hub

/-!
# Settling a hub

A hub is settled by rounds of turns until no turn is due. That ends because every turn makes the work that
is due smaller: a sending side is late only after it has received a frame, and the turns that a turn calls
lead to less work than it does. So `run` recurses on `work`, and `round_work_lt` is its reason.
-/

namespace PeerPost.Hub

/-! ### The work that is due -/

/-- The number of frames that wait for a client. A client that is still to come counts with all frames. -/
def framesDue (hub : Hub) (number : Nat) : Nat :=
  match hub.clients[number]? with
  | some client => client.pending hub.node.events
  | none => hub.node.events.held.length

/-- A bound on the turns that a turn leads to. -/
def cost (hub : Hub) : Turn → Nat
  | .sending number => hub.framesDue number + 1
  | .hearing _ _ => 3
  | .ending _ => 2
  | .greeting => hub.node.events.held.length + 4
  | .opening => hub.node.events.held.length + 3
  | .answering => 1
  | .idling => 1

/-- A bound on the turns that some turns lead to. -/
def costs (hub : Hub) (turns : List Turn) : Nat :=
  (turns.map hub.cost).foldr Nat.add 0

/-- A bound on the turns until the hub is settled. -/
def work (hub : Hub) : Nat :=
  hub.costs hub.rota.due

theorem costs_nil (hub : Hub) : hub.costs [] = 0 := rfl

theorem costs_cons (hub : Hub) (turn : Turn) (turns : List Turn) :
    hub.costs (turn :: turns) = hub.cost turn + hub.costs turns := rfl

theorem costs_append (hub : Hub) (xs ys : List Turn) : hub.costs (xs ++ ys) = hub.costs xs + hub.costs ys := by
  induction xs with
  | nil => rw [List.nil_append, costs_nil, Nat.zero_add]
  | cons turn turns ih => rw [List.cons_append, costs_cons, costs_cons, ih, Nat.add_assoc]

theorem costs_reverse (hub : Hub) (turns : List Turn) : hub.costs turns.reverse = hub.costs turns := by
  induction turns with
  | nil => rfl
  | cons turn turns ih =>
    rw [List.reverse_cons, costs_append, ih, costs_cons, costs_cons, costs_nil]
    omega

/-! ### Hubs with no more frames due than another -/

/-- A hub has no more frames due than another one. -/
structure NoMoreDue (next hub : Hub) : Prop where
  frames : ∀ number, next.framesDue number ≤ hub.framesDue number
  held : next.node.events.held = hub.node.events.held

theorem NoMoreDue.cost_le {next hub : Hub} (h : NoMoreDue next hub) (turn : Turn) : next.cost turn ≤ hub.cost turn := by
  cases turn with
  | sending number => exact Nat.succ_le_succ (h.frames number)
  | greeting => simp [cost, h.held]
  | opening => simp [cost, h.held]
  | _ => exact Nat.le_refl _

theorem NoMoreDue.costs_le {next hub : Hub} (h : NoMoreDue next hub) (turns : List Turn) :
    next.costs turns ≤ hub.costs turns := by
  induction turns with
  | nil => exact Nat.le_refl 0
  | cons turn turns ih =>
    rw [costs_cons, costs_cons]
    exact Nat.add_le_add (h.cost_le turn) ih

/-! ### Turns of clients -/

theorem pending_le_of_channel {events next : Channel} (h : ∀ receiver, next.pending receiver ≤ events.pending receiver)
    (client : Client) : client.pending next ≤ client.pending events := by
  unfold Client.pending
  split
  · exact h _
  · exact Nat.le_refl 0

/-- A turn of a sending side leaves no more frames for anyone, and it is late only if it received one. -/
structure SendLeaves (client : Client) (events : Channel) (sent : Client × Channel × Outcome) : Prop where
  channel : ∀ receiver, sent.2.1.pending receiver ≤ events.pending receiver
  held : sent.2.1.held = events.held
  own : sent.1.pending sent.2.1 ≤ client.pending events
  late : sent.2.2 = .late → sent.1.pending sent.2.1 < client.pending events

theorem frameSteps_pos (client : Client) (events : Channel) (receiver : Nat) :
    0 < client.frameSteps events receiver := by
  have : client.unsent.length ≤ 1 := by
    unfold Client.unsent
    cases client.unsent? <;> simp
  unfold Client.frameSteps Client.turnSteps
  split <;> omega

theorem sendLive_leaves {client : Client} {receiver : Nat} (events : Channel) (h : client.connection = .live receiver) :
    SendLeaves client events (client.sendLive events receiver) := by
  have steps := frameSteps_pos client events receiver
  unfold Client.sendLive
  refine ⟨fun other => ?_, Channel.held_readUpTo .., ?_, fun late => ?_⟩
  · rw [Channel.pending_readUpTo]
    omega
  · simp only [Client.pending, h, Connection.receiver?, Channel.pending_readUpTo]
    omega
  · simp only [Client.pending, h, Connection.receiver?, Channel.pending_readUpTo, Client.receivedIn]
    have : client.frameSteps events receiver ≤ 2 * events.pending receiver := by
      by_cases le : client.frameSteps events receiver ≤ 2 * events.pending receiver
      · exact le
      · simp [le] at late
    simp only [if_true]
    omega

theorem sendParting_leaves {client : Client} {receiver : Nat} {answered : Bool} (events : Channel)
    (h : client.connection = .parting receiver answered) :
    SendLeaves client events (client.sendParting events receiver answered) := by
  unfold Client.sendParting
  dsimp only
  split
  · rename_i empty
    refine ⟨fun _ => Nat.le_refl _, rfl, ?_, fun late => by cases late⟩
    simp [Client.pending, h, Connection.receiver?]
  · refine ⟨fun other => ?_, rfl, ?_, fun late => by cases late⟩
    · rw [Channel.pending_unsubscribe]
      split <;> omega
    · simp [Client.pending, Connection.receiver?_ended]

theorem send_leaves (client : Client) (events : Channel) : SendLeaves client events (client.send events) := by
  unfold Client.send
  split
  · rename_i h
    exact sendLive_leaves events h
  · rename_i h
    exact sendParting_leaves events h
  · exact ⟨fun _ => Nat.le_refl _, rfl, Nat.le_refl _, fun late => by cases late⟩

/-! ### Changes that make no more due -/

/-- A change of a client that leaves it its receiver does not change what is due. -/
theorem noMoreDue_update (hub : Hub) (number : Nat) (change : Client → Client)
    (h : ∀ client, (change client).connection.receiver? = client.connection.receiver?) :
    NoMoreDue (hub.update number change) hub := by
  refine ⟨fun other => ?_, rfl⟩
  unfold framesDue update
  simp only [List.getElem?_modify]
  cases hub.clients[other]? with
  | none => exact Nat.le_refl _
  | some client =>
    by_cases e : number = other
    · simp [e, Client.pending, h]
    · simp [e]

/-- When no more is due and the turns that are due are the same, the work is no greater. -/
theorem NoMoreDue.work_le {next hub : Hub} (h : NoMoreDue next hub) (due : next.rota.due = hub.rota.due) :
    next.work ≤ hub.work := by
  unfold work
  rw [due]
  exact h.costs_le _

/-! ### The work of a rota -/

theorem costs_due (hub : Hub) (rota : Rota) :
    hub.costs rota.due = hub.costs rota.queue + hub.costs (rota.late.map .sending) :=
  hub.costs_append _ _

theorem costs_due_call (hub : Hub) (rota : Rota) (turn : Turn) :
    hub.costs (rota.call turn).due = hub.costs rota.due + hub.cost turn := by
  rw [costs_due, costs_due]
  simp only [Rota.call, costs_append, costs_cons, costs_nil]
  omega

theorem work_call (hub : Hub) (turn : Turn) : (hub.call turn).work = hub.work + hub.cost turn :=
  costs_due_call hub hub.rota turn

theorem work_withQueue (hub : Hub) {turn : Turn} {rest : List Turn} (h : hub.rota.queue = turn :: rest) :
    hub.work = hub.cost turn + (hub.withQueue rest).work := by
  unfold work Rota.due
  rw [h, List.cons_append, costs_cons]
  rfl

/-! ### The work after a turn -/

theorem noMoreDue_afterSending {hub : Hub} {number : Nat} {client : Client} {sent : Client × Channel × Outcome}
    (found : hub.clients[number]? = some client) (leaves : SendLeaves client hub.node.events sent) :
    NoMoreDue (hub.afterSending number sent.1 sent.2.1 sent.2.2) hub := by
  have inside : number < hub.clients.length := (List.getElem?_eq_some_iff.mp found).1
  refine ⟨fun other => ?_, leaves.held⟩
  unfold framesDue afterSending
  simp only [List.getElem?_set]
  by_cases e : number = other
  · subst e
    simp only [if_true, inside, found]
    exact leaves.own
  · simp only [e, if_false]
    cases hub.clients[other]? with
    | none => exact Nat.le_of_eq (congrArg List.length leaves.held)
    | some c => exact pending_le_of_channel leaves.channel c

theorem sendTo_work_lt (hub : Hub) (number : Nat) : (hub.sendTo number).work < hub.framesDue number + 1 + hub.work := by
  unfold sendTo
  cases found : hub.clients[number]? with
  | none => simp only []; omega
  | some client =>
    have leaves := send_leaves client hub.node.events
    have due := noMoreDue_afterSending found leaves
    dsimp only
    generalize client.send hub.node.events = sent at leaves due
    obtain ⟨client', events, outcome⟩ := sent
    cases outcome with
    | late =>
      have fewer := leaves.late rfl
      have before : hub.framesDue number = client.pending hub.node.events := by simp [framesDue, found]
      have inside : number < hub.clients.length := (List.getElem?_eq_some_iff.mp found).1
      have after : (hub.afterSending number client' events .late).framesDue number = client'.pending events := by
        simp [framesDue, afterSending, inside]
      have le := due.costs_le hub.rota.due
      have work : (hub.afterSending number client' events .late).work =
          (hub.afterSending number client' events .late).costs hub.rota.due +
            (hub.afterSending number client' events .late).cost (.sending number) := by
        rw [work, costs_due, costs_due]
        simp only [afterSending, Rota.place, List.map_append, costs_append, List.map_cons, List.map_nil, costs_cons, costs_nil]
        omega
      rw [work, cost, after]
      unfold Hub.work
      dsimp only at fewer le
      omega
    | waits =>
      have le := due.work_le rfl
      dsimp only at le ⊢
      omega
    | finished =>
      have le := due.work_le rfl
      dsimp only at le ⊢
      omega

theorem hear_work_lt (hub : Hub) (number : Nat) (heard : Heard) : (hub.hear number heard).work < 3 + hub.work := by
  cases heard with
  | message => simp only [hear]; omega
  | ping payload =>
    have le := (noMoreDue_update hub number (fun client => client.pong payload) fun _ => rfl).work_le rfl
    simp only [hear]
    omega
  | departure how =>
    cases how with
    | farewell =>
      have le := (noMoreDue_update hub number Client.part fun _ => Connection.receiver?_parted _).work_le rfl
      simp only [hear, work_call, cost]
      omega
    | fault => simp only [hear, work_call, cost]; omega
    | vanishing => simp only [hear, work_call, cost]; omega

theorem costs_withdraw_le (hub : Hub) (rota : Rota) (number : Nat) :
    hub.costs (rota.withdraw number).due ≤ hub.costs rota.due + hub.cost (.sending number) := by
  have late : hub.costs ((rota.late.filter fun c => c ≠ number).map .sending) ≤ hub.costs (rota.late.map .sending) := by
    induction rota.late with
    | nil => exact Nat.le_refl 0
    | cons client late ih =>
      rw [List.filter_cons]
      split <;> simp only [List.map_cons, costs_cons] at ih ⊢ <;> omega
  rw [costs_due, costs_due, Rota.withdraw]
  simp only [costs_append]
  split
  · rw [costs_nil]
    omega
  · rw [costs_cons, costs_nil]
    omega

theorem endConnection_work_lt (hub : Hub) (number : Nat) : (hub.endConnection number).work < 2 + hub.work := by
  unfold endConnection
  split
  · rename_i receiver found
    obtain ⟨client, here, _⟩ := Option.bind_eq_some_iff.mp found
    have inside : number < hub.clients.length := (List.getElem?_eq_some_iff.mp here).1
    generalize next : (⟨{ hub.node with events := hub.node.events.unsubscribe receiver },
      hub.clients.modify number Client.cut, hub.rota.withdraw number⟩ : Hub) = after
    have channel : ∀ other, (hub.node.events.unsubscribe receiver).pending other ≤ hub.node.events.pending other := by
      intro other
      rw [Channel.pending_unsubscribe]
      split <;> omega
    have due : NoMoreDue after hub := by
      subst next
      refine ⟨fun other => ?_, rfl⟩
      unfold framesDue
      simp only [List.getElem?_modify]
      cases hub.clients[other]? with
      | none => exact Nat.le_refl _
      | some c =>
        by_cases e : number = other
        · simp [e, Client.pending, Client.cut, Connection.receiver?_ended]
        · simpa [e] using pending_le_of_channel channel c
    have ended : after.cost (.sending number) = 1 := by
      subst next
      simp [cost, framesDue, here, Client.pending, Client.cut, Connection.receiver?_ended]
    have le := costs_withdraw_le after hub.rota number
    have mono := due.costs_le hub.rota.due
    have work : after.work = after.costs (hub.rota.withdraw number).due := by subst next; rfl
    rw [work]
    unfold Hub.work
    omega
  · omega

theorem openConnection_work_lt (hub : Hub) :
    hub.openConnection.work < hub.node.events.held.length + 3 + hub.work := by
  have due : NoMoreDue hub.openConnection hub := by
    refine ⟨fun number => ?_, rfl⟩
    have channel := Channel.pending_subscribe hub.node.events
    unfold framesDue openConnection
    simp only [List.getElem?_append]
    by_cases inside : number < hub.clients.length
    · simp only [inside, if_true, List.getElem?_eq_getElem]
      exact pending_le_of_channel (fun other => Nat.le_of_eq (channel other)) _
    · simp only [inside, if_false, List.getElem?_eq_none (Nat.le_of_not_lt inside)]
      cases [Client.ofReceiver hub.node.events.subscribe.1][number - hub.clients.length]? with
      | none => exact Nat.le_refl _
      | some client =>
        have : client.pending hub.node.events ≤ hub.node.events.held.length := by
          unfold Client.pending
          split
          · exact Channel.pending_le _ _
          · exact Nat.zero_le _
        exact Nat.le_trans (pending_le_of_channel (fun other => Nat.le_of_eq (channel other)) client) this
  have new := due.cost_le (.sending hub.clients.length)
  have mono := due.costs_le hub.rota.due
  have all : hub.framesDue hub.clients.length = hub.node.events.held.length := by simp [framesDue]
  have work : hub.openConnection.work =
      hub.openConnection.costs hub.rota.due + hub.openConnection.cost (.sending hub.clients.length) + 1 := by
    rw [Hub.work, openConnection, costs_due_call, costs_due_call]
    rfl
  rw [work]
  unfold Hub.work
  simp only [cost] at new ⊢
  omega

/-- A turn leads to less work than it costs. -/
theorem take_work_lt (hub : Hub) (turn : Turn) : (hub.take turn).work < hub.cost turn + hub.work := by
  cases turn with
  | sending number => exact sendTo_work_lt hub number
  | hearing number heard => exact hear_work_lt hub number heard
  | ending number => exact endConnection_work_lt hub number
  | greeting => simp only [take, work_call, cost]; omega
  | opening => exact openConnection_work_lt hub
  | answering => simp only [take, cost]; omega
  | idling => simp only [take, cost]; omega

theorem takeTurns_work_le (left : Nat) (hub : Hub) : (takeTurns left hub).work ≤ hub.work := by
  induction left generalizing hub with
  | zero => exact Nat.le_refl _
  | succ left ih =>
    rw [takeTurns]
    split
    · exact Nat.le_refl _
    · rename_i turn rest queue
      have := take_work_lt (hub.withQueue rest) turn
      have same : (hub.withQueue rest).cost turn = hub.cost turn := rfl
      rw [work_withQueue hub queue]
      exact Nat.le_trans (ih _) (by omega)

theorem work_endRound (hub : Hub) : work { hub with rota := hub.rota.endRound } = hub.work := by
  have same : ∀ turns, costs { hub with rota := hub.rota.endRound } turns = hub.costs turns := fun _ => rfl
  unfold work
  rw [same, costs_due, costs_due, Rota.endRound]
  simp only [List.map_reverse, costs_append, costs_reverse, List.map_nil, costs_nil]
  omega

/-- A round with turns in it makes the work smaller. -/
theorem round_work_lt (hub : Hub) (h : hub.rota.queue.isEmpty = false) : hub.round.work < hub.work := by
  unfold round
  rw [work_endRound, roundTurns, takeTurns]
  split
  · rename_i empty
    simp [empty] at h
  · rename_i turn rest queue
    have := take_work_lt (hub.withQueue rest) turn
    have same : (hub.withQueue rest).cost turn = hub.cost turn := rfl
    have := takeTurns_work_le 60 ((hub.withQueue rest).take turn)
    rw [work_withQueue hub queue]
    omega

/-! ### Settling -/

/-- Gives rounds of turns until no turn is due, or until a round has ended after which `stop` holds. -/
def run (stop : Hub → Bool) (hub : Hub) : Hub :=
  if hub.rota.queue.isEmpty || stop hub then hub else run stop hub.round
termination_by hub.work
decreasing_by
  rename_i h
  exact round_work_lt hub (by simpa using fun e => h (by simp [e]))

/-- Gives turns until no client has a frame to come. -/
def settle (hub : Hub) : Hub :=
  run (fun _ => false) hub.wake

/-- Settles a hub in which one more turn is due, after the turns of the sending sides. -/
def settleAfter (hub : Hub) (turn : Turn) : Hub :=
  run (fun _ => false) (hub.wake.call turn)

end PeerPost.Hub
