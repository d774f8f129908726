import PeerPost.App
import PeerPost.Proofs.Addresses
import PeerPost.Proofs.Authors
import PeerPost.Proofs.Origins
import PeerPost.Proofs.Receptions
import PeerPost.Proofs.Seeding

/-! # What a node needs to start

The settings are checked one condition after the other, and the first that fails is reported. What passes the
checks is enough to start: an author can be created, there is an address to bind with the port of the settings,
and there is a channel, unless the memory for as many frames as were asked for exceeds all bounds. The node of the
application that is built then comes about like every other. -/

namespace PeerPost

/-! ### Checks in an order -/

/-- The result of checking conditions in their order: the error of the first that fails. -/
inductive Decides {ε : Type} : List (Prop × ε) → Except ε Unit → Prop
  | done : Decides [] (.ok ())
  | fail {condition : Prop} {e : ε} {rest : List (Prop × ε)} (fails : ¬condition) :
      Decides ((condition, e) :: rest) (.error e)
  | pass {condition : Prop} {e : ε} {rest : List (Prop × ε)} {result : Except ε Unit} (holds : condition)
      (later : Decides rest result) : Decides ((condition, e) :: rest) result

namespace Decides

variable {ε : Type} {conditions others : List (Prop × ε)} {result other : Except ε Unit}

theorem append (first : Decides conditions result) (second : Decides others other) :
    Decides (conditions ++ others) (result.bind fun _ => other) := by
  induction first with
  | done => exact second
  | fail fails => exact .fail fails
  | pass holds _ ih => exact .pass holds ih

theorem ok_iff (h : Decides conditions result) : result = .ok () ↔ ∀ c ∈ conditions, c.1 := by
  induction h with
  | done => simp
  | fail fails => simp [fails]
  | pass holds _ ih => simp [holds, ih]

theorem error_iff (h : Decides conditions result) {e : ε} : result = .error e ↔
    ∃ before condition after, conditions = before ++ (condition, e) :: after ∧ (∀ c ∈ before, c.1) ∧ ¬condition := by
  induction h with
  | done => simp
  | @fail condition e' rest fails =>
    constructor
    · rintro ⟨⟩
      exact ⟨[], condition, rest, rfl, nofun, fails⟩
    · rintro ⟨before, other, after, cut, holds, -⟩
      cases before with
      | nil =>
        cases cut
        rfl
      | cons c before =>
        cases cut
        exact absurd (holds _ List.mem_cons_self) fails
  | @pass condition e' rest result holds _ ih =>
    rw [ih]
    constructor
    · rintro ⟨before, other, after, rfl, earlier, fails⟩
      exact ⟨(condition, e') :: before, other, after, rfl, List.forall_mem_cons.mpr ⟨holds, earlier⟩, fails⟩
    · rintro ⟨before, other, after, cut, earlier, fails⟩
      cases before with
      | nil =>
        cases cut
        exact absurd holds fails
      | cons c before =>
        cases cut
        exact ⟨before, other, after, rfl, (List.forall_mem_cons.mp earlier).2, fails⟩

end Decides

/-! ### The conditions of settings -/

/-- What settings must meet, in the order in which it is checked, with the error for each. -/
def Settings.conditions (settings : Settings) : List (Prop × SettingsError) :=
  let server := settings.server
  let nameSize := Text.size settings.node.localAuthorName
  [(server.port.toNat ≠ 0, .port),
    (1 ≤ server.requestTimeoutSecs.toNat ∧ server.requestTimeoutSecs.toNat ≤ 300, .timeout),
    (∃ address, SocketAddress.ofChars? server.bindText.toList = some address, .bindAddress server.bindText),
    (settings.events.channelCapacity.toNat ≠ 0, .channelCapacity),
    (1 ≤ nameSize ∧ nameSize ≤ 50, .authorName)]

theorem ServerSettings.decides (server : ServerSettings) : Decides
    [(server.port.toNat ≠ 0, .port),
      (1 ≤ server.requestTimeoutSecs.toNat ∧ server.requestTimeoutSecs.toNat ≤ 300, .timeout),
      (∃ address, SocketAddress.ofChars? server.bindText.toList = some address, .bindAddress server.bindText)]
    server.validate := by
  unfold validate
  split
  · next zero => exact .fail fun nonzero => nonzero (congrArg UInt16.toNat zero)
  next nonzero =>
  refine .pass (fun zero => nonzero (UInt16.toNat.inj zero)) ?_
  split
  · next outside =>
    refine .fail fun inside => ?_
    rcases outside with zero | large
    · rw [zero] at inside
      exact absurd inside.1 (by decide)
    · exact absurd inside.2 (Nat.not_le_of_lt (UInt64.lt_iff_toNat_lt.mp large))
  · next inside =>
    rw [not_or] at inside
    refine .pass ⟨?_, ?_⟩ ?_
    · exact Nat.pos_of_ne_zero fun zero => inside.1 (UInt64.toNat.inj zero)
    · exact Nat.le_of_not_lt fun large => inside.2 (UInt64.lt_iff_toNat_lt.mpr large)
    · unfold socketAddress
      cases SocketAddress.ofChars? server.bindText.toList with
      | none => exact .fail (by simp)
      | some address => exact .pass ⟨address, rfl⟩ .done

theorem EventSettings.decides (events : EventSettings) :
    Decides [(events.channelCapacity.toNat ≠ 0, SettingsError.channelCapacity)] events.validate := by
  unfold validate
  split
  · next zero => exact .fail fun nonzero => nonzero (congrArg UInt64.toNat zero)
  · next nonzero => exact .pass (fun zero => nonzero (UInt64.toNat.inj zero)) .done

theorem NodeSettings.decides (node : NodeSettings) :
    Decides [(Author.ValidName node.localAuthorName, SettingsError.authorName)] node.validate := by
  simp only [validate]
  split
  · next outside =>
    refine .fail fun valid => ?_
    unfold Author.ValidName at valid
    omega
  · next inside =>
    refine .pass ?_ .done
    unfold Author.ValidName
    omega

theorem Settings.decides (settings : Settings) : Decides settings.conditions settings.validate :=
  settings.server.decides.append (settings.events.decides.append settings.node.decides)

theorem Settings.validate_ok_iff {settings : Settings} : settings.validate = .ok () ↔
    settings.server.port.toNat ≠ 0 ∧
      (1 ≤ settings.server.requestTimeoutSecs.toNat ∧ settings.server.requestTimeoutSecs.toNat ≤ 300) ∧
      (∃ address, SocketAddress.ofChars? settings.server.bindText.toList = some address) ∧
      settings.events.channelCapacity.toNat ≠ 0 ∧ Author.ValidName settings.node.localAuthorName := by
  simp only [settings.decides.ok_iff, conditions, List.forall_mem_cons, List.not_mem_nil, false_implies, implies_true,
    and_true]
  rfl

theorem NodeSettings.validate_ok_iff {node : NodeSettings} :
    node.validate = .ok () ↔ Author.ValidName node.localAuthorName := by
  simp [node.decides.ok_iff]

/-! ### Channels -/

namespace Channel

/-- The memory for a channel stays within its bound up to a capacity of 2 to the power of 57. -/
theorem memory_le_iff {capacity : Nat} : roundUp capacity * slotSize ≤ maxMemory ↔ capacity ≤ 2 ^ 57 := by
  rw [← roundUp_le_iff]
  obtain ⟨j, hj⟩ := exists_roundUp capacity
  rw [hj, Nat.pow_le_pow_iff_right (by decide), slotSize, maxMemory]
  constructor
  · intro fits
    by_contra large
    have least : 2 ^ 58 ≤ 2 ^ j := Nat.pow_le_pow_right (by decide) (by omega)
    omega
  · intro small
    have most : 2 ^ j ≤ 2 ^ 57 := Nat.pow_le_pow_right (by decide) small
    omega

/-- What comes of the capacity that is asked for. -/
theorem create_cases (capacity : Nat) :
    (capacity = 0 ∧ create capacity = .error .zeroCapacity) ∨
      (maxCapacity < capacity ∧ create capacity = .error .capacityTooLarge) ∨
      (2 ^ 57 < capacity ∧ capacity ≤ maxCapacity ∧ create capacity = .error .memoryTooLarge) ∨
      (0 < capacity ∧ capacity ≤ 2 ^ 57 ∧ create capacity = .ok ⟨roundUp capacity, 0, [], [], 0⟩) := by
  unfold create
  split
  · next zero => exact Or.inl ⟨zero, rfl⟩
  next nonzero =>
  split
  · next large => exact Or.inr (Or.inl ⟨large, rfl⟩)
  next fits =>
  split
  · next large =>
    refine Or.inr (Or.inr (Or.inl ⟨Nat.lt_of_not_le fun small => ?_, Nat.le_of_not_lt fits, rfl⟩))
    exact Nat.not_le_of_lt large (memory_le_iff.mpr small)
  · next small =>
    refine Or.inr (Or.inr (Or.inr ⟨Nat.pos_of_ne_zero nonzero, ?_, rfl⟩))
    exact memory_le_iff.mp (Nat.le_of_not_lt small)

theorem create_ok_iff {capacity : Nat} :
    (∃ channel, create capacity = .ok channel) ↔ 0 < capacity ∧ capacity ≤ 2 ^ 57 := by
  have most : 2 ^ 57 ≤ maxCapacity := by decide
  rcases create_cases capacity with ⟨zero, e⟩ | ⟨large, e⟩ | ⟨large, -, e⟩ | ⟨least, small, e⟩
  · subst zero
    simp [e]
  · simp only [e, reduceCtorEq, exists_false, false_iff, not_and]
    omega
  · simp only [e, reduceCtorEq, exists_false, false_iff, not_and]
    omega
  · exact ⟨fun _ => ⟨least, small⟩, fun _ => ⟨_, e⟩⟩

end Channel

/-! ### Starting -/

theorem Node.create_of_valid {name : String} {key : Bytes} (hname : Author.ValidName name) (hkey : Author.ValidKey key)
    (capacity : Nat) : Node.create name key capacity =
      match Channel.create capacity with
      | .ok channel =>
        .ok (start ⟨Author.deriveId Author.currentVersion name key, Author.currentVersion, name, key⟩ channel)
      | .error fault => .error (.channel fault) := by
  rw [create, Author.create_of_valid hname hkey]
  simp only [ofAuthor]
  cases Channel.create capacity <;> rfl

theorem Node.create_ok_iff {name : String} {key : Bytes} {capacity : Nat} (hname : Author.ValidName name)
    (hkey : Author.ValidKey key) :
    (∃ node, Node.create name key capacity = .ok node) ↔ 0 < capacity ∧ capacity ≤ 2 ^ 57 := by
  rw [create_of_valid hname hkey, ← Channel.create_ok_iff]
  cases Channel.create capacity <;> simp

theorem Node.reached_create {name : String} {key : Bytes} {capacity : Nat} {node : Node}
    (made : Node.create name key capacity = .ok node) : Reached node [] := by
  unfold create ofAuthor at made
  split at made
  · cases made
  · next author created =>
    cases channel : Channel.create capacity with
    | error fault => simp [channel] at made
    | ok events =>
      simp only [channel] at made
      cases made
      exact .start author events

theorem ServerSettings.socketAddress_eq_ok {server : ServerSettings} {address : SocketAddress} :
    server.socketAddress = .ok address ↔ SocketAddress.ofChars? server.bindText.toList = some address := by
  unfold socketAddress
  cases SocketAddress.ofChars? server.bindText.toList <;> simp

/-- Whatever the host is, the port of the address to bind is that of the settings. -/
theorem ServerSettings.port_socketAddress {server : ServerSettings} {address : SocketAddress}
    (h : server.socketAddress = .ok address) : address.port = server.port := by
  have text : server.bindText.toList = server.host.toList ++ ':' :: Decimal.digits server.port.toNat := by
    simp [bindText]
  rw [socketAddress_eq_ok, text] at h
  exact SocketAddress.port_of_ofChars? h

/-- The checks of settings are what a start needs. Settings pass exactly if they meet their conditions, and
otherwise the first condition that fails is reported; the name passes exactly if an author can have it with every
key. Settings that pass give an address to bind; with every key there is then a node, exactly if the capacity of
its channel is at most 2 to the power of 57; and its router is never given the wildcard as one of several origins.
An address to bind has the port of the settings, whatever the host is. -/
theorem validation_is_what_start_needs (settings : Settings) :
    let name := settings.node.localAuthorName
    let capacity := settings.events.channelCapacity.toNat
    (settings.validate = .ok () ↔ ∀ c ∈ settings.conditions, c.1) ∧
      (∀ e, settings.validate = .error e ↔ ∃ before condition after,
        settings.conditions = before ++ (condition, e) :: after ∧ (∀ c ∈ before, c.1) ∧ ¬condition) ∧
      (settings.node.validate = .ok () ↔
        ∀ key : Bytes, 1 ≤ key.length ∧ key.length ≤ 32 → ∃ author, Author.create name key = .ok author) ∧
      (settings.validate = .ok () →
        (∀ key : Bytes, 1 ≤ key.length ∧ key.length ≤ 32 →
          ((∃ node, Node.create name key capacity = .ok node) ↔ capacity ≤ 2 ^ 57)) ∧
        ∃ address, settings.server.socketAddress = .ok address) ∧
      (∀ known, settings.server.origins = .listed known → "*" ∉ known) ∧
      ∀ address, settings.server.socketAddress = .ok address → address.port = settings.server.port := by
  intro name capacity
  refine ⟨settings.decides.ok_iff, fun e => settings.decides.error_iff, ?_, fun ok => ?_,
    fun known => Http.Origins.wildcard_not_mem, fun address => ServerSettings.port_socketAddress⟩
  · rw [NodeSettings.validate_ok_iff]
    constructor
    · intro hname key hkey
      exact ⟨_, Author.create_of_valid hname hkey⟩
    · intro all
      obtain ⟨author, created⟩ := all [0] (by decide)
      exact (Author.create_eq_ok_iff.mp created).1
  · obtain ⟨-, -, ⟨address, bound⟩, nonzero, hname⟩ := Settings.validate_ok_iff.mp ok
    refine ⟨fun key hkey => ?_, address, ServerSettings.socketAddress_eq_ok.mpr bound⟩
    rw [Node.create_ok_iff hname hkey]
    exact and_iff_right (Nat.pos_of_ne_zero nonzero)

example : Settings.default.validate = .ok () := by decide +kernel

/-- A capacity that passes the checks and is within the bound of a channel may need more memory than there can
be. -/
theorem valid_capacity_beyond_memory :
    let settings := { Settings.default with events := ⟨2305843009213693952⟩ }
    let capacity := settings.events.channelCapacity.toNat
    settings.validate = .ok () ∧ capacity ≤ Channel.maxCapacity ∧
      Node.create settings.node.localAuthorName (List.replicate 32 1) capacity =
        .error (.channel .memoryTooLarge) := by
  intro settings capacity
  have full : Channel.create capacity = .error .memoryTooLarge := by
    rcases Channel.create_cases capacity with ⟨zero, -⟩ | ⟨large, -⟩ | ⟨-, -, e⟩ | ⟨-, small, -⟩
    · exact absurd zero (by decide)
    · exact absurd large (by decide)
    · exact e
    · exact absurd small (by decide)
  refine ⟨by decide +kernel, by decide, ?_⟩
  rw [Node.create_of_valid (by decide +kernel) (by decide), full]

/-! ### The application -/

namespace App

variable {settings : Settings} {key : Bytes} {demoKeys : Demo.Keys} {now : Timestamp} {app : App}

/-- Settings that pass the checks and ask for no demo contacts build an application exactly if the capacity of the
channel is at most 2 to the power of 57. -/
theorem build_ok_iff (valid : settings.validate = .ok ()) (keyed : Author.ValidKey key)
    (plain : settings.node.seedDemoContacts = false) :
    let capacity := settings.events.channelCapacity.toNat
    (∃ app, build settings key demoKeys now = .ok app) ↔ capacity ≤ 2 ^ 57 := by
  intro capacity
  obtain ⟨-, -, -, nonzero, named⟩ := Settings.validate_ok_iff.mp valid
  have created : (∃ node, Node.create settings.node.localAuthorName key capacity = .ok node) ↔ capacity ≤ 2 ^ 57 := by
    rw [Node.create_ok_iff named keyed]
    exact and_iff_right (Nat.pos_of_ne_zero nonzero)
  rw [← created, build]
  cases Node.create settings.node.localAuthorName key capacity with
  | error failure => simp
  | ok node => simp [plain]

/-- The node of an application that is built comes about from a new one. -/
theorem reached_build (built : build settings key demoKeys now = .ok app) : ∃ stored, Reached app.node stored := by
  unfold build at built
  split at built
  · cases built
  · next node made =>
    have fresh : Reached node [] := Node.reached_create made
    split at built
    · obtain ⟨more, seeded⟩ := Demo.reached_seed fresh demoKeys now
      split at built
      · next next succeeded =>
        cases built
        rw [succeeded] at seeded
        exact ⟨_, seeded⟩
      · cases built
    · cases built
      exact ⟨[], fresh⟩

/-- Requests to an application leave one whose node comes about too. -/
theorem reached_serve {stored : List StoredMessage} (h : Reached app.node stored) (request : Http.Request) :
    ∃ more, Reached (app.serve now request).2.node (stored ++ more) :=
  ⟨_, h.request app.origins now request⟩

end App

end PeerPost
