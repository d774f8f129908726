import Mathlib.Data.Int.Order.Basic
import Mathlib.Data.List.Induction
import Mathlib.Order.Lattice
import PeerPost.Message

/-! # The order of times

Timestamps are in the order of their milliseconds, and the later of two is their maximum. The latest time
of a conversation is the maximum of its times and zero, so the time of the next message is after every
time of the conversation, except at the end of all times, which is its own successor. -/

namespace PeerPost

namespace Timestamp

instance : LinearOrder Timestamp :=
  LinearOrder.lift' (fun t : Timestamp => t.millis.toInt) fun a b h => by
    cases a
    cases b
    exact congrArg Timestamp.mk (Int64.toInt.inj h)

variable {a b t : Timestamp}

theorem le_iff : a ≤ b ↔ a.millis.toInt ≤ b.millis.toInt := Iff.rfl

theorem lt_iff : a < b ↔ a.millis.toInt < b.millis.toInt := by
  rw [← not_le, le_iff, Int.not_le]

theorem eq_of_toInt (h : a.millis.toInt = b.millis.toInt) : a = b :=
  le_antisymm (le_iff.mpr h.le) (le_iff.mpr h.ge)

theorem notAfter_iff : a.notAfter b = true ↔ a ≤ b := by
  rw [notAfter, decide_eq_true_eq, Int64.le_iff_toInt_le, le_iff]

theorem latest_eq_max (a b : Timestamp) : a.latest b = max a b := by
  simp only [latest, max_def, Int64.le_iff_toInt_le, le_iff]

theorem before?_eq_some (age : Nat) (room : Int64.minValue.toInt + age ≤ t.millis.toInt) :
    ∃ time, t.before? age = some time ∧ time.millis.toInt = t.millis.toInt - age := by
  have least : Int64.minValue.toInt = -9223372036854775808 := rfl
  have most : t.millis.toInt ≤ 9223372036854775807 := t.millis.toInt_le
  refine ⟨⟨Int64.ofInt (t.millis.toInt - age)⟩, ?_, ?_⟩
  · rw [before?, if_pos (by omega)]
  · exact Int64.toInt_ofInt_of_le (by omega) (by omega)

theorem before?_eq_none (age : Nat) (early : t.millis.toInt < Int64.minValue.toInt + age) :
    t.before? age = Option.none := by
  rw [before?, if_neg (by omega)]

/-! ### The next time -/

/-- The end of all times. -/
def last : Timestamp := ⟨Int64.maxValue⟩

theorem le_last (t : Timestamp) : t ≤ last := by
  rw [le_iff, last]
  exact t.millis.toInt_le

/-- The successor is one millisecond later, but no later than the end of all times. -/
theorem toInt_next (t : Timestamp) : t.next.millis.toInt = min (t.millis.toInt + 1) Int64.maxValue.toInt := by
  have bound := t.millis.toInt_le
  rw [Int64.toInt_maxValue] at bound ⊢
  unfold next
  split
  · next h =>
    have : t.millis.toInt = 2 ^ 63 - 1 := by rw [h, Int64.toInt_maxValue]
    omega
  · next h =>
    have below : t.millis.toInt ≠ 2 ^ 63 - 1 := fun e => h (Int64.toInt.inj (by rw [e, Int64.toInt_maxValue]))
    have least := t.millis.le_toInt
    have sum : (t.millis + 1).toInt = t.millis.toInt + 1 := by
      rw [Int64.toInt_add, Int64.toInt_one]
      exact Int.bmod_eq_of_le (by omega) (by omega)
    show (t.millis + 1).toInt = _
    omega

theorem lt_next_or_last (t : Timestamp) : t < t.next ∨ t.next = last := by
  have h := toInt_next t
  have bound := t.millis.toInt_le
  by_cases e : t.millis.toInt = Int64.maxValue.toInt
  · right
    refine le_antisymm (le_last _) ?_
    rw [le_iff, h, e]
    show Int64.maxValue.toInt ≤ _
    omega
  · left
    rw [lt_iff, h]
    omega

theorem le_next (t : Timestamp) : t ≤ t.next := by
  rcases lt_next_or_last t with h | h
  · exact le_of_lt h
  · rw [h]
    exact le_last t

end Timestamp

namespace MessageCount

/-! ### Counting headers -/

theorem ofHeaders_append (headers : List MessageHeader) (header : MessageHeader) :
    ofHeaders (headers ++ [header]) = (ofHeaders headers).add header := by
  unfold ofHeaders
  rw [List.foldl_append]
  rfl

/-- The counters are the number of headers, the number of those not read, and the maximum of their times
and zero. -/
theorem ofHeaders_eq (headers : List MessageHeader) :
    ofHeaders headers = ⟨headers.length, (headers.filter fun h => !h.read).length,
      (headers.map (·.timestamp)).foldl max Timestamp.none⟩ := by
  induction headers using List.reverseRecOn with
  | nil => rfl
  | append_singleton headers header ih =>
    rw [ofHeaders_append, ih, add, Timestamp.latest_eq_max, List.map_append, List.foldl_append]
    cases h : header.read <;> simp [h]

theorem latest_eq (headers : List MessageHeader) :
    (ofHeaders headers).latest = (headers.map (·.timestamp)).foldl max Timestamp.none := by
  rw [ofHeaders_eq]

theorem timestamp_le_latest {headers : List MessageHeader} {header : MessageHeader} (hm : header ∈ headers) :
    header.timestamp ≤ (ofHeaders headers).latest := by
  induction headers using List.reverseRecOn with
  | nil => cases hm
  | append_singleton headers other ih =>
    rw [ofHeaders_append, add, Timestamp.latest_eq_max]
    rcases List.mem_append.mp hm with hm | hm
    · exact le_trans (ih hm) (le_max_left _ _)
    · rw [List.mem_singleton.mp hm]
      exact le_max_right _ _

theorem nextTime_eq_max (count : MessageCount) (now : Timestamp) :
    count.nextTime now = max now count.latest.next := Timestamp.latest_eq_max _ _

theorem now_le_nextTime (count : MessageCount) (now : Timestamp) : now ≤ count.nextTime now := by
  rw [nextTime_eq_max]
  exact le_max_left _ _

theorem latest_le_nextTime (count : MessageCount) (now : Timestamp) : count.latest ≤ count.nextTime now := by
  rw [nextTime_eq_max]
  exact le_trans (Timestamp.le_next _) (le_max_right _ _)

/-- The next time is after every time of the conversation, or the end of all times. -/
theorem lt_nextTime_or_last {headers : List MessageHeader} {header : MessageHeader} (hm : header ∈ headers)
    (now : Timestamp) :
    header.timestamp < (ofHeaders headers).nextTime now ∨ (ofHeaders headers).nextTime now = Timestamp.last := by
  have le := timestamp_le_latest hm
  have next_le : (ofHeaders headers).latest.next ≤ (ofHeaders headers).nextTime now := by
    rw [nextTime_eq_max]
    exact le_max_right _ _
  rcases Timestamp.lt_next_or_last (ofHeaders headers).latest with h | h
  · exact Or.inl (lt_of_le_of_lt le (lt_of_lt_of_le h next_le))
  · right
    rw [h] at next_le
    exact le_antisymm (Timestamp.le_last _) next_le

theorem timestamp_le_nextTime {headers : List MessageHeader} {header : MessageHeader} (hm : header ∈ headers)
    (now : Timestamp) : header.timestamp ≤ (ofHeaders headers).nextTime now := by
  rcases lt_nextTime_or_last hm now with h | h
  · exact le_of_lt h
  · rw [h]
    exact Timestamp.le_last _

end MessageCount

end PeerPost
