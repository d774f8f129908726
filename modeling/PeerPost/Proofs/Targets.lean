import Mathlib.Data.List.TakeWhile
import PeerPost.Http.Router
import PeerPost.Proofs.Strings

/-! # Targets of requests

The target of a conversation names its contact: the number that is written into the target is the number
that the route, the decoding of the segment and the reading of the number give back. -/

namespace PeerPost

/-! ### Decimal digits -/

namespace Decimal

theorem digitChar_facts : ∀ d < 10, isDigit (digitChar d) = true ∧ digitValue (digitChar d) = d := by decide

theorem digits_ne_nil (n : Nat) : digits n ≠ [] := by
  rw [digits]
  split <;> simp

theorem isDigit_of_mem_digits (n : Nat) : ∀ c ∈ digits n, isDigit c = true := by
  induction n using digits.induct with
  | case1 n small =>
    rw [digits, if_pos small]
    intro c hc
    rw [List.mem_singleton.mp hc]
    exact (digitChar_facts n small).1
  | case2 n large ih =>
    rw [digits, if_neg large]
    intro c hc
    rcases List.mem_append.mp hc with hc | hc
    · exact ih c hc
    · rw [List.mem_singleton.mp hc]
      exact (digitChar_facts _ (Nat.mod_lt n (by decide))).1

theorem value_digits (n : Nat) : value (digits n) = n := by
  induction n using digits.induct with
  | case1 n small =>
    rw [digits, if_pos small, value, List.foldl_cons, List.foldl_nil, (digitChar_facts n small).2]
    omega
  | case2 n large ih =>
    rw [digits, if_neg large, value_append, ih, value, List.foldl_cons, List.foldl_nil,
      (digitChar_facts _ (Nat.mod_lt n (by decide))).2]
    show n / 10 * 10 + (10 * 0 + n % 10) = n
    omega

/-- A digit has a number from 48 to 57. -/
theorem toNat_of_isDigit {c : Char} (h : isDigit c = true) : 48 ≤ c.toNat ∧ c.toNat ≤ 57 := by
  rw [isDigit, Bool.and_eq_true, decide_eq_true_eq, decide_eq_true_eq] at h
  exact h

theorem ne_of_isDigit {c d : Char} (h : isDigit c = true) (hd : isDigit d = false) : c ≠ d := by
  rintro rfl
  rw [h] at hd
  cases hd

/-- The digits of a number are read as this number. -/
theorem readInt?_digits (n : Nat) : readInt? (digits n) = some (n : Int) := by
  have all : isDigits (digits n) = true := by
    rw [isDigits, Bool.and_eq_true, List.all_eq_true]
    exact ⟨by simpa using digits_ne_nil n, isDigit_of_mem_digits n⟩
  have first := isDigit_of_mem_digits n
  unfold readInt? readSigned?
  split
  · next rest h => exact absurd (first '+' (by rw [h]; exact List.mem_cons_self)) (by decide)
  · next rest h => exact absurd (first '-' (by rw [h]; exact List.mem_cons_self)) (by decide)
  · rw [if_pos all, value_digits]

end Decimal

/-! ### Contact numbers -/

theorem Text.trim_of_not_blank {text : List Char} (h : ∀ c ∈ text, isBlank c = false) : trim text = text := by
  have skip {l : List Char} (hl : ∀ c ∈ l, isBlank c = false) : l.dropWhile isBlank = l := by
    cases l with
    | nil => rfl
    | cons c l => rw [List.dropWhile_cons_of_neg (by simp [hl c List.mem_cons_self])]
  rw [trim, trimStart, skip h, trimEnd, skip fun c hc => h c (List.mem_reverse.mp hc), List.reverse_reverse]

theorem not_isBlank_of_isDigit {c : Char} (h : Decimal.isDigit c = true) : Text.isBlank c = false := by
  obtain ⟨least, greatest⟩ := Decimal.toNat_of_isDigit h
  generalize hn : c.toNat = n at least greatest
  rw [Text.isBlank, hn]
  interval_cases n <;> rfl

/-- The text of a contact number is read as this number. -/
theorem ContactId.ofText_display (id : ContactId) : ofText id.display = .ok id := by
  have blank := fun c hc => not_isBlank_of_isDigit (Decimal.isDigit_of_mem_digits id.value c hc)
  have pos := id.pos
  have le := id.le_greatest
  have within : (-2147483648 ≤ (id.value : Int) && (id.value : Int) ≤ 2147483647) = true := by
    rw [Bool.and_eq_true, decide_eq_true_eq, decide_eq_true_eq]
    omega
  rw [ofText, display, String.toList_ofList, Text.trim_of_not_blank blank, Decimal.readIntWithin?_eq,
    Decimal.readInt?_digits, Option.filter_some, if_pos within]
  simp only [ofInt]
  rw [dif_pos (by omega)]
  rfl

/-! ### Targets -/

namespace Http

/-- The target of the conversation with a contact. -/
def conversationTarget (id : ContactId) : String :=
  "/v1/messages/" ++ id.display

/-- The target of the contacts. -/
def contactsTarget : String := "/v1/contacts"

theorem toList_conversationTarget (id : ContactId) :
    (conversationTarget id).toList = "/v1/messages/".toList ++ Decimal.digits id.value := by
  have number : id.display.toList = Decimal.digits id.value := String.toList_ofList
  rw [conversationTarget, String.toList_append, number]

/-- A target that starts with a slash and has no query is its own path. -/
theorem pathOf_of_plain {rest : List Char} (h : ∀ c ∈ rest, endsPath c = false) :
    pathOf ('/' :: rest) = '/' :: rest := by
  have all : ∀ c ∈ '/' :: rest, (!endsPath c) = true := by
    intro c hc
    rcases List.mem_cons.mp hc with rfl | hc
    · rfl
    · rw [h c hc]
      rfl
  show ('/' :: rest).takeWhile (fun c => !endsPath c) = _
  exact List.takeWhile_eq_self_iff.mpr all

/-- A segment without a percent sign is decoded as it stands. -/
theorem segmentText?_of_plain {text : String} (h : ∀ b ∈ Text.utf8 text, b ≠ 0x25) :
    segmentText? text.toList = some text := by
  have decoded {bytes : Bytes} (hb : ∀ b ∈ bytes, b ≠ 0x25) : percentDecode bytes = bytes := by
    induction bytes with
    | nil => rfl
    | cons b rest ih =>
      rw [percentDecode, ih fun c hc => hb c (List.mem_cons_of_mem _ hc)]
      exact fun _ _ _ e => absurd e (hb b List.mem_cons_self)
  rw [segmentText?, String.ofList_toList, decoded h, Text.ofUtf8?_utf8]

theorem utf8_display_plain (id : ContactId) : ∀ b ∈ Text.utf8 id.display, b ≠ 0x25 := by
  intro b hb
  rw [ContactId.display, Text.utf8_ofList] at hb
  obtain ⟨c, hc, hb⟩ := List.mem_flatMap.mp hb
  obtain ⟨least, greatest⟩ := Decimal.toNat_of_isDigit (Decimal.isDigit_of_mem_digits id.value c hc)
  have small : c.val.toNat ≤ 0x7F := Nat.le_trans greatest (by decide)
  simp only [String.utf8EncodeChar, if_pos small, List.mem_singleton] at hb
  rintro rfl
  have number := congrArg UInt8.toNat hb
  rw [UInt8.toNat_ofNat', show c.val.toNat = c.toNat from rfl] at number
  have value : (0x25 : UInt8).toNat = 0x25 := rfl
  omega

theorem segmentText?_display (id : ContactId) : segmentText? (Decimal.digits id.value) = some id.display := by
  have h := segmentText?_of_plain (utf8_display_plain id)
  rwa [ContactId.display, String.toList_ofList] at h

/-- The route of the target of a conversation has the digits of the contact number for a segment. -/
theorem route?_conversation {request : Request} {id : ContactId} (h : request.target = conversationTarget id) :
    request.route? = some (.conversation (Decimal.digits id.value)) := by
  have digit := Decimal.isDigit_of_mem_digits id.value
  have fixed : ∀ c ∈ "v1/messages/".toList, endsPath c = false := by simp [endsPath]
  have plain : ∀ c ∈ "v1/messages/".toList ++ Decimal.digits id.value, endsPath c = false := by
    intro c hc
    rcases List.mem_append.mp hc with hc | hc
    · exact fixed c hc
    · have query := Decimal.ne_of_isDigit (d := '?') (digit c hc) (by decide)
      have fragment := Decimal.ne_of_isDigit (d := '#') (digit c hc) (by decide)
      rw [endsPath, Bool.or_eq_false_iff]
      exact ⟨decide_eq_false query, decide_eq_false fragment⟩
  have noSlash : (Decimal.digits id.value).contains '/' = false := by
    rw [List.contains_eq_mem, decide_eq_false_iff_not]
    exact fun hc => Decimal.ne_of_isDigit (d := '/') (digit '/' hc) (by decide) rfl
  have nonempty : (Decimal.digits id.value).isEmpty = false := by
    simpa using Decimal.digits_ne_nil id.value
  rw [Request.route?, h, toList_conversationTarget]
  show Route.ofPath? (pathOf ('/' :: ("v1/messages/".toList ++ Decimal.digits id.value))) = _
  rw [pathOf_of_plain plain, Route.ofPath?, if_neg (by simp), if_neg (by simp)]
  show (if (Decimal.digits id.value).isEmpty || (Decimal.digits id.value).contains '/' then none
    else some (Route.conversation (Decimal.digits id.value))) = _
  rw [nonempty, noSlash]
  rfl

theorem route?_contacts {request : Request} (h : request.target = contactsTarget) :
    request.route? = some .contacts := by
  rw [Request.route?, h]
  rfl

end Http

end PeerPost
