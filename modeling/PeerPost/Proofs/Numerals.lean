import PeerPost.Proofs.Contacts
import PeerPost.Proofs.Origins
import PeerPost.Proofs.Targets

/-! # Which texts are contact numbers

A text that is read as a contact number is an optional plus sign and digits between white space. What is
refused falls into two kinds: integers of 32 bits that are not positive, and all other texts. The text of a
contact number has no sign and no leading zeros, and every text that is read as the number is this one after
white space, a plus sign and zeros, and before white space. -/

namespace PeerPost

namespace Decimal

/-! ### Integers between white space -/

/-- Whether a text is a sign and one or more digits between white space. -/
structure Spells (text : String) (sign digits : List Char) : Prop where
  between : ∃ left right, text.toList = left ++ (sign ++ digits) ++ right ∧ Text.Blank left ∧ Text.Blank right
  nonempty : digits ≠ []
  digits : ∀ c ∈ digits, c.isDigit = true

/-- Whether a text is an integer between white space, with an optional sign and any leading zeros. -/
def Denotes (text : String) (n : Int) : Prop :=
  ∃ sign digits, Spells text sign digits ∧
    ((sign = [] ∨ sign = ['+']) ∧ n = Nat.ofDigitChars 10 digits 0 ∨
      sign = ['-'] ∧ n = -(Nat.ofDigitChars 10 digits 0 : Int))

theorem isDigit_eq (c : Char) : isDigit c = c.isDigit := rfl

theorem value_eq (ds : List Char) : value ds = Nat.ofDigitChars 10 ds 0 := rfl

theorem isDigits_iff {ds : List Char} : isDigits ds = true ↔ ds ≠ [] ∧ ∀ c ∈ ds, c.isDigit = true := by
  simp [isDigits, isDigit_eq]

/-- An integer is read of a sign and digits, and of nothing else. -/
theorem readInt?_eq_some_iff {part : List Char} {n : Int} : readInt? part = some n ↔
    ∃ sign digits, part = sign ++ digits ∧ (digits ≠ [] ∧ ∀ c ∈ digits, c.isDigit = true) ∧
      ((sign = [] ∨ sign = ['+']) ∧ n = Nat.ofDigitChars 10 digits 0 ∨
        sign = ['-'] ∧ n = -(Nat.ofDigitChars 10 digits 0 : Int)) := by
  simp only [← isDigits_iff, ← value_eq]
  constructor
  · intro read
    unfold readInt? readSigned? at read
    split at read
    · next rest =>
      split at read
      · next all => exact ⟨['+'], rest, rfl, all, Or.inl ⟨Or.inr rfl, (Option.some.inj read).symm⟩⟩
      · cases read
    · next rest =>
      split at read
      · next all => exact ⟨['-'], rest, rfl, all, Or.inr ⟨rfl, (Option.some.inj read).symm⟩⟩
      · cases read
    · split at read
      · next all => exact ⟨[], part, rfl, all, Or.inl ⟨Or.inl rfl, (Option.some.inj read).symm⟩⟩
      · cases read
  · rintro ⟨sign, digits, rfl, all, ⟨rfl | rfl, rfl⟩ | ⟨rfl, rfl⟩⟩
    · -- Digits do not begin with a sign.
      have first := (isDigits_iff.mp all).2
      rw [List.nil_append]
      unfold readInt? readSigned?
      split
      · exact absurd (first '+' List.mem_cons_self) (by decide)
      · exact absurd (first '-' List.mem_cons_self) (by decide)
      · rw [if_pos all]
    · exact if_pos all
    · exact if_pos all

section Between

variable {text : String} {sign ds : List Char} {n : Int}

theorem tight_of_digits (plain : ∀ c ∈ sign, Text.isBlank c = false) (all : ∀ c ∈ ds, c.isDigit = true) :
    Text.Tight (sign ++ ds) := by
  have clean : ∀ c ∈ sign ++ ds, Text.isBlank c = false := by
    intro c hc
    rcases List.mem_append.mp hc with hc | hc
    · exact plain c hc
    · exact not_isBlank_of_isDigit ((isDigit_eq c).trans (all c hc))
  exact ⟨fun c hc => clean c (List.mem_of_mem_head? hc), fun c hc => clean c (List.mem_of_mem_getLast? hc)⟩

theorem spells_iff (plain : ∀ c ∈ sign, Text.isBlank c = false) : Spells text sign ds ↔
    Text.trim text.toList = sign ++ ds ∧ ds ≠ [] ∧ ∀ c ∈ ds, c.isDigit = true := by
  constructor
  · rintro ⟨between, nonempty, all⟩
    have some : sign ++ ds ≠ [] := List.append_ne_nil_of_right_ne_nil _ nonempty
    exact ⟨(Text.trim_eq_iff some).mpr ⟨tight_of_digits plain all, between⟩, nonempty, all⟩
  · rintro ⟨trimmed, nonempty, all⟩
    have some : sign ++ ds ≠ [] := List.append_ne_nil_of_right_ne_nil _ nonempty
    exact ⟨((Text.trim_eq_iff some).mp trimmed).2, nonempty, all⟩

/-- What is read of a text without the white space at its two ends is the integer that the text is. -/
theorem denotes_iff : Denotes text n ↔ readInt? (Text.trim text.toList) = some n := by
  have sign_plain {sign : List Char} {p q : Prop}
      (h : (sign = [] ∨ sign = ['+']) ∧ p ∨ sign = ['-'] ∧ q) : ∀ c ∈ sign, Text.isBlank c = false := by
    rcases h with ⟨rfl | rfl, -⟩ | ⟨rfl, -⟩ <;> simp [Text.isBlank]
  rw [readInt?_eq_some_iff]
  constructor
  · rintro ⟨sign, digits, spells, value⟩
    obtain ⟨trimmed, all⟩ := (spells_iff (sign_plain value)).mp spells
    exact ⟨sign, digits, trimmed, all, value⟩
  · rintro ⟨sign, digits, trimmed, all, value⟩
    exact ⟨sign, digits, (spells_iff (sign_plain value)).mpr ⟨trimmed, all⟩, value⟩

theorem Denotes.unique {m : Int} (h : Denotes text n) (h' : Denotes text m) : n = m :=
  Option.some.inj ((denotes_iff.mp h).symm.trans (denotes_iff.mp h'))

/-- Only a text without a minus sign is a positive integer. -/
theorem denotes_pos_iff (pos : 0 < n) : Denotes text n ↔
    ∃ sign digits, (sign = [] ∨ sign = ['+']) ∧ Spells text sign digits ∧ Nat.ofDigitChars 10 digits 0 = n := by
  constructor
  · rintro ⟨sign, digits, spells, ⟨plus, value⟩ | ⟨-, value⟩⟩
    · exact ⟨sign, digits, plus, spells, value.symm⟩
    · omega
  · rintro ⟨sign, digits, plus, spells, value⟩
    exact ⟨sign, digits, spells, Or.inl ⟨plus, value.symm⟩⟩

end Between

/-! ### Canonical digits -/

theorem digitChar_digitValue {c : Char} (h : isDigit c = true) : digitChar (digitValue c) = c := by
  obtain ⟨least, -⟩ := toNat_of_isDigit h
  have zero : '0'.toNat = 48 := rfl
  rw [digitChar, digitValue, zero, Nat.add_sub_of_le least, Char.ofNat_toNat]

/-- Digits without a leading zero are the digits of their value. -/
theorem digits_value {ds : List Char} (nonempty : ds ≠ []) (all : ∀ c ∈ ds, isDigit c = true)
    (first : ds.head? ≠ some '0') : digits (value ds) = ds ∧ 0 < value ds := by
  induction ds using List.reverseRecOn with
  | nil => exact absurd rfl nonempty
  | append_singleton ds c ih =>
    have last := all c (List.mem_append_right _ List.mem_cons_self)
    obtain ⟨least, greatest⟩ := toNat_of_isDigit last
    have zero : '0'.toNat = 48 := rfl
    have small : digitValue c < 10 := by
      rw [digitValue]
      omega
    have sum : value (ds ++ [c]) = value ds * 10 + digitValue c := by
      rw [value_append]
      show value ds * 10 + (10 * 0 + digitValue c) = _
      omega
    cases ds with
    | nil =>
      have one : value ([] ++ [c]) = digitValue c := by
        rw [sum]
        exact Nat.zero_add _
      rw [one, digits, if_pos small, digitChar_digitValue last]
      refine ⟨rfl, Nat.pos_of_ne_zero fun none => first ?_⟩
      rw [← digitChar_digitValue last, none]
      rfl
    | cons d ds =>
      obtain ⟨same, pos⟩ := ih (List.cons_ne_nil d ds) (fun x hx => all x (List.mem_append_left _ hx)) first
      refine ⟨?_, by omega⟩
      rw [sum, digits, if_neg (by omega), show (value (d :: ds) * 10 + digitValue c) / 10 = value (d :: ds) by omega,
        show (value (d :: ds) * 10 + digitValue c) % 10 = digitValue c by omega, same, digitChar_digitValue last]

theorem digitChar_eq : ∀ d < 10, digitChar d = Nat.digitChar d := by decide

theorem digits_eq_toDigits (n : Nat) : digits n = Nat.toDigits 10 n := by
  induction n using digits.induct with
  | case1 n small => rw [digits, if_pos small, Nat.toDigits_of_lt_base small, digitChar_eq n small]
  | case2 n large ih =>
    rw [digits, if_neg large, ih, Nat.toDigits_of_base_le (n := n) (by decide) (by omega),
      digitChar_eq _ (Nat.mod_lt n (by decide))]

theorem toString_eq (n : Nat) : toString n = String.ofList (digits n) := by
  rw [Nat.toString_eq_ofList_toDigits, digits_eq_toDigits]

theorem toString_eq_ofInt (n : Int) : toString n = String.ofList (ofInt n) := by
  cases n with
  | ofNat n => exact toString_eq n
  | negSucc n =>
    show String.ofList ['-'] ++ toString (n + 1) = String.ofList (['-'] ++ digits (n + 1))
    rw [toString_eq, String.ofList_append]

theorem value_zeros (zeros : List Char) (h : ∀ c ∈ zeros, c = '0') (ds : List Char) :
    value (zeros ++ ds) = value ds := by
  have none : value zeros = 0 := by
    rw [List.eq_replicate_of_mem h]
    induction zeros.length with
    | zero => rfl
    | succ count ih =>
      rw [List.replicate_succ', value_append, ih]
      rfl
  rw [value_append, none, Nat.zero_mul, Nat.zero_add]

/-- Digits of a positive value are zeros and then the digits of the value. -/
theorem zeros_and_digits {ds : List Char} (all : ∀ c ∈ ds, isDigit c = true) (pos : 0 < value ds) :
    ∃ zeros, ds = zeros ++ digits (value ds) ∧ ∀ c ∈ zeros, c = '0' := by
  let rest := ds.dropWhile (· = '0')
  have split : ds = ds.takeWhile (· = '0') ++ rest := List.takeWhile_append_dropWhile.symm
  have zeros : ∀ c ∈ ds.takeWhile (· = '0'), c = '0' := fun c hc =>
    of_decide_eq_true (List.all_eq_true.mp List.all_takeWhile c hc)
  have same : value ds = value rest := by
    rw [split]
    exact value_zeros _ zeros rest
  have nonempty : rest ≠ [] := fun none => by
    rw [same, none] at pos
    exact absurd pos (by decide)
  have first : rest.head? ≠ some '0' := fun zero => by
    have kept := List.head?_dropWhile_not (· = '0') ds
    rw [show (ds.dropWhile (· = '0')).head? = some '0' from zero] at kept
    exact absurd kept (by decide)
  have digits_rest := (digits_value nonempty (fun c hc => all c (split ▸ List.mem_append_right _ hc)) first).1
  exact ⟨ds.takeWhile (· = '0'), by rw [same, digits_rest]; exact split, zeros⟩

end Decimal

/-! ### Contact numbers -/

namespace ContactId

theorem ofInt_eq_ok_iff {n : Int} {id : ContactId} : ofInt n = .ok id ↔ n = id.value := by
  have pos := id.pos
  have le := id.le_greatest
  unfold ofInt
  split
  · next h =>
    rw [Except.ok.injEq]
    constructor
    · rintro rfl
      exact (Int.toNat_of_nonneg (by omega)).symm
    · rintro rfl
      exact value_injective rfl
  · next h =>
    constructor
    · intro same
      cases same
    · intro same
      exact absurd ⟨by omega, by omega⟩ h

/-- Every reading of a contact number is one of three: a number, an integer of 32 bits that is not positive,
or no integer of 32 bits. -/
inductive Reading (text : String) : Except ValidationError ContactId → Prop
  | number (id : ContactId) (denotes : Decimal.Denotes text id.value) : Reading text (.ok id)
  | notPositive (n : Int) (denotes : Decimal.Denotes text n) (least : -2147483648 ≤ n) (greatest : n ≤ 0) :
      Reading text (.error (.outOfRange "contactId" 1 2147483647 n))
  | noInteger (none : ¬∃ n, Decimal.Denotes text n ∧ -2147483648 ≤ n ∧ n ≤ 2147483647) :
      Reading text (.error (.invalidFormat "contactId" "not an integer"))

theorem reading (text : String) : Reading text (ofText text) := by
  rw [ofText, Decimal.readIntWithin?_eq]
  split
  · next n found =>
    obtain ⟨found, within⟩ := Option.filter_eq_some_iff.mp found
    simp only [Bool.and_eq_true, decide_eq_true_eq] at within
    have denotes := Decimal.denotes_iff.mpr found
    by_cases pos : 0 < n
    · have number : ofInt n = .ok ⟨n.toNat, by omega, by omega⟩ :=
        ofInt_eq_ok_iff.mpr (Int.toNat_of_nonneg (by omega)).symm
      rw [number]
      exact .number _ ((Int.toNat_of_nonneg (show 0 ≤ n by omega)).symm ▸ denotes)
    · have refused : ofInt n = .error (.outOfRange "contactId" 1 2147483647 n) := dif_neg (by omega)
      rw [refused]
      exact .notPositive n denotes within.1 (by omega)
  · next none =>
    refine .noInteger ?_
    rintro ⟨n, denotes, least, greatest⟩
    rw [Decimal.denotes_iff.mp denotes, Option.filter_some, if_pos (by simp [least, greatest])] at none
    cases none

theorem display_eq (id : ContactId) : id.display = toString id.value :=
  (Decimal.toString_eq id.value).symm

theorem display_injective {a b : ContactId} (same : a.display = b.display) : a = b := by
  have read := ofText_display a
  rw [same, ofText_display b] at read
  exact (Except.ok.inj read).symm

variable {text : String} {id : ContactId}

theorem ofText_eq_ok_iff : ofText text = .ok id ↔ Decimal.Denotes text id.value := by
  have pos := id.pos
  have le := id.le_greatest
  have outcome := reading text
  constructor
  · intro read
    rw [read] at outcome
    cases outcome with
    | number _ denotes => exact denotes
  · intro denotes
    generalize ofText text = result at outcome
    cases outcome with
    | number other found => rw [value_injective (Int.ofNat.inj (found.unique denotes))]
    | notPositive n found least greatest =>
      have same := found.unique denotes
      omega
    | noInteger none => exact absurd ⟨_, denotes, by omega, by omega⟩ none

theorem ofText_eq_outOfRange_iff {n : Int} :
    ofText text = .error (.outOfRange "contactId" 1 2147483647 n) ↔
      Decimal.Denotes text n ∧ -2147483648 ≤ n ∧ n ≤ 0 := by
  have outcome := reading text
  constructor
  · intro read
    rw [read] at outcome
    cases outcome with
    | notPositive _ denotes least greatest => exact ⟨denotes, least, greatest⟩
  · rintro ⟨denotes, least, greatest⟩
    generalize ofText text = result at outcome
    cases outcome with
    | number other found =>
      have pos := other.pos
      have same := found.unique denotes
      omega
    | notPositive m found _ _ => rw [found.unique denotes]
    | noInteger none => exact absurd ⟨n, denotes, least, by omega⟩ none

theorem ofText_eq_invalidFormat_iff :
    ofText text = .error (.invalidFormat "contactId" "not an integer") ↔
      ¬∃ n, Decimal.Denotes text n ∧ -2147483648 ≤ n ∧ n ≤ 2147483647 := by
  have outcome := reading text
  constructor
  · intro read
    rw [read] at outcome
    cases outcome with
    | noInteger none => exact none
  · intro none
    generalize ofText text = result at outcome
    cases outcome with
    | number other found =>
      have pos := other.pos
      have le := other.le_greatest
      exact absurd ⟨_, found, by omega, by omega⟩ none
    | notPositive n found least _ => exact absurd ⟨n, found, least, by omega⟩ none
    | noInteger _ => rfl

/-- A text that is read as a contact number is the text of this number with zeros, a plus sign and white space
around it. -/
theorem display_of_ofText (read : ofText text = .ok id) : ∃ left sign zeros right,
    text.toList = left ++ sign ++ zeros ++ id.display.toList ++ right ∧ (sign = [] ∨ sign = ['+']) ∧
      (∀ c ∈ zeros, c = '0') ∧ Text.Blank left ∧ Text.Blank right := by
  have pos := id.pos
  obtain ⟨sign, ds, plus, ⟨⟨left, right, whole, hl, hr⟩, -, all⟩, value⟩ :=
    (Decimal.denotes_pos_iff (by omega)).mp (ofText_eq_ok_iff.mp read)
  have number : Decimal.value ds = id.value := Int.ofNat.inj value
  obtain ⟨zeros, split, hz⟩ := Decimal.zeros_and_digits all (number ▸ pos)
  refine ⟨left, sign, zeros, right, ?_, plus, hz, hl, hr⟩
  rw [whole, display, String.toList_ofList, ← number]
  conv_lhs => rw [split]
  simp only [List.append_assoc]

/-- A text is read as a contact number exactly if it is an optional plus sign and digits of this value between white
space. It is out of range exactly if it is an integer of 32 bits that is not positive, and has a wrong format
exactly if it is no integer of 32 bits. The text of a contact number is read as this number. It has no sign and no
leading zeros, and whatever is read as the number is this text but for zeros, a plus sign and white space around
it; so two texts name the same contact exactly if the texts of their numbers are the same. -/
theorem texts_of_numbers :
    (∀ text : String,
      (∀ id, ofText text = .ok id ↔ ∃ sign ds, (sign = [] ∨ sign = ['+']) ∧ Decimal.Spells text sign ds ∧
        Nat.ofDigitChars 10 ds 0 = id.value) ∧
      (∀ n, ofText text = .error (.outOfRange "contactId" 1 2147483647 n) ↔
        Decimal.Denotes text n ∧ -2147483648 ≤ n ∧ n ≤ 0) ∧
      (ofText text = .error (.invalidFormat "contactId" "not an integer") ↔
        ¬∃ n, Decimal.Denotes text n ∧ -2147483648 ≤ n ∧ n ≤ 2147483647)) ∧
    (∀ id, ofText id.display = .ok id ∧ id.display = toString id.value) ∧
    (∀ text id, ofText text = .ok id → ∃ left sign zeros right,
      text.toList = left ++ sign ++ zeros ++ id.display.toList ++ right ∧ (sign = [] ∨ sign = ['+']) ∧
        (∀ c ∈ zeros, c = '0') ∧ Text.Blank left ∧ Text.Blank right) ∧
    (∀ text text' id id', ofText text = .ok id → ofText text' = .ok id' →
      (id = id' ↔ id.display = id'.display)) := by
  refine ⟨fun text => ⟨fun id => ?_, fun n => ofText_eq_outOfRange_iff, ofText_eq_invalidFormat_iff⟩,
    fun id => ⟨ofText_display id, id.display_eq⟩, fun text id read => display_of_ofText read, ?_⟩
  · have pos := id.pos
    rw [ofText_eq_ok_iff, Decimal.denotes_pos_iff (by omega)]
    simp only [Int.natCast_inj]
  · intro text text' id id' _ _
    exact ⟨congrArg display, display_injective⟩

example : ofText "\u2003+007\n" = .ok ⟨7, by decide, by decide⟩ := by decide

end ContactId

end PeerPost
