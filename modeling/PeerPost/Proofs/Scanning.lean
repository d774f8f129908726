import PeerPost.Proofs.Grammar
import PeerPost.Proofs.Strings

/-! # Scanning tokens

The scanners go over white space, strings with any escapes and numbers with all their parts, and leave what
follows them. A number is at its end where no character of a number follows. Strings that are read give the
characters they stand for; what is no more than half of a surrogate pair refuses them. -/

namespace PeerPost.Json.Grammar

open Scanner

/-! ### White space -/

theorem Gap.skipSpace_append (gap : Gap) (rest : Bytes) : skipSpace (gap.bytes ++ rest) = skipSpace rest := by
  refine List.dropWhile_append_of_pos fun b hb => ?_
  rcases gap.blank b hb with rfl | rfl | rfl | rfl <;> rfl

theorem skipSpace_cons {b : UInt8} (h : isSpace b = false) (rest : Bytes) : skipSpace (b :: rest) = b :: rest :=
  List.dropWhile_cons_of_neg (by simp [h])

theorem Gap.skipSpace_cons (gap : Gap) {b : UInt8} (h : isSpace b = false) (rest : Bytes) :
    skipSpace (gap.bytes ++ b :: rest) = b :: rest :=
  (gap.skipSpace_append _).trans (Grammar.skipSpace_cons h rest)

theorem Gap.skipSpace_quoted (gap : Gap) (pieces : List Piece) (rest : Bytes) :
    skipSpace (gap.bytes ++ (quoted pieces ++ rest)) = 0x22 :: (pieces.flatMap Piece.bytes ++ 0x22 :: rest) := by
  rw [quoted, List.cons_append, List.append_assoc]
  exact gap.skipSpace_cons (by decide) _

/-! ### Strings -/

theorem HexDigit.byteValue?_byte (d : HexDigit) : Hexadecimal.byteValue? d.byte = some d.value.val := by
  obtain ⟨value, capital⟩ := d
  revert value
  cases capital <;> decide

theorem CodeUnit.readHex4?_bytes (u : CodeUnit) :
    readHex4? [u.a.byte, u.b.byte, u.c.byte, u.d.byte] = some (u.value, []) := by
  simp only [readHex4?, HexDigit.byteValue?_byte, Option.bind_eq_bind, Option.bind_some, value]

theorem skipString?_plains {bytes : Bytes} (h : ∀ b ∈ bytes, Plain b) (rest : Bytes) :
    skipString? (bytes ++ rest) = skipString? rest := by
  induction bytes with
  | nil => rfl
  | cons b bytes ih =>
    obtain ⟨least, quote, slash⟩ := h b List.mem_cons_self
    have slash' : b ≠ 0x5C := fun e => slash (congrArg UInt8.toNat e)
    rw [List.cons_append, skipString?, if_neg, ih fun b hb => h b (List.mem_cons_of_mem _ hb)]
    · exact fun low => Nat.not_lt.mpr least (UInt8.lt_iff_toNat_lt.mp low)
    · exact fun e => quote (congrArg UInt8.toNat e)
    · exact fun _ _ _ _ _ e => absurd e slash'
    · exact fun _ _ e => absurd e slash'

theorem Piece.skipString?_bytes (piece : Piece) (rest : Bytes) :
    skipString? (piece.bytes ++ rest) = skipString? rest := by
  cases piece with
  | plain c stands => exact skipString?_plains (plain_utf8EncodeChar stands.1 stands.2.1 stands.2.2) rest
  | escape e => cases e <;> rfl
  | unit u =>
    show skipString? (0x5C :: 0x75 :: u.a.byte :: u.b.byte :: u.c.byte :: u.d.byte :: rest) = _
    rw [skipString?, u.readHex4?_bytes]
    rfl

theorem skipString?_pieces (pieces : List Piece) (rest : Bytes) :
    skipString? (pieces.flatMap Piece.bytes ++ 0x22 :: rest) = some rest := by
  induction pieces with
  | nil => rfl
  | cons piece pieces ih => rw [List.flatMap_cons, List.append_assoc, piece.skipString?_bytes, ih]

/-! ### Strings that are read -/

section CodeUnits

variable {u : CodeUnit}

theorem CodeUnit.range_of_isHigh (h : u.isHigh = true) : 0xD800 ≤ u.value ∧ u.value ≤ 0xDBFF := by
  simpa [isHigh] using h

theorem CodeUnit.range_of_isLow (h : u.isLow = true) : 0xDC00 ≤ u.value ∧ u.value ≤ 0xDFFF := by
  simpa [isLow] using h

theorem CodeUnit.surrogate (least : 0xD800 ≤ u.value) (most : u.value ≤ 0xDFFF) :
    (u.value < 0xD800 || 0xDFFF < u.value) = false := by
  rw [Bool.or_eq_false_iff, decide_eq_false_iff_not, decide_eq_false_iff_not]
  omega

/-- A code unit that is no surrogate is the character with its number. -/
theorem readStringBytes?_unit (high : u.isHigh = false) (low : u.isLow = false) (done rest : Bytes) :
    readStringBytes? done (u.bytes ++ rest) =
      readStringBytes? ((String.utf8EncodeChar (Char.ofNat u.value)).reverse ++ done) rest := by
  show readStringBytes? done (0x5C :: 0x75 :: u.a.byte :: u.b.byte :: u.c.byte :: u.d.byte :: rest) = _
  rw [readStringBytes?, u.readHex4?_bytes]
  have other : (u.value < 0xD800 || 0xDFFF < u.value) = true := by
    simp [CodeUnit.isHigh, CodeUnit.isLow] at high low ⊢
    omega
  simp only [other]
  rfl

theorem readStringBytes?_low (low : u.isLow = true) (done rest : Bytes) :
    readStringBytes? done (u.bytes ++ rest) = none := by
  obtain ⟨least, most⟩ := CodeUnit.range_of_isLow low
  show readStringBytes? done (0x5C :: 0x75 :: u.a.byte :: u.b.byte :: u.c.byte :: u.d.byte :: rest) = _
  rw [readStringBytes?, u.readHex4?_bytes]
  simp only [CodeUnit.surrogate (by omega) most, if_pos (show 0xDBFF < u.value by omega)]
  rfl

/-- A high surrogate needs the escape of another code unit behind it. -/
theorem readStringBytes?_alone (high : u.isHigh = true) (done : Bytes) {rest : Bytes}
    (alone : ∀ more, rest ≠ 0x5C :: 0x75 :: more) : readStringBytes? done (u.bytes ++ rest) = none := by
  obtain ⟨least, most⟩ := CodeUnit.range_of_isHigh high
  show readStringBytes? done (0x5C :: 0x75 :: u.a.byte :: u.b.byte :: u.c.byte :: u.d.byte :: rest) = _
  rw [readStringBytes?, u.readHex4?_bytes]
  simp only [CodeUnit.surrogate least (by omega), if_neg (show ¬0xDBFF < u.value by omega), Bool.false_eq_true,
    if_false]
  split
  · exact absurd rfl (alone _)
  · rfl

theorem readStringBytes?_pair {low : CodeUnit} (high : u.isHigh = true) (done rest : Bytes) :
    readStringBytes? done (u.bytes ++ (low.bytes ++ rest)) =
      if low.isLow then readStringBytes? ((String.utf8EncodeChar (u.joined low)).reverse ++ done) rest else none := by
  obtain ⟨least, most⟩ := CodeUnit.range_of_isHigh high
  show readStringBytes? done (0x5C :: 0x75 :: u.a.byte :: u.b.byte :: u.c.byte :: u.d.byte ::
    0x5C :: 0x75 :: low.a.byte :: low.b.byte :: low.c.byte :: low.d.byte :: rest) = _
  rw [readStringBytes?, u.readHex4?_bytes]
  simp only [CodeUnit.surrogate least (by omega), if_neg (show ¬0xDBFF < u.value by omega), low.readHex4?_bytes]
  cases paired : low.isLow with
  | true =>
    obtain ⟨least, most⟩ := CodeUnit.range_of_isLow paired
    have fits : (low.value < 0xDC00 || 0xDFFF < low.value) = false := by
      rw [Bool.or_eq_false_iff, decide_eq_false_iff_not, decide_eq_false_iff_not]
      omega
    simp only [fits]
    rfl
  | false =>
    have outside : (low.value < 0xDC00 || 0xDFFF < low.value) = true := by
      simp [CodeUnit.isLow] at paired ⊢
      omega
    simp only [outside, Bool.false_eq_true, if_true, if_false]

end CodeUnits

/-- What begins with no escape of a code unit. -/
theorem Piece.ne_unit {pieces : List Piece} (h : ∀ u more, pieces ≠ .unit u :: more) (rest more : Bytes) :
    pieces.flatMap Piece.bytes ++ 0x22 :: rest ≠ 0x5C :: 0x75 :: more := by
  intro e
  cases pieces with
  | nil => exact absurd (List.cons.inj e).1 (by decide)
  | cons piece pieces =>
    cases piece with
    | unit u => exact h u pieces rfl
    | escape escape =>
      have second : escape.letter = 0x75 := (List.cons.inj (List.cons.inj e).2).1
      cases escape <;> exact absurd second (by decide)
    | plain c stands =>
      obtain ⟨b, bytes, hb⟩ := List.exists_cons_of_ne_nil (String.utf8EncodeChar_ne_nil (c := c))
      have first : b = 0x5C := by
        rw [List.flatMap_cons, Piece.bytes, hb] at e
        exact (List.cons.inj e).1
      have plain := plain_utf8EncodeChar stands.1 stands.2.1 stands.2.2 b (hb ▸ List.mem_cons_self)
      exact plain.2.2 (first ▸ rfl)

theorem readStringBytes?_pieces (pieces : List Piece) (done rest : Bytes) :
    readStringBytes? done (pieces.flatMap Piece.bytes ++ 0x22 :: rest) =
      (Piece.chars? pieces).map fun cs => (done.reverse ++ cs.flatMap String.utf8EncodeChar, rest) := by
  fun_induction Piece.chars? pieces generalizing done with
  | case1 => simp [readStringBytes?]
  | case2 c stands pieces ih =>
    have plain := plain_utf8EncodeChar stands.1 stands.2.1 stands.2.2
    rw [List.flatMap_cons, Piece.bytes, List.append_assoc, readStringBytes?_plains plain, ih]
    cases Piece.chars? pieces <;> simp
  | case3 e pieces ih =>
    have read (rest : Bytes) : readStringBytes? done (0x5C :: e.letter :: rest) =
        readStringBytes? ((String.utf8EncodeChar e.char).reverse ++ done) rest := by
      cases e <;> rfl
    show readStringBytes? done (0x5C :: e.letter :: (pieces.flatMap Piece.bytes ++ 0x22 :: rest)) = _
    rw [read, ih]
    cases Piece.chars? pieces <;> simp
  | case4 u high low pieces isLow ih =>
    rw [List.flatMap_cons, List.flatMap_cons, List.append_assoc, List.append_assoc, Piece.bytes, Piece.bytes,
      readStringBytes?_pair high, if_pos isLow, ih]
    cases Piece.chars? pieces <;> simp
  | case5 u high low pieces isLow =>
    rw [List.flatMap_cons, List.flatMap_cons, List.append_assoc, List.append_assoc, Piece.bytes, Piece.bytes,
      readStringBytes?_pair high, if_neg isLow, Option.map_none]
  | case6 u pieces high alone =>
    rw [List.flatMap_cons, List.append_assoc, Piece.bytes, readStringBytes?_alone high done, Option.map_none]
    exact Piece.ne_unit (fun low more => alone low more) rest
  | case7 u pieces high low =>
    rw [List.flatMap_cons, List.append_assoc, Piece.bytes, readStringBytes?_low low, Option.map_none]
  | case8 u pieces high low ih =>
    rw [List.flatMap_cons, List.append_assoc, Piece.bytes, readStringBytes?_unit (by simpa using high)
      (by simpa using low), ih]
    cases Piece.chars? pieces <;> simp

/-- A string is read as the characters that its pieces stand for. -/
theorem readString?_pieces (pieces : List Piece) (rest : Bytes) :
    readString? (pieces.flatMap Piece.bytes ++ 0x22 :: rest) = (Piece.text? pieces).map fun text => (text, rest) := by
  rw [readString?, readStringBytes?_pieces, Piece.text?]
  cases Piece.chars? pieces with
  | none => rfl
  | some cs => simp [← Text.utf8_ofList, Text.ofUtf8?_utf8]

/-! ### Numbers -/

/-- Whether a number is at its end before these bytes. -/
def Ends (rest : Bytes) : Prop :=
  ∀ b ∈ rest.head?, isDigit b = false ∧ b ≠ 0x2E ∧ b ≠ 0x65 ∧ b ≠ 0x45

theorem isDigit_digitByte (d : Fin 10) : isDigit (digitByte d) = true := by
  revert d
  decide

theorem skipDigits_map (ds : List (Fin 10)) {rest : Bytes} (h : ∀ b ∈ rest.head?, isDigit b = false) :
    skipDigits (ds.map digitByte ++ rest) = rest := by
  have digits : ∀ b ∈ ds.map digitByte, isDigit b = true := by
    intro b hb
    obtain ⟨d, -, rfl⟩ := List.mem_map.mp hb
    exact isDigit_digitByte d
  rw [skipDigits, List.dropWhile_append_of_pos digits]
  cases rest with
  | nil => rfl
  | cons b rest => exact List.dropWhile_cons_of_neg (by simp [h b rfl])

theorem Digits.skipDigits1?_bytes (ds : Digits) {rest : Bytes} (h : ∀ b ∈ rest.head?, isDigit b = false) :
    skipDigits1? (ds.bytes ++ rest) = some rest := by
  rw [bytes, List.cons_append, skipDigits1?, isDigit_digitByte, if_pos rfl, skipDigits_map ds.rest h]

theorem Exponent.skipExponent?_bytes (sign : Sign) (ds : Digits) {rest : Bytes}
    (h : ∀ b ∈ rest.head?, isDigit b = false) : skipExponent? (sign.bytes ++ (ds.bytes ++ rest)) = some rest := by
  have skipped := ds.skipDigits1?_bytes h
  cases sign with
  | none =>
    have unsigned : (digitByte ds.first == 0x2B || digitByte ds.first == 0x2D) = false := by
      generalize ds.first = d
      revert d
      decide
    rw [Digits.bytes, List.cons_append] at skipped
    show skipExponent? (digitByte ds.first :: (ds.rest.map digitByte ++ rest)) = some rest
    rw [skipExponent?, unsigned]
    exact skipped
  | plus => exact skipped
  | minus => exact skipped

namespace Numeral

variable {rest : Bytes}

theorem skipOptionalExponent?_bytes (e? : Option Exponent) (ends : Ends rest) :
    skipOptionalExponent? (exponentBytes e? ++ rest) = some rest := by
  cases e? with
  | none =>
    cases rest with
    | nil => rfl
    | cons b rest =>
      obtain ⟨-, -, small, capital⟩ := ends b rfl
      show skipOptionalExponent? (b :: rest) = some (b :: rest)
      simp [skipOptionalExponent?, small, capital]
  | some e =>
    have skipped := Exponent.skipExponent?_bytes e.sign e.digits fun b hb => (ends b hb).1
    rw [exponentBytes, Exponent.bytes, List.cons_append, List.append_assoc, skipOptionalExponent?]
    cases e.capital <;> exact skipped

theorem head_exponentBytes (e? : Option Exponent) (ends : Ends rest) :
    ∀ b ∈ (exponentBytes e? ++ rest).head?, isDigit b = false ∧ b ≠ 0x2E := by
  cases e? with
  | none => exact fun b hb => ⟨(ends b hb).1, (ends b hb).2.1⟩
  | some e =>
    rintro b ⟨⟩
    cases e.capital <;> decide

theorem skipFraction?_bytes (ds? : Option Digits) (e? : Option Exponent) (ends : Ends rest) :
    skipFraction? (fractionBytes ds? ++ (exponentBytes e? ++ rest)) = some rest := by
  have skipped := skipOptionalExponent?_bytes e? ends
  have head := head_exponentBytes e? ends
  cases ds? with
  | none =>
    show skipFraction? (exponentBytes e? ++ rest) = some rest
    rw [skipFraction?, skipped]
    exact fun more e => (head 0x2E (by rw [e]; rfl)).2 rfl
  | some ds =>
    show (skipDigits1? (ds.bytes ++ (exponentBytes e? ++ rest))).bind skipOptionalExponent? = some rest
    rw [ds.skipDigits1?_bytes fun b hb => (head b hb).1, Option.bind_some, skipped]

theorem head_fractionBytes (ds? : Option Digits) (e? : Option Exponent) (ends : Ends rest) :
    ∀ b ∈ (fractionBytes ds? ++ (exponentBytes e? ++ rest)).head?, isDigit b = false := by
  cases ds? with
  | none => exact fun b hb => (head_exponentBytes e? ends b hb).1
  | some ds =>
    rintro b ⟨⟩
    rfl

theorem skipUnsigned?_bytes (n : Numeral) (ends : Ends rest) : skipUnsigned?
    (n.whole.bytes ++ (fractionBytes n.fraction? ++ (exponentBytes n.exponent? ++ rest))) = some rest := by
  have skipped := skipFraction?_bytes n.fraction? n.exponent? ends
  have head := head_fractionBytes n.fraction? n.exponent? ends
  generalize fractionBytes n.fraction? ++ (exponentBytes n.exponent? ++ rest) = after at skipped head
  rw [Digits.bytes, List.cons_append]
  by_cases zero : n.whole.first = 0
  · rw [n.leading zero, zero]
    cases after with
    | nil => exact skipped
    | cons b after =>
      show (if isDigit b then none else skipFraction? (b :: after)) = some rest
      rw [head b rfl]
      exact skipped
  · have other : digitByte n.whole.first ≠ 0x30 := by
      generalize n.whole.first = d at zero
      revert d
      decide
    rw [skipUnsigned?, isDigit_digitByte, if_pos rfl, skipDigits_map _ head, skipped]
    exact fun b more e _ => other e

end Numeral

theorem skipScalar?_digit {b : UInt8} (h : isDigit b = true) (rest : Bytes) :
    skipScalar? (b :: rest) = skipUnsigned? (b :: rest) := by
  rw [skipScalar?]
  all_goals
    rintro more ⟨⟩
    exact absurd h (by decide)

theorem Numeral.skipScalar?_bytes (n : Numeral) {rest : Bytes} (ends : Ends rest) :
    skipScalar? (n.bytes ++ rest) = some rest := by
  have skipped := n.skipUnsigned?_bytes ends
  rw [bytes, List.append_assoc, List.append_assoc, List.append_assoc]
  cases n.negative with
  | true => exact skipped
  | false =>
    rw [Digits.bytes, List.cons_append] at skipped ⊢
    exact (skipScalar?_digit (isDigit_digitByte _) _).trans skipped

end PeerPost.Json.Grammar
