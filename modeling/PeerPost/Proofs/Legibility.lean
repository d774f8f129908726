import PeerPost.Proofs.Hashing
import PeerPost.Proofs.Records
import PeerPost.Proofs.Strings
import PeerPost.Proofs.Targets

/-! # What texts show

Whatever is written for a number, for bytes, for a string or for a JSON value shows what it was written for.
A text of this kind also shows its own end, unless what follows goes on with a number (`Legible`), so that it can
be told where other texts follow it. Hence the text of a record determines every field that went into it, whatever
characters stand in its strings. -/

namespace PeerPost

open Decimal

/-- A text that does not go on with a character of this kind. -/
def Stops (kind : Char → Bool) (rest : List Char) : Prop :=
  ∀ c ∈ rest.head?, kind c = false

/-- The characters with which a number may go on before its exponent. -/
def goesOnPlain (c : Char) : Bool :=
  isDigit c || c == '.'

/-- The characters with which a number may go on. -/
def goesOn (c : Char) : Bool :=
  goesOnPlain c || c == 'e'

/-- What is written for `x` shows that it is `x`, and where it ends. -/
def Legible {α : Type} (write : α → List Char) (x : α) : Prop :=
  ∀ (y : α) (rest rest' : List Char), Stops goesOn rest → Stops goesOn rest' → write x ++ rest = write y ++ rest' →
    x = y ∧ rest = rest'

theorem stops_nil {kind : Char → Bool} : Stops kind [] := fun _ h => nomatch h

theorem stops_cons {kind : Char → Bool} {c : Char} (h : kind c = false) (rest : List Char) : Stops kind (c :: rest) := by
  intro d hd
  rw [List.head?_cons, Option.mem_some_iff] at hd
  rwa [← hd]

theorem Stops.not_cons {kind : Char → Bool} {c : Char} {rest : List Char} (h : Stops kind (c :: rest)) :
    kind c = false := h c rfl

theorem Stops.digit {rest : List Char} (h : Stops goesOnPlain rest) : Stops isDigit rest :=
  fun c hc => (Bool.or_eq_false_iff.mp (h c hc)).1

theorem Stops.plain {rest : List Char} (h : Stops goesOn rest) : Stops goesOnPlain rest :=
  fun c hc => (Bool.or_eq_false_iff.mp (h c hc)).1

/-! ### Integers -/

/-- Where a run of characters of one kind ends is determined by the text. -/
theorem run_inj {p : Char → Bool} {a b rest rest' : List Char} (ha : ∀ c ∈ a, p c = true) (hb : ∀ c ∈ b, p c = true)
    (stop : Stops p rest) (stop' : Stops p rest') (same : a ++ rest = b ++ rest') : a = b ∧ rest = rest' := by
  have run {a rest : List Char} (h : ∀ c ∈ a, p c = true) (stop : Stops p rest) : (a ++ rest).takeWhile p = a := by
    rw [List.takeWhile_append_of_pos h]
    cases rest with
    | nil => rw [List.takeWhile_nil, List.append_nil]
    | cons c rest => rw [List.takeWhile_cons_of_neg (by simp [stop.not_cons]), List.append_nil]
  have first : a = b := by rw [← run ha stop, same, run hb stop']
  rw [first] at same
  exact ⟨first, List.append_cancel_left same⟩

namespace Decimal

theorem digits_eq_cons (n : Nat) : ∃ c ds, digits n = c :: ds ∧ isDigit c = true := by
  cases h : digits n with
  | nil => exact absurd h (digits_ne_nil n)
  | cons c ds => exact ⟨c, ds, rfl, isDigit_of_mem_digits n c (h ▸ List.mem_cons_self)⟩

/-- The digits of a number, after a minus if there is one, show where they end and which they are. -/
theorem signed_inj {a b : Bool} {n m : Nat} {rest rest' : List Char} (stop : Stops isDigit rest)
    (stop' : Stops isDigit rest') (same : signed a n ++ rest = signed b m ++ rest') :
    (a = b ∧ n = m) ∧ rest = rest' := by
  have minus (n : Nat) (rest tail : List Char) : digits n ++ rest ≠ '-' :: tail := by
    obtain ⟨c, ds, hd, digit⟩ := digits_eq_cons n
    rw [hd]
    exact fun e => ne_of_isDigit digit (by decide) (List.cons.inj e).1
  have digits_inj (same : digits n ++ rest = digits m ++ rest') : n = m ∧ rest = rest' := by
    obtain ⟨first, tail⟩ := run_inj (isDigit_of_mem_digits n) (isDigit_of_mem_digits m) stop stop' same
    exact ⟨by rw [← value_digits n, first, value_digits], tail⟩
  cases a with
  | false =>
    cases b with
    | false =>
      obtain ⟨value, tail⟩ := digits_inj same
      exact ⟨⟨rfl, value⟩, tail⟩
    | true => exact absurd same (minus n _ _)
  | true =>
    cases b with
    | false => exact absurd same.symm (minus m _ _)
    | true =>
      obtain ⟨value, tail⟩ := digits_inj (List.cons.inj same).2
      exact ⟨⟨rfl, value⟩, tail⟩

theorem ofInt_eq_signed (n : Int) : ofInt n = signed (decide (n < 0)) n.natAbs := by
  cases n with
  | ofNat n => rfl
  | negSucc n =>
    rw [decide_eq_true (Int.negSucc_lt_zero n), signed, if_pos rfl]
    rfl

theorem ofInt_inj {n m : Int} {rest rest' : List Char} (stop : Stops isDigit rest) (stop' : Stops isDigit rest')
    (same : ofInt n ++ rest = ofInt m ++ rest') : n = m ∧ rest = rest' := by
  rw [ofInt_eq_signed, ofInt_eq_signed] at same
  obtain ⟨⟨sign, size⟩, tail⟩ := signed_inj stop stop' same
  rw [decide_eq_decide] at sign
  exact ⟨by omega, tail⟩

end Decimal

/-! ### Bytes -/

namespace Base64

/-- The value of a character, or 64 if it stands for none. -/
def value (c : Char) : Nat :=
  ((List.range 64).map sextet).idxOf c

/-- The bytes that groups of four characters stand for. -/
def decodeChars : List Char → Bytes
  | a :: b :: c :: d :: rest =>
    let first := UInt8.ofNat (value a * 4 + value b / 16)
    let second := UInt8.ofNat (value b % 16 * 16 + value c / 4)
    if c = '=' then [first]
    else if d = '=' then [first, second]
    else first :: second :: UInt8.ofNat (value c % 4 * 64 + value d) :: decodeChars rest
  | _ => []

theorem value_sextet : ∀ n < 64, value (sextet n) = n ∧ sextet n ≠ '=' := by decide +kernel

theorem ofNat_eq {n : Nat} {x : UInt8} (h : n = x.toNat) : UInt8.ofNat n = x := by
  rw [h, UInt8.ofNat_toNat]

theorem decodeChars_encodeChars (bytes : Bytes) : decodeChars (encodeChars bytes) = bytes := by
  have byte (x : UInt8) : x.toNat < 256 := x.toNat_lt
  induction bytes using encodeChars.induct with
  | case1 => rfl
  | case2 x =>
    have hx := byte x
    obtain ⟨h₁, -⟩ := value_sextet (x.toNat / 4) (by omega)
    obtain ⟨h₂, -⟩ := value_sextet (x.toNat % 4 * 16) (by omega)
    have first := ofNat_eq (n := x.toNat / 4 * 4 + x.toNat % 4 * 16 / 16) (x := x) (by omega)
    simp only [encodeChars, decodeChars, h₁, h₂, first, if_true]
  | case3 x y =>
    have hx := byte x
    have hy := byte y
    obtain ⟨h₁, -⟩ := value_sextet (x.toNat / 4) (by omega)
    obtain ⟨h₂, -⟩ := value_sextet (x.toNat % 4 * 16 + y.toNat / 16) (by omega)
    obtain ⟨h₃, third⟩ := value_sextet (y.toNat % 16 * 4) (by omega)
    simp only [encodeChars, decodeChars, h₁, h₂, h₃, third, if_false, if_true]
    rw [ofNat_eq (x := x) (by omega), ofNat_eq (x := y) (by omega)]
  | case4 x y z rest ih =>
    have hx := byte x
    have hy := byte y
    have hz := byte z
    obtain ⟨h₁, -⟩ := value_sextet (x.toNat / 4) (by omega)
    obtain ⟨h₂, -⟩ := value_sextet (x.toNat % 4 * 16 + y.toNat / 16) (by omega)
    obtain ⟨h₃, third⟩ := value_sextet (y.toNat % 16 * 4 + z.toNat / 64) (by omega)
    obtain ⟨h₄, fourth⟩ := value_sextet (z.toNat % 64) (by omega)
    simp only [encodeChars, decodeChars, h₁, h₂, h₃, h₄, third, fourth, if_false, ih]
    rw [ofNat_eq (x := x) (by omega), ofNat_eq (x := y) (by omega), ofNat_eq (x := z) (by omega)]

theorem encode_injective {a b : Bytes} (same : encode a = encode b) : a = b := by
  have chars := congrArg String.toList same
  rw [encode, encode, String.toList_ofList, String.toList_ofList] at chars
  rw [← decodeChars_encodeChars a, chars, decodeChars_encodeChars]

end Base64

/-! ### Strings and values -/

namespace Json

namespace Fractional

variable {rest rest' : List Char}

theorem exponentChars_inj {a b : Option Int} (stop : Stops goesOn rest) (stop' : Stops goesOn rest')
    (same : exponentChars a ++ rest = exponentChars b ++ rest') : a = b ∧ rest = rest' := by
  cases a with
  | none =>
    cases b with
    | none => exact ⟨rfl, same⟩
    | some m =>
      rw [show rest = 'e' :: _ from same] at stop
      exact absurd stop.not_cons (by decide)
  | some n =>
    cases b with
    | none =>
      rw [show rest' = 'e' :: _ from same.symm] at stop'
      exact absurd stop'.not_cons (by decide)
    | some m =>
      obtain ⟨rfl, tail⟩ := ofInt_inj stop.plain.digit stop'.plain.digit (List.cons.inj same).2
      exact ⟨rfl, tail⟩

theorem stops_exponentChars (stop : Stops goesOn rest) (exponent? : Option Int) :
    Stops goesOnPlain (exponentChars exponent? ++ rest) := by
  cases exponent? with
  | none => exact stop.plain
  | some n => exact stops_cons (by decide) _

theorem fractionChars_inj {a b : List (Fin 10)} (stop : Stops goesOnPlain rest) (stop' : Stops goesOnPlain rest')
    (same : fractionChars a ++ rest = fractionChars b ++ rest') : a = b ∧ rest = rest' := by
  have digit (d : Fin 10) : isDigit (digitChar d.val) = true := (digitChar_facts d.val d.isLt).1
  have digit_inj : ∀ d e : Fin 10, digitChar d.val = digitChar e.val → d = e := by decide
  cases a with
  | nil =>
    cases b with
    | nil => exact ⟨rfl, same⟩
    | cons e es =>
      rw [show rest = '.' :: _ from same] at stop
      exact absurd stop.not_cons (by decide)
  | cons d ds =>
    cases b with
    | nil =>
      rw [show rest' = '.' :: _ from same.symm] at stop'
      exact absurd stop'.not_cons (by decide)
    | cons e es =>
      obtain ⟨digits, tail⟩ := run_inj (by simp [digit]) (by simp [digit]) stop.digit stop'.digit (List.cons.inj same).2
      exact ⟨List.map_injective_iff.mpr digit_inj digits, tail⟩

/-- After the whole part there is a point or an exponent. -/
theorem tail_eq_cons (x : Fractional) : ∃ c cs, isDigit c = false ∧ goesOn c = true ∧
    fractionChars x.fraction ++ exponentChars x.exponent? = c :: cs := by
  obtain ⟨_, _, fraction, exponent?, given⟩ := x
  cases fraction with
  | cons d ds => exact ⟨'.', _, by decide, by decide, rfl⟩
  | nil =>
    cases exponent? with
    | some n => exact ⟨'e', _, by decide, by decide, rfl⟩
    | none => simp at given

theorem stops_tail (x : Fractional) (rest : List Char) :
    Stops isDigit (fractionChars x.fraction ++ (exponentChars x.exponent? ++ rest)) := by
  obtain ⟨c, cs, digit, -, tail⟩ := x.tail_eq_cons
  rw [← List.append_assoc, tail]
  exact stops_cons digit _

end Fractional

theorem quote_append_inj {a b rest rest' : List Char} (same : quote a ++ rest = quote b ++ rest') :
    a = b ∧ rest = rest' := by
  have body : a.flatMap escape ++ '"' :: rest = b.flatMap escape ++ '"' :: rest' := by
    simpa [quote] using same
  have bytes (text tail : List Char) : (text.flatMap escape ++ '"' :: tail).flatMap String.utf8EncodeChar =
      Scanner.written text ++ 0x22 :: tail.flatMap String.utf8EncodeChar := List.flatMap_append
  -- The reader of strings gives the two texts back.
  have read := congrArg (fun cs => Scanner.readStringBytes? [] (cs.flatMap String.utf8EncodeChar)) body
  simp only [bytes, Scanner.readStringBytes?_written, Option.some.injEq, Prod.mk.injEq] at read
  have text : String.ofList a = String.ofList b := Text.utf8_injective (by simpa [Text.utf8_ofList] using read.1)
  have chars : a = b := by simpa using congrArg String.toList text
  subst chars
  exact ⟨rfl, (List.cons.inj (List.append_cancel_left body)).2⟩

section Separated

variable {α : Type} {write : α → List Char} {close : Char} {items others : List α} {rest rest' : List Char}
  (comma : close ≠ ',') (stop : goesOn close = false)

include comma stop

/-- Items after commas show themselves and where they end. -/
theorem flatMap_comma_inj (legible : ∀ x ∈ items, Legible write x)
    (same : (items.map write).flatMap (',' :: ·) ++ close :: rest =
      (others.map write).flatMap (',' :: ·) ++ close :: rest') : items = others ∧ rest = rest' := by
  have stops (xs : List α) (tail : List Char) : Stops goesOn ((xs.map write).flatMap (',' :: ·) ++ close :: tail) := by
    cases xs with
    | nil => exact stops_cons stop tail
    | cons x xs => exact stops_cons (by decide) _
  induction items generalizing others with
  | nil =>
    cases others with
    | nil => exact ⟨rfl, (List.cons.inj same).2⟩
    | cons y ys => exact absurd (List.cons.inj same).1 comma
  | cons x xs ih =>
    cases others with
    | nil => exact absurd (List.cons.inj same).1.symm comma
    | cons y ys =>
      simp only [List.map_cons, List.flatMap_cons, List.cons_append, List.append_assoc, List.cons.injEq,
        true_and] at same
      obtain ⟨rfl, tail⟩ := legible x List.mem_cons_self y _ _ (stops xs rest) (stops ys rest') same
      obtain ⟨rfl, end_eq⟩ := ih (fun z hz => legible z (List.mem_cons_of_mem _ hz)) tail
      exact ⟨rfl, end_eq⟩

/-- Items with commas between them show themselves and where they end, if no item starts like their end. -/
theorem separated_inj (starts : ∀ x, ∃ c cs, write x = c :: cs ∧ c ≠ close)
    (legible : ∀ x ∈ items, Legible write x)
    (same : separated (items.map write) ++ close :: rest = separated (others.map write) ++ close :: rest') :
    items = others ∧ rest = rest' := by
  have differ (x : α) (tail tail' : List Char) : close :: tail' ≠ write x ++ tail := by
    obtain ⟨c, cs, hx, other⟩ := starts x
    rw [hx]
    exact fun e => other (List.cons.inj e).1.symm
  cases items with
  | nil =>
    cases others with
    | nil => exact ⟨rfl, (List.cons.inj same).2⟩
    | cons y ys =>
      rw [List.map_cons, separated, List.append_assoc] at same
      exact absurd same (differ y _ _)
  | cons x xs =>
    cases others with
    | nil =>
      rw [List.map_cons, separated, List.append_assoc] at same
      exact absurd same.symm (differ x _ _)
    | cons y ys =>
      -- With a comma before them, both are lists of items after commas.
      have after : ((x :: xs).map write).flatMap (',' :: ·) ++ close :: rest =
          ((y :: ys).map write).flatMap (',' :: ·) ++ close :: rest' := congrArg (',' :: ·) same
      exact flatMap_comma_inj comma stop legible after

end Separated

/-- The first character of the text of a value, up to which digit it is and which truth value it begins. -/
def mark : Json → Char
  | .null => 'n'
  | .bool _ => 't'
  | .number _ | .fractional _ => '-'
  | .string _ => '"'
  | .array _ => '['
  | .object _ => '{'

theorem signed_eq_cons (negative : Bool) (n : Nat) : ∃ c rest, signed negative n = c :: rest ∧
    (if isDigit c then '-' else if c = 'f' then 't' else c) = '-' := by
  cases negative with
  | false =>
    obtain ⟨c, ds, hd, digit⟩ := digits_eq_cons n
    exact ⟨c, ds, hd, if_pos digit⟩
  | true => exact ⟨_, _, rfl, rfl⟩

theorem chars_eq_cons (value : Json) : ∃ c rest, value.chars = c :: rest ∧
    (if isDigit c then '-' else if c = 'f' then 't' else c) = value.mark := by
  cases value with
  | null => exact ⟨_, _, by rw [chars], rfl⟩
  | bool value => cases value <;> exact ⟨_, _, by rw [chars], rfl⟩
  | number n =>
    obtain ⟨c, rest, first, kind⟩ := signed_eq_cons (decide (n < 0)) n.natAbs
    exact ⟨c, rest, by rw [chars, ofInt_eq_signed, first], kind⟩
  | fractional x =>
    obtain ⟨c, rest, first, kind⟩ := signed_eq_cons x.negative x.whole
    exact ⟨c, _, by rw [chars, Fractional.chars, first, List.cons_append], kind⟩
  | string s => exact ⟨_, _, by rw [chars, quote], rfl⟩
  | array items => exact ⟨_, _, by rw [chars], rfl⟩
  | object members => exact ⟨_, _, by rw [chars], rfl⟩

theorem mark_eq {a b : Json} {rest rest' : List Char} (same : a.chars ++ rest = b.chars ++ rest') :
    a.mark = b.mark := by
  obtain ⟨c, cs, hc, ha⟩ := a.chars_eq_cons
  obtain ⟨d, ds, hd, hb⟩ := b.chars_eq_cons
  rw [hc, hd] at same
  rw [← ha, ← hb, (List.cons.inj same).1]

theorem itemChars_eq_map (items : List Json) : itemChars items = items.map chars := by
  induction items with
  | nil => rw [itemChars, List.map_nil]
  | cons item rest ih => rw [itemChars, ih, List.map_cons]

theorem chars_array (items : List Json) : (array items).chars = '[' :: (separated (items.map chars) ++ [']']) := by
  rw [chars, itemChars_eq_map]

theorem chars_starts (value : Json) : ∃ c cs, value.chars = c :: cs ∧ c ≠ ']' := by
  obtain ⟨c, cs, hc, kind⟩ := value.chars_eq_cons
  refine ⟨c, cs, hc, ?_⟩
  rintro rfl
  rw [if_neg (by decide), if_neg (by decide)] at kind
  cases value <;> simp [mark] at kind

theorem memberText_starts (member : String × Json) : ∃ c cs, memberText member = c :: cs ∧ c ≠ '}' :=
  ⟨_, _, by rw [memberText_eq, quote]; rfl, by decide⟩

theorem legible_null : Legible chars .null := by
  intro b rest rest' _ _ same
  have kind := mark_eq same
  cases b with
  | null => exact ⟨rfl, List.append_cancel_left same⟩
  | _ => simp [mark] at kind

theorem legible_bool (value : Bool) : Legible chars (.bool value) := by
  intro b rest rest' _ _ same
  have kind := mark_eq same
  cases b with
  | bool other =>
    cases value <;> cases other <;> simp [chars] at same
    · exact ⟨rfl, same⟩
    · exact ⟨rfl, same⟩
  | _ => simp [mark] at kind

/-- An integer is not written like a number that has a point or an exponent. -/
theorem number_ne_fractional {n : Int} {x : Fractional} {rest rest' : List Char} (stop : Stops goesOn rest) :
    (number n).chars ++ rest ≠ (fractional x).chars ++ rest' := by
  intro same
  simp only [chars, ofInt_eq_signed, Fractional.chars, List.append_assoc] at same
  obtain ⟨-, tail⟩ := signed_inj stop.plain.digit (x.stops_tail rest') same
  obtain ⟨c, cs, -, more, first⟩ := x.tail_eq_cons
  rw [tail, ← List.append_assoc, first] at stop
  rw [stop.not_cons] at more
  cases more

theorem legible_number (n : Int) : Legible chars (.number n) := by
  intro b rest rest' h h' same
  have kind := mark_eq same
  cases b with
  | number m =>
    rw [chars, chars] at same
    obtain ⟨rfl, tail⟩ := ofInt_inj h.plain.digit h'.plain.digit same
    exact ⟨rfl, tail⟩
  | fractional x => exact absurd same (number_ne_fractional h)
  | _ => simp [mark] at kind

theorem legible_fractional (x : Fractional) : Legible chars (.fractional x) := by
  intro b rest rest' h h' same
  have kind := mark_eq same
  cases b with
  | number m => exact absurd same.symm (number_ne_fractional h')
  | fractional y =>
    simp only [chars, Fractional.chars, List.append_assoc] at same
    obtain ⟨⟨sign, whole⟩, same⟩ := signed_inj (x.stops_tail rest) (y.stops_tail rest') same
    obtain ⟨fraction, same⟩ := Fractional.fractionChars_inj (Fractional.stops_exponentChars h _)
      (Fractional.stops_exponentChars h' _) same
    obtain ⟨exponent, tail⟩ := Fractional.exponentChars_inj h h' same
    exact ⟨congrArg fractional (Fractional.ext sign whole fraction exponent), tail⟩
  | _ => simp [mark] at kind

theorem legible_string (s : String) : Legible chars (.string s) := by
  intro b rest rest' _ _ same
  have kind := mark_eq same
  cases b with
  | string t =>
    rw [chars, chars] at same
    obtain ⟨text, tail⟩ := quote_append_inj same
    exact ⟨congrArg Json.string (String.toList_inj.mp text), tail⟩
  | _ => simp [mark] at kind

theorem legible_array {items : List Json} (h : ∀ item ∈ items, Legible chars item) : Legible chars (.array items) := by
  intro b rest rest' _ _ same
  have kind := mark_eq same
  cases b with
  | array others =>
    simp only [chars_array, List.cons_append, List.append_assoc, List.nil_append, List.cons.injEq, true_and] at same
    obtain ⟨rfl, tail⟩ := separated_inj (by decide) (by decide) chars_starts h same
    exact ⟨rfl, tail⟩
  | _ => simp [mark] at kind

theorem legible_member {member : String × Json} (h : Legible chars member.2) : Legible memberText member := by
  intro other rest rest' stops stops' same
  obtain ⟨key, value⟩ := member
  obtain ⟨key', value'⟩ := other
  rw [memberText_eq, memberText_eq, List.append_assoc, List.append_assoc] at same
  obtain ⟨keys, tail⟩ := quote_append_inj same
  obtain ⟨values, after⟩ := h value' rest rest' stops stops' (List.cons.inj tail).2
  exact ⟨Prod.ext (String.toList_inj.mp keys) values, after⟩

theorem legible_object {members : List (String × Json)} (h : ∀ member ∈ members, Legible chars member.2) :
    Legible chars (.object members) := by
  intro b rest rest' _ _ same
  have kind := mark_eq same
  cases b with
  | object others =>
    simp only [chars_object, List.cons_append, List.append_assoc, List.nil_append, List.cons.injEq, true_and] at same
    obtain ⟨rfl, tail⟩ := separated_inj (by decide) (by decide) memberText_starts
      (fun member hm => legible_member (h member hm)) same
    exact ⟨rfl, tail⟩
  | _ => simp [mark] at kind

mutual

theorem legible : (value : Json) → Legible chars value
  | .null => legible_null
  | .bool value => legible_bool value
  | .number n => legible_number n
  | .fractional x => legible_fractional x
  | .string s => legible_string s
  | .array items => legible_array (legible_items items)
  | .object members => legible_object (legible_members members)
termination_by structural value => value

theorem legible_items : (items : List Json) → ∀ item ∈ items, Legible chars item
  | [], _, h => nomatch h
  | first :: rest, item, h => (List.mem_cons.mp h).elim (fun e => e ▸ legible first) (legible_items rest item)
termination_by structural items => items

theorem legible_members : (members : List (String × Json)) → ∀ member ∈ members, Legible chars member.2
  | [], _, h => nomatch h
  | first :: rest, member, h =>
    (List.mem_cons.mp h).elim (fun e => e ▸ legible_value first) (legible_members rest member)
termination_by structural members => members

theorem legible_value : (member : String × Json) → Legible chars member.2
  | (_, value) => legible value
termination_by structural member => member

end

theorem text_injective {a b : Json} (same : a.text = b.text) : a = b := by
  have chars := congrArg String.toList same
  rw [text, text, String.toList_ofList, String.toList_ofList] at chars
  exact (a.legible b [] [] stops_nil stops_nil (by rw [chars])).1

example : (fractional ⟨true, 1, [5], some (-7), by decide⟩).text = "-1.5e-7" := by decide +kernel

end Json

/-! ### Records -/

theorem Record.text_inj {a b : Record} : a.text = b.text ↔ a = b := by
  refine ⟨fun same => ?_, fun same => by rw [same]⟩
  obtain ⟨a⟩ := a
  obtain ⟨b⟩ := b
  have members := Json.text_injective same
  rw [toJson, toJson, Json.object.injEq] at members
  exact congrArg Record.mk members

theorem Record.value_eq {a b : Record} {name : String} {v w : Json} (same : a = b) (ha : a.get? name = some v)
    (hb : b.get? name = some w) : v = w := by
  rw [same, hb] at ha
  exact (Option.some.inj ha).symm

theorem UniqueId.display_injective {a b : UniqueId} (same : a.display = b.display) : a = b :=
  toBytes_injective (Base64.encode_injective same)

theorem ContactId.toJson_injective {a b : ContactId} (same : a.toJson = b.toJson) : a = b := by
  obtain ⟨a, _, _⟩ := a
  obtain ⟨b, _, _⟩ := b
  simpa [toJson] using same

theorem Timestamp.toJson_injective {a b : Timestamp} (same : a.toJson = b.toJson) : a = b := by
  obtain ⟨a⟩ := a
  obtain ⟨b⟩ := b
  rw [toJson, toJson, Json.number.injEq] at same
  exact congrArg Timestamp.mk (Int64.toInt.inj same)

theorem Author.get?_record (author : Author) :
    author.record.get? "id" = some (.string author.id.display) ∧
      author.record.get? "formatVersion" = some (.number author.formatVersion.toInt) ∧
      author.record.get? "name" = some (.string author.name) ∧
      author.record.get? "publicKey" = some (.string (Base64.encode author.publicKey)) := by
  simp [record, Record.get?_put]

theorem Author.eq_of_fields {a b : Author} (id : a.id = b.id) (version : a.formatVersion = b.formatVersion)
    (name : a.name = b.name) (key : a.publicKey = b.publicKey) : a = b := by
  obtain ⟨_, _, _, _⟩ := a
  obtain ⟨_, _, _, _⟩ := b
  rw [Author.mk.injEq]
  exact ⟨id, version, name, key⟩

theorem Author.record_injective {a b : Author} (same : a.record = b.record) : a = b := by
  obtain ⟨id, version, name, key⟩ := a.get?_record
  obtain ⟨id', version', name', key'⟩ := b.get?_record
  have ids := UniqueId.display_injective (Json.string.inj (Record.value_eq same id id'))
  have versions := Int32.toInt.inj (Json.number.inj (Record.value_eq same version version'))
  have keys := Base64.encode_injective (Json.string.inj (Record.value_eq same key key'))
  refine Author.eq_of_fields ?_ versions (Json.string.inj (Record.value_eq same name name')) keys
  exact congrArg AuthorId.mk ids

theorem Contact.record_injective {c c' : Contact} {t t' : Timestamp} (same : c.record t = c'.record t') :
    c.id = c'.id ∧ c.author = c'.author ∧ c.verified = c'.verified ∧ t = t' ∧ c.alias? = c'.alias? ∧
      c.handshakeKey? = c'.handshakeKey? := by
  obtain ⟨id, author, verified, latest, nickname, key⟩ := c.shows_record t
  obtain ⟨id', author', verified', latest', nickname', key'⟩ := c'.shows_record t'
  have authors := Json.object.inj (Record.value_eq same author author')
  rw [same, nickname'] at nickname
  rw [same, key'] at key
  refine ⟨ContactId.toJson_injective (Record.value_eq same id id'),
    Author.record_injective (congrArg Record.mk authors), Json.bool.inj (Record.value_eq same verified verified'),
    Timestamp.toJson_injective (Record.value_eq same latest latest'), ?_, ?_⟩
  · exact (Option.map_injective (fun _ _ => Json.string.inj) nickname).symm
  · exact (Option.map_injective (fun _ _ e => Base64.encode_injective (Json.string.inj e)) key).symm

theorem MessageHeader.record_injective {h h' : MessageHeader} {id id' : ContactId} {text? text'? : Option String}
    (same : h.record id text? = h'.record id' text'?) : id = id' ∧ h = h' ∧ text? = text'? := by
  obtain ⟨-, number, time, read, seen, sent, own, message, group, text⟩ := h.shows_record id text?
  obtain ⟨-, number', time', read', seen', sent', own', message', group', text'⟩ := h'.shows_record id' text'?
  rw [same, text'] at text
  have messages := UniqueId.display_injective (Json.string.inj (Record.value_eq same message message'))
  have groups := UniqueId.display_injective (Json.string.inj (Record.value_eq same group group'))
  have times := Timestamp.toJson_injective (Record.value_eq same time time')
  refine ⟨ContactId.toJson_injective (Record.value_eq same number number'), ?_,
    (Option.map_injective (fun _ _ => Json.string.inj) text).symm⟩
  obtain ⟨_, _, _, _, _, _, _⟩ := h
  obtain ⟨_, _, _, _, _, _, _⟩ := h'
  rw [MessageHeader.mk.injEq]
  exact ⟨congrArg MessageId.mk messages, congrArg GroupId.mk groups, times,
    Json.bool.inj (Record.value_eq same own own'), Json.bool.inj (Record.value_eq same read read'),
    Json.bool.inj (Record.value_eq same sent sent'), Json.bool.inj (Record.value_eq same seen seen')⟩

theorem ContactAdded.get?_record (e : ContactAdded) :
    e.record.get? "contactId" = some e.contactId.toJson ∧ e.record.get? "verified" = some (.bool e.verified) := by
  simp [record, Record.get?_put]

/-- The texts of the records of contacts, of messages and of additions determine what is recorded: nothing of it is
lost, and no name, alias or text of a message passes for anything else. -/
theorem texts_determine_records :
    (∀ (c c' : Contact) (t t' : Timestamp), (c.record t).text = (c'.record t').text ↔
      c.id = c'.id ∧ c.author.formatVersion = c'.author.formatVersion ∧ c.author.id = c'.author.id ∧
        c.author.name = c'.author.name ∧ c.author.publicKey = c'.author.publicKey ∧ c.verified = c'.verified ∧
        t = t' ∧ c.alias? = c'.alias? ∧ c.handshakeKey? = c'.handshakeKey?) ∧
    (∀ (h h' : MessageHeader) (id id' : ContactId) (text? text'? : Option String),
      (h.record id text?).text = (h'.record id' text'?).text ↔
        id = id' ∧ h.timestamp = h'.timestamp ∧ h.read = h'.read ∧ h.seen = h'.seen ∧ h.sent = h'.sent ∧
          h.isLocal = h'.isLocal ∧ h.id = h'.id ∧ h.groupId = h'.groupId ∧ text? = text'?) ∧
    (∀ e e' : ContactAdded, e.record.text = e'.record.text ↔
      e.contactId = e'.contactId ∧ e.verified = e'.verified) := by
  simp only [Record.text_inj]
  refine ⟨fun c c' t t' => ⟨fun same => ?_, ?_⟩, fun h h' id id' text? text'? => ⟨fun same => ?_, ?_⟩,
    fun e e' => ⟨fun same => ?_, ?_⟩⟩
  · obtain ⟨id, author, rest⟩ := Contact.record_injective same
    rw [author]
    exact ⟨id, rfl, rfl, rfl, rfl, rest⟩
  · rintro ⟨id, version, authorId, name, publicKey, verified, rfl, nickname, key⟩
    have author := Author.eq_of_fields authorId version name publicKey
    rw [Contact.record, Contact.record, id, author, verified, nickname, key]
  · obtain ⟨number, rfl, text⟩ := MessageHeader.record_injective same
    exact ⟨number, rfl, rfl, rfl, rfl, rfl, rfl, rfl, text⟩
  · rintro ⟨rfl, time, read, seen, sent, own, message, group, rfl⟩
    rw [MessageHeader.record, MessageHeader.record, time, read, seen, sent, own, message, group]
  · obtain ⟨number, verified⟩ := e.get?_record
    obtain ⟨number', verified'⟩ := e'.get?_record
    exact ⟨ContactId.toJson_injective (Record.value_eq same number number'),
      Json.bool.inj (Record.value_eq same verified verified')⟩
  · rintro ⟨number, verified⟩
    rw [ContactAdded.record, ContactAdded.record, number, verified]

end PeerPost
