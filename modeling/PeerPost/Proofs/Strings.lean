import Mathlib.Data.List.Basic
import Mathlib.Tactic.IntervalCases
import PeerPost.Json.Value
import PeerPost.Message.Draft

/-! # Strings in JSON texts

The text that is written for a string is read back as the same string, whatever characters it has: those
that are escaped come back from their escapes, and the bytes of all others stand for themselves. Written
out, a string has at most six times as many bytes as before. -/

namespace PeerPost

theorem Text.utf8_ofList (cs : List Char) : utf8 (String.ofList cs) = cs.flatMap String.utf8EncodeChar := by
  rw [utf8, String.toByteArray_ofList, List.utf8Encode, List.data_toByteArray, List.toList_toArray]

theorem Text.utf8_eq_flatMap (text : String) : utf8 text = text.toList.flatMap String.utf8EncodeChar := by
  rw [← utf8_ofList, String.ofList_toList]

namespace Json.Scanner

/-! ### Bytes that stand for themselves -/

/-- A byte that stands for itself in a string: no control character, quote or backslash. -/
def Plain (b : UInt8) : Prop :=
  0x20 ≤ b.toNat ∧ b.toNat ≠ 0x22 ∧ b.toNat ≠ 0x5C

theorem readStringBytes?_plain {b : UInt8} (h : Plain b) (done rest : Bytes) :
    readStringBytes? done (b :: rest) = readStringBytes? (b :: done) rest := by
  obtain ⟨least, quote, slash⟩ := h
  have slash' : b ≠ 0x5C := fun e => slash (congrArg UInt8.toNat e)
  rw [readStringBytes?]
  · rw [if_neg]
    rw [UInt8.lt_iff_toNat_lt]
    exact Nat.not_lt.mpr least
  · exact fun e => quote (congrArg UInt8.toNat e)
  · exact fun _ _ _ _ _ e => absurd e slash'
  · exact fun _ _ e => absurd e slash'

theorem readStringBytes?_plains {bytes : Bytes} (h : ∀ b ∈ bytes, Plain b) (done rest : Bytes) :
    readStringBytes? done (bytes ++ rest) = readStringBytes? (bytes.reverse ++ done) rest := by
  induction bytes generalizing done with
  | nil => rfl
  | cons b bytes ih =>
    rw [List.cons_append, readStringBytes?_plain (h b List.mem_cons_self),
      ih fun b hb => h b (List.mem_cons_of_mem _ hb), List.reverse_cons, List.append_assoc]
    rfl

/-- The bytes of a character stand for themselves unless the character is a control character, a quote or a
backslash. -/
theorem plain_utf8EncodeChar {c : Char} (least : 0x20 ≤ c.toNat) (quote : c ≠ '"') (slash : c ≠ '\\') :
    ∀ b ∈ String.utf8EncodeChar c, Plain b := by
  have hq : c.toNat ≠ 0x22 := fun h => quote (Char.toNat_inj.mp h)
  have hs : c.toNat ≠ 0x5C := fun h => slash (Char.toNat_inj.mp h)
  intro b hb
  simp only [String.utf8EncodeChar, show c.val.toNat = c.toNat from rfl] at hb
  split at hb
  · next small =>
    rw [List.mem_singleton.mp hb, Plain, UInt8.toNat_ofNat']
    omega
  · -- Every byte of a longer encoding has its highest bit set.
    have high {k : Nat} (h : 0x80 ≤ k % 256) : Plain (UInt8.ofNat k) := by
      rw [Plain, UInt8.toNat_ofNat']
      omega
    split at hb
    · simp only [List.mem_cons, List.not_mem_nil, or_false] at hb
      rcases hb with rfl | rfl
      · exact high (by omega)
      · exact high (by omega)
    · split at hb
      · simp only [List.mem_cons, List.not_mem_nil, or_false] at hb
        rcases hb with rfl | rfl | rfl
        · exact high (by omega)
        · exact high (by omega)
        · exact high (by omega)
      · simp only [List.mem_cons, List.not_mem_nil, or_false] at hb
        rcases hb with rfl | rfl | rfl | rfl
        · exact high (by omega)
        · exact high (by omega)
        · exact high (by omega)
        · exact high (by omega)

/-! ### Escapes -/

/-- The bytes of a text that is written inside a string. -/
def written (text : List Char) : Bytes :=
  (text.flatMap escape).flatMap String.utf8EncodeChar

theorem written_cons (c : Char) (text : List Char) :
    written (c :: text) = (escape c).flatMap String.utf8EncodeChar ++ written text := by
  rw [written, List.flatMap_cons, List.flatMap_append]
  rfl

theorem readStringBytes?_unicode {a b c d : UInt8} {n : Nat} {left : Bytes}
    (h : readHex4? [a, b, c, d] = some (n, left)) (small : n < 0xD800) (done rest : Bytes) :
    readStringBytes? done (0x5C :: 0x75 :: a :: b :: c :: d :: rest) =
      readStringBytes? ((codePointBytes n).reverse ++ done) rest := by
  rw [readStringBytes?, h]
  simp only [small, decide_true, Bool.true_or, if_true]

/-- A control character is read back from its escape. -/
theorem readStringBytes?_control (n : Nat) (h : n < 0x20) (done rest : Bytes) :
    readStringBytes? done ((escape (Char.ofNat n)).flatMap String.utf8EncodeChar ++ rest) =
      readStringBytes? ((String.utf8EncodeChar (Char.ofNat n)).reverse ++ done) rest := by
  interval_cases n
  case «8» => rfl
  case «9» => rfl
  case «10» => rfl
  case «12» => rfl
  case «13» => rfl
  all_goals exact readStringBytes?_unicode (a := 0x30) (b := 0x30) rfl (by decide) done rest

theorem escape_plain {c : Char} (control : ¬c.toNat < 0x20) (quote : c ≠ '"') (slash : c ≠ '\\') :
    escape c = [c] := by
  have other {d : Char} (h : d.toNat < 0x20) : c ≠ d := by
    rintro rfl
    exact control h
  rw [escape, if_neg quote, if_neg slash, if_neg (other (by decide)), if_neg (other (by decide)),
    if_neg (other (by decide)), if_neg (other (by decide)), if_neg (other (by decide)), if_neg control]

/-- A character is read back from what is written for it. -/
theorem readStringBytes?_escape (c : Char) (done rest : Bytes) :
    readStringBytes? done ((escape c).flatMap String.utf8EncodeChar ++ rest) =
      readStringBytes? ((String.utf8EncodeChar c).reverse ++ done) rest := by
  by_cases control : c.toNat < 0x20
  · rw [← Char.ofNat_toNat c]
    exact readStringBytes?_control c.toNat control done rest
  by_cases quote : c = '"'
  · subst quote
    rfl
  by_cases slash : c = '\\'
  · subst slash
    rfl
  rw [escape_plain control quote slash, List.flatMap_singleton]
  exact readStringBytes?_plains (plain_utf8EncodeChar (Nat.le_of_not_lt control) quote slash) done rest

theorem readStringBytes?_written (text : List Char) (done rest : Bytes) :
    readStringBytes? done (written text ++ 0x22 :: rest) =
      some (done.reverse ++ text.flatMap String.utf8EncodeChar, rest) := by
  induction text generalizing done with
  | nil =>
    rw [List.flatMap_nil, List.append_nil]
    rfl
  | cons c text ih =>
    rw [written_cons, List.append_assoc, readStringBytes?_escape, ih, List.reverse_append, List.reverse_reverse,
      List.flatMap_cons, List.append_assoc]

/-- A string is read back from what is written for it. -/
theorem readString?_written (text : String) (rest : Bytes) :
    readString? (written text.toList ++ 0x22 :: rest) = some (text, rest) := by
  rw [readString?, readStringBytes?_written, List.reverse_nil, List.nil_append, ← Text.utf8_eq_flatMap]
  simp only [Text.ofUtf8?_utf8, Option.map_some]

/-! ### The size of what is written -/

theorem length_escape_control (n : Nat) (h : n < 0x20) :
    ((escape (Char.ofNat n)).flatMap String.utf8EncodeChar).length ≤ 6 := by
  interval_cases n <;> decide

/-- What is written for a character has at most six times as many bytes. -/
theorem length_escape_le (c : Char) :
    ((escape c).flatMap String.utf8EncodeChar).length ≤ 6 * (String.utf8EncodeChar c).length := by
  have least : 0 < (String.utf8EncodeChar c).length := List.length_pos_of_ne_nil String.utf8EncodeChar_ne_nil
  by_cases control : c.toNat < 0x20
  · have six := length_escape_control c.toNat control
    rw [Char.ofNat_toNat] at six
    omega
  by_cases quote : c = '"'
  · subst quote
    decide
  by_cases slash : c = '\\'
  · subst slash
    decide
  rw [escape_plain control quote slash, List.flatMap_singleton]
  omega

theorem length_written_le (text : String) : (written text.toList).length ≤ 6 * Text.size text := by
  rw [← Text.length_utf8, Text.utf8_eq_flatMap]
  induction text.toList with
  | nil => exact le_refl _
  | cons c rest ih =>
    have one := length_escape_le c
    rw [written_cons, List.length_append, List.flatMap_cons, List.length_append]
    omega

end Json.Scanner

/-! ### The body of a request to write -/

/-- The body of a request to write a text: the text of an object with the one member `text`. -/
def writeBody (text : String) : Bytes :=
  Text.utf8 (Json.object [("text", .string text)]).text

namespace Draft

open Json.Scanner

theorem writeBody_chars (text : String) : (Json.object [("text", .string text)]).chars =
    ['{', '"', 't', 'e', 'x', 't', '"', ':', '"'] ++ (text.toList.flatMap Json.escape ++ ['"', '}']) := by
  rw [Json.chars, Json.memberChars, Json.memberChars, Json.memberText, Json.chars, Json.separated, Json.quote,
    Json.quote]
  simp only [List.flatMap_nil, List.append_nil, List.append_assoc, List.cons_append]
  rfl

/-- The bytes of the body before and after the text. -/
theorem writeBody_eq (text : String) : writeBody text =
    [0x7B, 0x22, 0x74, 0x65, 0x78, 0x74, 0x22, 0x3A, 0x22] ++ (written text.toList ++ [0x22, 0x7D]) := by
  rw [writeBody, Json.text, Text.utf8_ofList, writeBody_chars, List.flatMap_append, List.flatMap_append]
  rfl

theorem readText?_written (text : String) (rest : Bytes) :
    readText? (0x22 :: (written text.toList ++ 0x22 :: rest)) = some (some text, rest) := by
  show (readString? (written text.toList ++ 0x22 :: rest)).map _ = _
  rw [readString?_written, Option.map_some]

/-- The body is read as a draft of the text. -/
theorem decode?_writeBody (text : String) : decode? (writeBody text) = some ⟨some text⟩ := by
  have name (rest : Bytes) : readString? (0x74 :: 0x65 :: 0x78 :: 0x74 :: 0x22 :: rest) = some ("text", rest) :=
    readString?_written "text" rest
  have member (steps : Nat) : readMember? steps none
      (0x74 :: 0x65 :: 0x78 :: 0x74 :: 0x22 :: 0x3A :: 0x22 :: (written text.toList ++ [0x22, 0x7D])) =
      some (some (some text), [0x7D]) := by
    rw [readMember?, name]
    show (if "text" = "text" then _ else _) = _
    rw [if_pos rfl, if_neg (by decide), readText?_written, Option.map_some]
  have members (steps : Nat) : readMembers? (steps + 1) none
      (0x22 :: 0x74 :: 0x65 :: 0x78 :: 0x74 :: 0x22 :: 0x3A :: 0x22 :: (written text.toList ++ [0x22, 0x7D])) =
      some (some text, []) := by
    have quoted (rest : Bytes) : skipSpace (0x22 :: rest) = 0x22 :: rest := rfl
    simp only [readMembers?, quoted, member]
    rfl
  have object : readObject?
      (0x22 :: 0x74 :: 0x65 :: 0x78 :: 0x74 :: 0x22 :: 0x3A :: 0x22 :: (written text.toList ++ [0x22, 0x7D])) =
      some (some text, []) := members _
  have opened (rest : Bytes) : skipSpace (0x7B :: rest) = 0x7B :: rest := rfl
  rw [writeBody_eq, decode?]
  simp only [List.cons_append, List.nil_append, opened, object]
  rfl

theorem length_writeBody_le (text : String) : (writeBody text).length ≤ 6 * Text.size text + 11 := by
  have body := length_written_le text
  rw [writeBody_eq]
  simp only [List.length_append, List.length_cons, List.length_nil]
  omega

end Draft

end PeerPost
