/-!
# Text and its bytes

A text travels as its UTF-8 bytes. `utf8` gives them, `ofUtf8?` reads them back and refuses every
other sequence of bytes, so the two are inverse to each other.
-/

namespace PeerPost

/-- A sequence of bytes, as it is hashed, stored or sent. -/
abbrev Bytes := List UInt8

namespace Text

def utf8 (text : String) : Bytes :=
  text.toByteArray.data.toList

/-- The number of UTF-8 bytes of a text. -/
def size (text : String) : Nat :=
  text.toByteArray.size

/-- The text that has these UTF-8 bytes, if there is one. -/
def ofUtf8? (bytes : Bytes) : Option String :=
  String.fromUTF8? ⟨bytes.toArray⟩

theorem ofUtf8?_eq_some_iff {bytes : Bytes} {text : String} : ofUtf8? bytes = some text ↔ bytes = utf8 text := by
  have key : ∀ b : ByteArray, String.fromUTF8? b = some text ↔ b = text.toByteArray := by
    intro b
    unfold String.fromUTF8?
    split
    · simp only [String.fromUTF8, Option.some.injEq]
      exact ⟨fun h => h ▸ rfl, fun h => by subst h; rfl⟩
    · simp only [reduceCtorEq, false_iff]
      rintro rfl
      exact absurd text.isValidUTF8 ‹_›
  rw [ofUtf8?, key, utf8]
  constructor
  · intro h
    rw [← h]
  · rintro rfl
    rfl

theorem ofUtf8?_utf8 (text : String) : ofUtf8? (utf8 text) = some text :=
  ofUtf8?_eq_some_iff.mpr rfl

theorem utf8_injective {a b : String} (h : utf8 a = utf8 b) : a = b :=
  Option.some.inj ((ofUtf8?_utf8 a).symm.trans (h ▸ ofUtf8?_utf8 b))

theorem length_utf8 (text : String) : (utf8 text).length = size text := rfl

end Text

end PeerPost
