import PeerPost.Message

/-! # What is hashed

The bytes hashed for a message determine its group, time and text, and the bytes hashed for a group
determine its two authors up to their order. Where the digests of such bytes are distinct, so are the
identifiers. -/

namespace PeerPost

theorem length_bigEndian64 (w : UInt64) : (bigEndian64 w).length = 8 := rfl

/-- A word is the sum of its eight bytes at their places. -/
theorem toNat_eq_bytes (w : UInt64) : w.toNat =
    (w >>> 56).toUInt8.toNat * 0x100000000000000 + (w >>> 48).toUInt8.toNat * 0x1000000000000 +
      (w >>> 40).toUInt8.toNat * 0x10000000000 + (w >>> 32).toUInt8.toNat * 0x100000000 +
      (w >>> 24).toUInt8.toNat * 0x1000000 + (w >>> 16).toUInt8.toNat * 0x10000 +
      (w >>> 8).toUInt8.toNat * 0x100 + w.toUInt8.toNat := by
  have bound := w.toNat_lt
  have shifted (k : UInt64) (hk : k.toNat < 64) : (w >>> k).toNat = w.toNat / 2 ^ k.toNat := by
    rw [UInt64.toNat_shiftRight, Nat.mod_eq_of_lt hk, Nat.shiftRight_eq_div_pow]
  have h56 : (w >>> 56).toNat = w.toNat / 2 ^ 56 := shifted 56 (by decide)
  have h48 : (w >>> 48).toNat = w.toNat / 2 ^ 48 := shifted 48 (by decide)
  have h40 : (w >>> 40).toNat = w.toNat / 2 ^ 40 := shifted 40 (by decide)
  have h32 : (w >>> 32).toNat = w.toNat / 2 ^ 32 := shifted 32 (by decide)
  have h24 : (w >>> 24).toNat = w.toNat / 2 ^ 24 := shifted 24 (by decide)
  have h16 : (w >>> 16).toNat = w.toNat / 2 ^ 16 := shifted 16 (by decide)
  have h8 : (w >>> 8).toNat = w.toNat / 2 ^ 8 := shifted 8 (by decide)
  simp only [UInt64.toNat_toUInt8, h56, h48, h40, h32, h24, h16, h8]
  omega

theorem bigEndian64_injective {v w : UInt64} (h : bigEndian64 v = bigEndian64 w) : v = w := by
  simp only [bigEndian64, List.cons.injEq, and_true] at h
  obtain ⟨h7, h6, h5, h4, h3, h2, h1, h0⟩ := h
  apply UInt64.toNat.inj
  rw [toNat_eq_bytes v, toNat_eq_bytes w, h7, h6, h5, h4, h3, h2, h1, h0]

namespace UniqueId

theorem length_toBytes (id : UniqueId) : id.toBytes.length = 32 := by
  simp [toBytes]

theorem toBytes_injective {a b : UniqueId} (h : a.toBytes = b.toBytes) : a = b := by
  obtain ⟨a⟩ := a
  obtain ⟨b⟩ := b
  exact congrArg UniqueId.mk (Vector.toList_inj.mp h)

end UniqueId

/-! ### Messages -/

/-- The bytes hashed for a message determine the message. -/
theorem MessageId.hashedBytes_inj {g g' : GroupId} {t t' : Timestamp} {text text' : String}
    (h : hashedBytes g t text = hashedBytes g' t' text') : g = g' ∧ t = t' ∧ text = text' := by
  unfold hashedBytes at h
  obtain ⟨h, htext⟩ := List.append_inj h (by simp [UniqueId.length_toBytes, length_bigEndian64])
  obtain ⟨h, htime⟩ := List.append_inj h (by simp [UniqueId.length_toBytes])
  obtain ⟨-, hgroup⟩ := List.append_inj h rfl
  refine ⟨?_, ?_, Text.utf8_injective htext⟩
  · obtain ⟨g⟩ := g
    obtain ⟨g'⟩ := g'
    exact congrArg GroupId.mk (UniqueId.toBytes_injective hgroup)
  · obtain ⟨t⟩ := t
    obtain ⟨t'⟩ := t'
    exact congrArg (fun w => Timestamp.mk w.toInt64) (bigEndian64_injective htime)

/-! ### Groups -/

theorem Contact.groupHashedBytes_eq (a b : AuthorId) : groupHashedBytes a b =
    if a.id.toBytes < b.id.toBytes then Text.utf8 "courier/PRIVATE_GROUP_ID" ++ a.id.toBytes ++ b.id.toBytes
    else Text.utf8 "courier/PRIVATE_GROUP_ID" ++ b.id.toBytes ++ a.id.toBytes := by
  unfold groupHashedBytes
  by_cases h : a.id.toBytes < b.id.toBytes
  · simp only [h, if_true]
  · simp only [h, if_false]

/-- The bytes hashed for a group determine its two authors, up to their order. -/
theorem Contact.groupHashedBytes_inj {a b c d : AuthorId}
    (h : groupHashedBytes a b = groupHashedBytes c d) : (a = c ∧ b = d) ∨ (a = d ∧ b = c) := by
  have same {x y : AuthorId} (e : x.id.toBytes = y.id.toBytes) : x = y := by
    obtain ⟨x⟩ := x
    obtain ⟨y⟩ := y
    exact congrArg AuthorId.mk (UniqueId.toBytes_injective e)
  have halves {p q r s : AuthorId}
      (e : Text.utf8 "courier/PRIVATE_GROUP_ID" ++ p.id.toBytes ++ q.id.toBytes =
        Text.utf8 "courier/PRIVATE_GROUP_ID" ++ r.id.toBytes ++ s.id.toBytes) : p = r ∧ q = s := by
    obtain ⟨e, second⟩ := List.append_inj e (by simp [UniqueId.length_toBytes])
    obtain ⟨-, first⟩ := List.append_inj e rfl
    exact ⟨same first, same second⟩
  rw [groupHashedBytes_eq, groupHashedBytes_eq] at h
  split at h <;> split at h
  · exact Or.inl (halves h)
  · exact Or.inr (halves h)
  · obtain ⟨h₁, h₂⟩ := halves h
    exact Or.inr ⟨h₂, h₁⟩
  · obtain ⟨h₁, h₂⟩ := halves h
    exact Or.inl ⟨h₂, h₁⟩

end PeerPost
