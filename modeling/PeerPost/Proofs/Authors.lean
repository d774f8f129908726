import PeerPost.Proofs.Hashing

/-! # Authors

An author can be created exactly if its name and its key have sizes within bounds. The bytes hashed for it
determine its version, name and key, since the size of the name stands before the name, and they are never
those hashed for a group or a message, since the labels differ. -/

namespace PeerPost

theorem checkSize_eq_ok_iff {field : String} {greatest size : Nat} :
    checkSize field greatest size = .ok () ↔ 0 < size ∧ size ≤ greatest := by
  unfold checkSize
  split
  · next zero => simp [zero]
  · next nonzero =>
    split
    · next large => simp [large]
    · next fits => simp [Nat.pos_of_ne_zero nonzero, Nat.le_of_not_lt fits]

/-! ### Words of 32 bits -/

/-- A word is the sum of its four bytes at their places. -/
theorem toNat_eq_wordBytes (w : UInt32) : w.toNat =
    (w >>> 24).toUInt8.toNat * 0x1000000 + (w >>> 16).toUInt8.toNat * 0x10000 +
      (w >>> 8).toUInt8.toNat * 0x100 + w.toUInt8.toNat := by
  have bound := w.toNat_lt
  have shifted (k : UInt32) (hk : k.toNat < 32) : (w >>> k).toNat = w.toNat / 2 ^ k.toNat := by
    rw [UInt32.toNat_shiftRight, Nat.mod_eq_of_lt hk, Nat.shiftRight_eq_div_pow]
  have h24 : (w >>> 24).toNat = w.toNat / 2 ^ 24 := shifted 24 (by decide)
  have h16 : (w >>> 16).toNat = w.toNat / 2 ^ 16 := shifted 16 (by decide)
  have h8 : (w >>> 8).toNat = w.toNat / 2 ^ 8 := shifted 8 (by decide)
  simp only [UInt32.toNat_toUInt8, h24, h16, h8]
  omega

theorem bigEndian32_injective {v w : UInt32} (h : bigEndian32 v = bigEndian32 w) : v = w := by
  simp only [bigEndian32, Sha256.wordBytes, List.cons.injEq, and_true] at h
  obtain ⟨h3, h2, h1, h0⟩ := h
  apply UInt32.toNat.inj
  rw [toNat_eq_wordBytes v, toNat_eq_wordBytes w, h3, h2, h1, h0]

/-! ### Creating and hashing -/

namespace Author

variable {name name' : String} {key key' : Bytes} {version version' : Int32}

/-- Whether an author can have this name. -/
def ValidName (name : String) : Prop :=
  0 < Text.size name ∧ Text.size name ≤ maxNameSize

/-- Whether an author can have this public key. -/
def ValidKey (key : Bytes) : Prop :=
  0 < key.length ∧ key.length ≤ maxKeySize

instance : Decidable (ValidName name) := inferInstanceAs (Decidable (_ ∧ _))

instance : Decidable (ValidKey key) := inferInstanceAs (Decidable (_ ∧ _))

/-- The authors that can be created are those with a name and a key of valid sizes. -/
theorem create_eq_ok_iff {author : Author} : create name key = .ok author ↔
    ValidName name ∧ ValidKey key ∧ author = ⟨deriveId currentVersion name key, currentVersion, name, key⟩ := by
  have named : checkSize "name" maxNameSize (Text.size name) = .ok () ↔ _ := checkSize_eq_ok_iff
  have keyed : checkSize "publicKey" maxKeySize key.length = .ok () ↔ _ := checkSize_eq_ok_iff
  rw [ValidName, ValidKey, ← named, ← keyed, create]
  cases checkSize "name" maxNameSize (Text.size name) with
  | error e => simp [bind, Except.bind]
  | ok _ =>
    cases checkSize "publicKey" maxKeySize key.length with
    | error e => simp [bind, Except.bind]
    | ok _ => simp [bind, Except.bind, pure, Except.pure, eq_comm]

theorem create_of_valid (hname : ValidName name) (hkey : ValidKey key) :
    create name key = .ok ⟨deriveId currentVersion name key, currentVersion, name, key⟩ :=
  create_eq_ok_iff.mpr ⟨hname, hkey, rfl⟩

theorem ValidName.size_lt (h : ValidName name) : Text.size name < UInt32.size :=
  Nat.lt_of_le_of_lt h.2 (by decide)

/-- The bytes hashed for an author determine its version, name and key. -/
theorem hashedBytes_inj (small : Text.size name < UInt32.size) (small' : Text.size name' < UInt32.size)
    (h : hashedBytes version name key = hashedBytes version' name' key') :
    version = version' ∧ name = name' ∧ key = key' := by
  unfold hashedBytes at h
  simp only [List.append_assoc] at h
  obtain ⟨-, h⟩ := List.append_inj h rfl
  obtain ⟨hversion, h⟩ := List.append_inj h rfl
  obtain ⟨hsize, h⟩ := List.append_inj h rfl
  have sizes : Text.size name = Text.size name' := by
    have words := congrArg UInt32.toNat (bigEndian32_injective hsize)
    rwa [UInt32.toNat_ofNat_of_lt' small, UInt32.toNat_ofNat_of_lt' small'] at words
  obtain ⟨hname, hkey⟩ := List.append_inj h sizes
  exact ⟨congrArg Int32.ofUInt32 (bigEndian32_injective hversion), Text.utf8_injective hname, hkey⟩

end Author

/-! ### Labels -/

/-- Bytes that begin with labels that differ in a byte are different. -/
theorem ne_of_labels {a b x y : Bytes} (hx : a <+: x) (hy : b <+: y) {i : Nat} (ha : i < a.length) (hb : i < b.length)
    (differ : a[i] ≠ b[i]) : x ≠ y := by
  rintro rfl
  exact differ ((hx.getElem ha).trans (hy.getElem hb).symm)

theorem Author.label_prefix_hashedBytes (version : Int32) (name : String) (key : Bytes) :
    Text.utf8 "courier/AUTHOR_ID" <+: hashedBytes version name key := by
  simp only [hashedBytes, List.append_assoc]
  exact List.prefix_append _ _

theorem Contact.label_prefix_groupHashedBytes (a b : AuthorId) :
    Text.utf8 "courier/PRIVATE_GROUP_ID" <+: groupHashedBytes a b := by
  rw [groupHashedBytes_eq, List.append_assoc, List.append_assoc]
  split
  · exact List.prefix_append _ _
  · exact List.prefix_append _ _

theorem MessageId.label_prefix_hashedBytes (group : GroupId) (time : Timestamp) (text : String) :
    Text.utf8 "courier/MESSAGE_ID" <+: hashedBytes group time text := by
  simp only [hashedBytes, List.append_assoc]
  exact List.prefix_append _ _

/-- What is hashed for an author, for a group and for a message are three different things. -/
theorem hashedBytes_apart (version : Int32) (name : String) (key : Bytes) (a b : AuthorId) (group : GroupId)
    (time : Timestamp) (text : String) :
    Author.hashedBytes version name key ≠ Contact.groupHashedBytes a b ∧
      Author.hashedBytes version name key ≠ MessageId.hashedBytes group time text ∧
      Contact.groupHashedBytes a b ≠ MessageId.hashedBytes group time text := by
  have author := Author.label_prefix_hashedBytes version name key
  have pair := Contact.label_prefix_groupHashedBytes a b
  have message := MessageId.label_prefix_hashedBytes group time text
  -- The labels part after `courier/`.
  exact ⟨ne_of_labels author pair (i := 8) (by decide) (by decide) (by decide),
    ne_of_labels author message (i := 8) (by decide) (by decide) (by decide),
    ne_of_labels pair message (i := 8) (by decide) (by decide) (by decide)⟩

end PeerPost
