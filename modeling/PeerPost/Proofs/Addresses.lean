import PeerPost.Config.SocketAddress
import PeerPost.Proofs.Targets

/-! # The port of a socket address

Whatever is read of a socket address leaves an end of its text for the port, which takes all of this end: a
colon and digits. So the port is the number behind the last colon of the text, and nothing that stands before
this colon has a say in it. -/

namespace PeerPost

variable {text rest : List Char}

/-- What stands behind the last separator of a list is determined by the list. -/
theorem eq_of_append_separator {α : Type} {separator : α} {a b c d : List α}
    (same : a ++ separator :: b = c ++ separator :: d) (hb : separator ∉ b) (hd : separator ∉ d) : b = d := by
  have cut {l x y : List α} (e : separator :: x = l ++ separator :: y) (hx : separator ∉ x) : x = y := by
    cases l with
    | nil => exact (List.cons.inj e).2
    | cons first l =>
      -- The separator before `y` would stand in `x`.
      rw [List.cons_append, List.cons.injEq] at e
      exact absurd (e.2 ▸ List.mem_append_right l List.mem_cons_self) hx
  rcases List.append_eq_append_iff.mp same with ⟨l, -, e⟩ | ⟨l, -, e⟩
  · exact cut e hb
  · exact (cut e hd).symm

/-! ### What readers leave -/

namespace Ipv4

theorem readOctet?_suffix {n : UInt8} (h : readOctet? text = some (n, rest)) : rest <:+ text := by
  simp only [readOctet?] at h
  split at h
  · cases h
  · cases h
    exact List.dropWhile_suffix _

theorem readDotted?_suffix {n : UInt8} (h : readDotted? text = some (n, rest)) : rest <:+ text := by
  unfold readDotted? at h
  split at h
  · exact (readOctet?_suffix h).trans (List.suffix_cons _ _)
  · cases h

theorem read?_suffix {ip : Ipv4} (h : read? text = some (ip, rest)) : rest <:+ text := by
  simp only [read?, Option.bind_eq_bind, Option.bind_eq_some_iff] at h
  obtain ⟨_, ha, _, hb, _, hc, _, hd, e⟩ := h
  cases e
  exact (((readDotted?_suffix hd).trans (readDotted?_suffix hc)).trans (readDotted?_suffix hb)).trans
    (readOctet?_suffix ha)

end Ipv4

namespace Ipv6

theorem readGroup?_suffix {group : UInt16} (h : readGroup? text = some (group, rest)) : rest <:+ text := by
  simp only [readGroup?] at h
  split at h
  · cases h
  · cases h
    exact List.dropWhile_suffix _

theorem skipColon?_suffix {isFirst : Bool} (h : skipColon? isFirst text = some rest) : rest <:+ text := by
  unfold skipColon? at h
  split at h
  · split at h
    · cases h
    · cases h
      exact List.suffix_cons _ _
  · split at h
    · cases h
      exact List.suffix_refl _
    · cases h

theorem readGroups_suffix (room : Nat) (isFirst : Bool) (text : List Char) :
    (readGroups room isFirst text).rest <:+ text := by
  induction room generalizing isFirst text with
  | zero => exact List.suffix_refl _
  | succ room ih =>
    rw [readGroups]
    split
    · exact List.suffix_refl _
    · next start hs =>
      have skipped := skipColon?_suffix hs
      split
      · next ip rest hi =>
        split at hi
        · exact (Ipv4.read?_suffix hi).trans skipped
        · cases hi
      · split
        · exact List.suffix_refl _
        · next group rest hg => exact ((ih false rest).trans (readGroup?_suffix hg)).trans skipped

theorem read?_suffix {ip : Ipv6} (h : read? text = some (ip, rest)) : rest <:+ text := by
  have head := readGroups_suffix 8 true text
  simp only [read?] at h
  split at h
  · obtain ⟨_, -, e⟩ := Option.map_eq_some_iff.mp h
    cases e
    exact head
  · split at h
    · cases h
    · split at h
      · next after hc =>
        obtain ⟨_, -, e⟩ := Option.map_eq_some_iff.mp h
        cases e
        rw [hc] at head
        exact ((readGroups_suffix _ true after).trans ((List.suffix_cons _ _).trans (List.suffix_cons _ _))).trans head
      · cases h

end Ipv6

namespace SocketAddress

theorem readNumber?_inv {greatest n : Nat} (h : readNumber? greatest text = some (n, rest)) :
    n ≤ greatest ∧ n = Decimal.value (text.takeWhile Decimal.isDigit) ∧ rest = text.dropWhile Decimal.isDigit := by
  simp only [readNumber?] at h
  split at h
  · cases h
  · next fits =>
    rw [Bool.or_eq_true, not_or, decide_eq_true_eq, Nat.not_lt, Decimal.valueUpTo_eq] at fits
    cases h
    rw [Decimal.valueUpTo_eq]
    exact ⟨fits.2, by omega, rfl⟩

theorem readScope_suffix (text : List Char) : (readScope text).2 <:+ text := by
  unfold readScope
  split
  · next after =>
    split
    · next n rest hn =>
      obtain ⟨-, -, rfl⟩ := readNumber?_inv hn
      exact (List.dropWhile_suffix _).trans (List.suffix_cons _ _)
    · exact List.suffix_refl _
  · exact List.suffix_refl _

/-! ### Ports -/

/-- A port that is read to the end of the text is a colon and the digits of its number. -/
theorem readPort?_inv {port : UInt16} (h : readPort? text = some (port, [])) :
    ∃ ds, text = ':' :: ds ∧ (∀ c ∈ ds, Decimal.isDigit c = true) ∧ port.toNat = Decimal.value ds := by
  unfold readPort? at h
  split at h
  · next ds =>
    obtain ⟨⟨n, left⟩, hn, e⟩ := Option.map_eq_some_iff.mp h
    cases e
    obtain ⟨small, value, ends⟩ := readNumber?_inv hn
    have digits : ∀ c ∈ ds, Decimal.isDigit c = true := List.dropWhile_eq_nil_iff.mp ends.symm
    rw [List.takeWhile_eq_self_iff.mpr digits] at value
    refine ⟨ds, rfl, digits, ?_⟩
    rw [← value, Nat.toUInt16_eq, UInt16.toNat_ofNat', Nat.mod_eq_of_lt (Nat.lt_succ_of_le small)]
  · cases h

/-- The port is the last thing that is read of an address. -/
theorem readPort?_of_readV4? {address : SocketAddress} (h : readV4? text = some (address, rest)) :
    ∃ last, last <:+ text ∧ readPort? last = some (address.port, rest) := by
  simp only [readV4?, Option.bind_eq_bind, Option.bind_eq_some_iff] at h
  obtain ⟨⟨ip, last⟩, hi, ⟨port, left⟩, hp, e⟩ := h
  cases e
  exact ⟨last, Ipv4.read?_suffix hi, hp⟩

theorem readPort?_of_readV6? {address : SocketAddress} (h : readV6? text = some (address, rest)) :
    ∃ last, last <:+ text ∧ readPort? last = some (address.port, rest) := by
  unfold readV6? at h
  split at h
  · next inner =>
    simp only [Option.bind_eq_bind, Option.bind_eq_some_iff] at h
    obtain ⟨⟨ip, after⟩, hi, h⟩ := h
    have before := (Ipv6.read?_suffix hi).trans (List.suffix_cons '[' inner)
    have scope := readScope_suffix after
    split at h
    · next last hl =>
      simp only [Option.bind_eq_some_iff] at h
      obtain ⟨⟨port, left⟩, hp, e⟩ := h
      cases e
      rw [hl] at scope
      exact ⟨last, ((List.suffix_cons _ _).trans scope).trans before, hp⟩
    · cases h
  · cases h

theorem readPort?_of_ofChars? {address : SocketAddress} (h : ofChars? text = some address) :
    ∃ last, last <:+ text ∧ readPort? last = some (address.port, []) := by
  unfold ofChars? at h
  split at h
  · next read =>
    cases h
    rcases Option.or_eq_some_iff.mp read with hv | ⟨-, hv⟩
    · exact readPort?_of_readV4? hv
    · exact readPort?_of_readV6? hv
  · cases h

/-- An address that is read from any text, a colon and a port has this port. -/
theorem port_of_ofChars? {host : List Char} {port : UInt16} {address : SocketAddress}
    (h : ofChars? (host ++ ':' :: Decimal.digits port.toNat) = some address) : address.port = port := by
  obtain ⟨last, ⟨before, split⟩, hp⟩ := readPort?_of_ofChars? h
  obtain ⟨ds, rfl, digits, value⟩ := readPort?_inv hp
  have noColon {l : List Char} (hl : ∀ c ∈ l, Decimal.isDigit c = true) : ':' ∉ l :=
    fun hc => absurd (hl ':' hc) (by decide)
  obtain rfl := eq_of_append_separator split (noColon digits) (noColon (Decimal.isDigit_of_mem_digits _))
  rw [Decimal.value_digits] at value
  exact UInt16.toNat.inj value

end SocketAddress

end PeerPost
