import PeerPost.Proofs.Skipping

/-! # Decoding drafts

A body is decoded by the members that are named `text`, wherever they stand between others and however the
names are written. What the values of the other members are has no say in it. -/

namespace PeerPost

open Json.Grammar Json.Scanner

namespace Json.Grammar

/-- What the value of a member `text` asks for: a string or nothing. -/
def Tree.draft? : Tree → Option Draft
  | .null => some ⟨none⟩
  | .string pieces => (Piece.text? pieces).map fun text => ⟨some text⟩
  | _ => none

/-- The name of a member, as the string that its pieces stand for. -/
def Member.name? (m : Member Tree) : Option String :=
  Piece.text? m.name.inner

def Member.draft? (m : Member Tree) : Option Draft :=
  m.value.inner.draft?

end Json.Grammar

namespace Draft

/-! ### Values of the member -/

theorem readText?_tree (gap : Gap) (t : Tree) (rest : Bytes) :
    readText? (gap.bytes ++ (t.bytes ++ rest)) = t.draft?.map fun draft => (draft.text?, rest) := by
  have next : skipSpace (gap.bytes ++ (t.bytes ++ rest)) = t.bytes ++ rest := by
    rw [gap.skipSpace_append, t.skipSpace_bytes]
  rw [readText?, next]
  cases t with
  | null =>
    rw [Tree.bytes]
    rfl
  | bool value => cases value <;> (rw [Tree.bytes]; rfl)
  | string pieces =>
    rw [Tree.bytes, quoted, List.cons_append, List.append_assoc]
    show (readString? (pieces.flatMap Piece.bytes ++ 0x22 :: rest)).map _ = _
    rw [readString?_pieces, Tree.draft?]
    cases Piece.text? pieces <;> rfl
  | list gap items =>
    rw [Tree.bytes]
    rfl
  | object gap members =>
    rw [Tree.bytes]
    rfl
  | number n =>
    obtain ⟨b, more, e, head⟩ := n.head_bytes
    have apart : b ≠ 0x6E ∧ b ≠ 0x22 := by
      rcases head with rfl | ⟨d, rfl⟩
      · decide
      · exact (digitByte_apart d).2.2.2.2
    rw [Tree.bytes, e, List.cons_append]
    split
    · next h => exact absurd (List.cons.inj h).1 apart.1
    · next h => exact absurd (List.cons.inj h).1 apart.2
    · rfl

/-! ### Members -/

/-- What a member makes of the value that was found before it: a member `text` gives its own, and must be the
first one to do so. -/
def adds? (found : Option (Option String)) (m : Member Tree) : Option (Option (Option String)) :=
  match m.name? with
  | none => none
  | some name =>
    if name = "text" then
      if found.isSome then none else m.draft?.map fun draft => some draft.text?
    else some found

theorem readMember?_bytes (m : Member Tree) (found : Option (Option String)) {rest : Bytes} (ends : Ends rest)
    {steps : Nat} (enough : (m.value.before.bytes ++ (m.value.inner.bytes ++ rest)).length ≤ steps) :
    readMember? steps found (m.name.inner.flatMap Piece.bytes ++ 0x22 :: (m.name.after.bytes ++ 0x3A ::
      (m.value.before.bytes ++ (m.value.inner.bytes ++ rest)))) =
      (adds? found m).map fun found => (found, rest) := by
  rw [readMember?, readString?_pieces, adds?, Member.name?]
  cases Piece.text? m.name.inner with
  | none => rfl
  | some name =>
    have colon (rest : Bytes) : skipSpace (m.name.after.bytes ++ 0x3A :: rest) = 0x3A :: rest :=
      m.name.after.skipSpace_cons (by decide) rest
    simp only [Option.map_some, colon, readText?_tree, skipValue?_tree _ _ ends enough, Member.draft?]
    by_cases text : name = "text"
    · cases found <;> cases m.value.inner.draft? <;> simp [text]
    · simp [text]

theorem readMembers?_step (m : Member Tree) (found : Option (Option String)) {rest : Bytes} (ends : Ends rest)
    {steps : Nat} (enough : (m.bytesBefore rest).length ≤ steps + 1) :
    readMembers? (steps + 1) found (m.bytesBefore rest) = (adds? found m).bind fun found =>
      match skipSpace rest with
      | 0x2C :: rest => readMembers? steps found rest
      | 0x7D :: rest => some (found.join, rest)
      | _ => none := by
  have next : skipSpace (m.bytesBefore rest) = 0x22 :: (m.name.inner.flatMap Piece.bytes ++ 0x22 ::
      (m.name.after.bytes ++ 0x3A :: (m.value.before.bytes ++ (m.value.inner.bytes ++
        (m.value.after.bytes ++ rest))))) :=
    m.name.before.skipSpace_quoted _ _
  have fewer : (m.value.before.bytes ++ (m.value.inner.bytes ++ (m.value.after.bytes ++ rest))).length ≤ steps := by
    simp only [Member.bytesBefore, List.length_append, List.length_cons] at enough ⊢
    omega
  have read := readMember?_bytes m found (m.value.after.ends_append ends) fewer
  rw [readMembers?, next]
  simp only [read]
  cases adds? found m with
  | none => rfl
  | some found =>
    show (match skipSpace (m.value.after.bytes ++ rest) with
      | 0x2C :: rest => readMembers? steps found rest
      | 0x7D :: rest => some (found.join, rest)
      | _ => none) = _
    rw [m.value.after.skipSpace_append, Option.bind_some]

/-- Members are read one after the other. Every one of them takes at least one byte, so the steps do not run
out before them. -/
theorem readMembers?_members (m : Member Tree) (members : List (Member Tree)) (tail : Bytes)
    (found : Option (Option String)) {steps : Nat}
    (enough : (m.bytesBefore (memberBytes members ++ 0x7D :: tail)).length ≤ steps) :
    readMembers? steps found (m.bytesBefore (memberBytes members ++ 0x7D :: tail)) =
      ((m :: members).foldlM adds? found).map fun found => (found.join, tail) := by
  induction members generalizing m found steps with
  | nil =>
    obtain ⟨steps, rfl⟩ :=
      Nat.exists_eq_succ_of_ne_zero (Nat.ne_of_gt (Nat.lt_of_lt_of_le (m.bytesBefore_pos _) enough))
    rw [readMembers?_step m found (ends_members [] tail) enough, List.foldlM_cons]
    cases adds? found m <;> rfl
  | cons m' members ih =>
    obtain ⟨steps, rfl⟩ :=
      Nat.exists_eq_succ_of_ne_zero (Nat.ne_of_gt (Nat.lt_of_lt_of_le (m.bytesBefore_pos _) enough))
    rw [readMembers?_step m found (ends_members (m' :: members) tail) enough, List.foldlM_cons]
    rw [memberBytes_cons, List.cons_append, m'.bytesBefore_append] at enough ⊢
    have fewer : (m'.bytesBefore (memberBytes members ++ 0x7D :: tail)).length ≤ steps := by
      rw [Member.bytesBefore] at enough
      simp only [List.length_append, List.length_cons] at enough
      omega
    cases adds? found m with
    | none => rfl
    | some found => exact ih m' found fewer

/-! ### Bodies -/

/-- What a whole body asks for. -/
def ofTree? : Tree → Option Draft
  | .object _ members => (members.foldlM adds? none).map fun found => ⟨found.join⟩
  | .list _ [item] => item.inner.draft?
  | _ => none

theorem readObject?_members (gap : Gap) (members : List (Member Tree)) (tail : Bytes) :
    readObject? (gap.bytes ++ ((memberBytes members).drop 1 ++ 0x7D :: tail)) =
      (members.foldlM adds? none).map fun found => (found.join, tail) := by
  cases members with
  | nil =>
    have closed : skipSpace (gap.bytes ++ 0x7D :: tail) = 0x7D :: tail := gap.skipSpace_cons (by decide) tail
    simp only [memberBytes, List.drop_nil, List.nil_append, readObject?, closed]
    rfl
  | cons m members =>
    -- The white space before the name is gone when the members are read.
    let first : Member Tree := { m with name := { m.name with before := .none } }
    have next : skipSpace (gap.bytes ++ ((memberBytes (m :: members)).drop 1 ++ 0x7D :: tail)) =
        first.bytesBefore (memberBytes members ++ 0x7D :: tail) := by
      rw [memberBytes_cons, List.drop_succ_cons, List.drop_zero, m.bytesBefore_append, gap.skipSpace_append,
        Member.bytesBefore, m.name.before.skipSpace_quoted]
      exact (Gap.none.skipSpace_quoted _ _).symm
    have read := readMembers?_members first members tail none (Nat.le_refl _)
    rw [readObject?, next]
    exact read

theorem readText?_gap (gap : Gap) (rest : Bytes) : readText? (gap.bytes ++ rest) = readText? rest := by
  simp only [readText?, gap.skipSpace_append]

theorem readArray?_items (gap : Gap) (items : List (Spaced Tree)) (tail : Bytes) :
    readArray? (gap.bytes ++ ((itemBytes items).drop 1 ++ 0x5D :: tail)) =
      match items with
      | [item] => item.inner.draft?.map fun draft => (draft.text?, tail)
      | _ => none := by
  rw [readArray?, readText?_gap]
  rcases items with _ | ⟨⟨before, t, after⟩, _ | ⟨item, items⟩⟩
  · rfl
  · have closed : skipSpace (after.bytes ++ 0x5D :: tail) = 0x5D :: tail := after.skipSpace_cons (by decide) tail
    simp only [itemBytes, List.drop_succ_cons, List.drop_zero, List.append_assoc, List.nil_append, readText?_tree]
    cases t.draft? with
    | none => rfl
    | some draft => simp only [Option.map_some, closed]
  · have comma (rest : Bytes) : skipSpace (after.bytes ++ 0x2C :: rest) = 0x2C :: rest :=
      after.skipSpace_cons (by decide) rest
    obtain ⟨more, he⟩ : ∃ more, itemBytes (item :: items) = 0x2C :: more := ⟨_, itemBytes.eq_2 ..⟩
    rw [itemBytes, he]
    simp only [List.drop_succ_cons, List.drop_zero, List.append_assoc, List.cons_append, readText?_tree]
    cases t.draft? with
    | none => rfl
    | some draft =>
      simp only [Option.map_some, comma]
      rfl

/-- A body is decoded by what it asks for, and nothing but white space may follow it. -/
theorem decode?_tree (before : Gap) (t : Tree) (tail : Bytes) :
    decode? (before.bytes ++ (t.bytes ++ tail)) = if atEnd tail then ofTree? t else none := by
  have next : skipSpace (before.bytes ++ (t.bytes ++ tail)) = t.bytes ++ tail := by
    rw [before.skipSpace_append, t.skipSpace_bytes]
  have scalar (h : t.IsScalar) (refused : ofTree? t = none) :
      decode? (before.bytes ++ (t.bytes ++ tail)) = if atEnd tail then ofTree? t else none := by
    obtain ⟨b, more, e, -, list, -, object⟩ := Tree.head_scalar h
    rw [refused, ite_self, decode?, next, e, List.cons_append]
    split
    · next read =>
      split at read
      · next h => exact absurd (List.cons.inj h).1 object
      · next h => exact absurd (List.cons.inj h).1 list
      · cases read
    · rfl
  cases t with
  | null | bool | number | string => exact scalar trivial rfl
  | list gap items =>
    have read := readArray?_items gap items tail
    rw [decode?, next, Tree.bytes, List.cons_append, List.append_assoc, List.append_assoc]
    simp only [List.cons_append, List.nil_append, read]
    rcases items with _ | ⟨item, _ | ⟨item', items⟩⟩
    · simp [ofTree?]
    · rw [ofTree?]
      cases hd : item.inner.draft? <;> simp [hd]
    · simp [ofTree?]
  | object gap members =>
    have read := readObject?_members gap members tail
    rw [decode?, next, Tree.bytes, List.cons_append, List.append_assoc, List.append_assoc]
    simp only [List.cons_append, List.nil_append, read]
    rw [ofTree?]
    cases members.foldlM adds? none with
    | none => simp
    | some found => simp

/-! ### The members that count -/

/-- Whether a member gives the text. -/
def givesText (m : Member Tree) : Bool :=
  m.name? = some "text"

theorem adds?_of_not_givesText {m : Member Tree} (named : m.name?.isSome = true) (other : givesText m = false)
    (found : Option (Option String)) : adds? found m = some found := by
  obtain ⟨name, hn⟩ := Option.isSome_iff_exists.mp named
  have apart : name ≠ "text" := by simpa [givesText, hn] using other
  simp [adds?, hn, apart]

theorem adds?_of_givesText {m : Member Tree} (text : givesText m = true) (found : Option (Option String)) :
    adds? found m = if found.isSome then none else m.draft?.map fun draft => some draft.text? := by
  have name : m.name? = some "text" := by simpa [givesText] using text
  simp [adds?, name]

/-- After a member that gives the text there must be no other one. -/
theorem foldlM_adds?_some {members : List (Member Tree)} (named : ∀ m ∈ members, m.name?.isSome = true)
    (text : Option String) : members.foldlM adds? (some text) =
      if members.filter givesText = [] then some (some text) else none := by
  induction members with
  | nil => rfl
  | cons m members ih =>
    obtain ⟨first, others⟩ := List.forall_mem_cons.mp named
    rw [List.foldlM_cons]
    cases gives : givesText m with
    | true =>
      rw [adds?_of_givesText gives]
      simp [gives]
    | false =>
      rw [adds?_of_not_givesText first gives, List.filter_cons_of_neg (by simp [gives])]
      exact ih others

theorem foldlM_adds?_none {members : List (Member Tree)} (named : ∀ m ∈ members, m.name?.isSome = true) :
    members.foldlM adds? none =
      match members.filter givesText with
      | [] => some none
      | [m] => m.draft?.map fun draft => some draft.text?
      | _ => none := by
  induction members with
  | nil => rfl
  | cons m members ih =>
    obtain ⟨first, others⟩ := List.forall_mem_cons.mp named
    rw [List.foldlM_cons]
    cases gives : givesText m with
    | true =>
      rw [adds?_of_givesText gives, List.filter_cons_of_pos gives]
      cases hd : m.draft? with
      | none => cases members.filter givesText <;> simp [hd]
      | some draft =>
        show members.foldlM adds? (some draft.text?) = _
        rw [foldlM_adds?_some others]
        cases members.filter givesText <;> simp [hd]
    | false =>
      rw [adds?_of_not_givesText first gives, List.filter_cons_of_neg (by simp [gives])]
      exact ih others

theorem ofTree?_object (gap : Gap) {members : List (Member Tree)} (named : ∀ m ∈ members, m.name?.isSome = true) :
    ofTree? (.object gap members) =
      match members.filter givesText with
      | [] => some ⟨none⟩
      | [m] => m.draft?
      | _ => none := by
  rw [ofTree?, foldlM_adds?_none named]
  rcases members.filter givesText with _ | ⟨m, _ | ⟨m', others⟩⟩
  · rfl
  · cases hd : m.draft? <;> simp [hd]
  · rfl

theorem foldlM_adds?_unnamed {members : List (Member Tree)} (unnamed : ∃ m ∈ members, m.name? = none)
    (found : Option (Option String)) : members.foldlM adds? found = none := by
  induction members generalizing found with
  | nil => simp at unnamed
  | cons m members ih =>
    rw [List.foldlM_cons]
    cases hm : m.name? with
    | none => simp [adds?, hm]
    | some name =>
      obtain ⟨m', hm', nameless⟩ := unnamed
      rcases List.mem_cons.mp hm' with rfl | later
      · rw [hm] at nameless
        cases nameless
      cases adds? found m with
      | none => rfl
      | some found => exact ih ⟨m', later, nameless⟩ found

/-- How bodies are decoded, whatever white space stands around their tokens and however their strings and numbers
are written. An object asks for what its one member `text` asks for, or for nothing if it has none, and is refused
if there are several; other members do not matter, but the names of all must be strings. A list of one item asks for
what the item asks for. All other values are refused, and so is every text with something but white space behind
it. The body that is written for a text is decoded as this text. -/
theorem drafts_of_texts (before after : Gap) :
    let decoded (t : Tree) := decode? (before.bytes ++ (t.bytes ++ after.bytes))
    (∀ gap members, (∀ m ∈ members, m.name?.isSome = true) →
      let given := members.filter fun m => m.name? = some "text"
      (given = [] → decoded (.object gap members) = some ⟨none⟩) ∧
        (∀ m, given = [m] → decoded (.object gap members) = m.value.inner.draft?) ∧
        (2 ≤ given.length → decoded (.object gap members) = none)) ∧
      (∀ gap members, (∃ m ∈ members, m.name? = none) → decoded (.object gap members) = none) ∧
      (∀ gap item, decoded (.list gap [item]) = item.inner.draft?) ∧
      (∀ gap items, items.length ≠ 1 → decoded (.list gap items) = none) ∧
      (∀ t, t.IsScalar → decoded t = none) ∧
      (∀ (t : Tree) b junk, isSpace b = false →
        decode? (before.bytes ++ (t.bytes ++ (after.bytes ++ b :: junk))) = none) ∧
      ∀ text, decode? (Text.utf8 (Json.object [("text", .string text)]).text) = some ⟨some text⟩ := by
  intro decoded
  have ended : atEnd after.bytes = true := by
    have all := after.skipSpace_append []
    rw [List.append_nil] at all
    rw [atEnd, all]
    rfl
  have whole (t : Tree) : decoded t = ofTree? t := by
    show decode? (before.bytes ++ (t.bytes ++ after.bytes)) = _
    rw [decode?_tree, if_pos ended]
  refine ⟨fun gap members named => ?_, fun gap members unnamed => ?_, fun gap item => whole _,
    fun gap items other => ?_, fun t scalar => ?_, fun t b junk text => ?_, decode?_writeBody⟩
  · have gathered := (whole _).trans (ofTree?_object gap named)
    intro given
    rw [show members.filter givesText = given from rfl] at gathered
    clear_value given
    refine ⟨fun absent => ?_, fun m one => ?_, fun several => ?_⟩
    · rwa [absent] at gathered
    · rwa [one] at gathered
    · rcases given with _ | ⟨m, _ | ⟨m', others⟩⟩
      · exact absurd several (by decide)
      · exact absurd several (Nat.not_succ_le_self 1)
      · exact gathered
  · rw [whole, ofTree?, foldlM_adds?_unnamed unnamed]
    rfl
  · rw [whole]
    rcases items with _ | ⟨item, _ | ⟨item', items⟩⟩
    · rfl
    · exact absurd rfl other
    · rfl
  · rw [whole]
    cases t with
    | list gap items => exact scalar.elim
    | object gap members => exact scalar.elim
    | null | bool | number | string => rfl
  · have more : atEnd (after.bytes ++ b :: junk) = false := by
      rw [atEnd, after.skipSpace_cons text]
      rfl
    rw [decode?_tree, more]
    rfl

example : decode? (Text.utf8 "\x7b\"n\": [-1.5e3], \"text\": \"\\ud83d\\ude00\"\x7d") = some ⟨some "😀"⟩ := by
  decide +kernel

end Draft

end PeerPost
