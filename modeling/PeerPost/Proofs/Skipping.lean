import PeerPost.Proofs.Scanning

/-! # Skipping values

The scanner goes over values of any depth, whatever brackets are open around them. Each of its steps takes at
least one byte, so the steps do not run out before the value. -/

namespace PeerPost.Json.Grammar

open Scanner

/-! ### What values begin with -/

theorem Numeral.head_bytes (n : Numeral) : ∃ b more, n.bytes = b :: more ∧ (b = 0x2D ∨ ∃ d, b = digitByte d) := by
  rw [bytes]
  cases n.negative with
  | true => exact ⟨_, _, rfl, Or.inl rfl⟩
  | false => exact ⟨_, _, rfl, Or.inr ⟨_, rfl⟩⟩

theorem digitByte_apart (d : Fin 10) : isSpace (digitByte d) = false ∧ digitByte d ≠ 0x5B ∧ digitByte d ≠ 0x5D ∧
    digitByte d ≠ 0x7B ∧ digitByte d ≠ 0x6E ∧ digitByte d ≠ 0x22 := by
  revert d
  decide

/-- The text of a scalar begins with neither white space nor a bracket. -/
theorem Tree.head_scalar {t : Tree} (h : t.IsScalar) :
    ∃ b more, t.bytes = b :: more ∧ isSpace b = false ∧ b ≠ 0x5B ∧ b ≠ 0x5D ∧ b ≠ 0x7B := by
  cases t with
  | null => exact ⟨_, _, by rw [Tree.bytes], by decide⟩
  | bool value => cases value <;> exact ⟨_, _, by rw [Tree.bytes], by decide⟩
  | string pieces => exact ⟨_, _, by rw [Tree.bytes, quoted], by decide⟩
  | list gap items => exact h.elim
  | object gap members => exact h.elim
  | number n =>
    obtain ⟨b, more, e, head⟩ := n.head_bytes
    refine ⟨b, more, by rw [Tree.bytes, e], ?_⟩
    rcases head with rfl | ⟨d, rfl⟩
    · decide
    · obtain ⟨text, list, close, object, -⟩ := digitByte_apart d
      exact ⟨text, list, close, object⟩

/-- The text of a value begins with neither white space nor the closing bracket of a list. -/
theorem Tree.head_bytes (t : Tree) : ∃ b more, t.bytes = b :: more ∧ isSpace b = false ∧ b ≠ 0x5D := by
  have scalar (h : t.IsScalar) : ∃ b more, t.bytes = b :: more ∧ isSpace b = false ∧ b ≠ 0x5D := by
    obtain ⟨b, more, e, text, -, close, -⟩ := Tree.head_scalar h
    exact ⟨b, more, e, text, close⟩
  cases t with
  | list gap items => exact ⟨_, _, by rw [Tree.bytes], by decide⟩
  | object gap members => exact ⟨_, _, by rw [Tree.bytes], by decide⟩
  | null | bool | number | string => exact scalar trivial

theorem Tree.skipSpace_bytes (t : Tree) (rest : Bytes) : skipSpace (t.bytes ++ rest) = t.bytes ++ rest := by
  obtain ⟨b, more, e, text, -⟩ := t.head_bytes
  rw [e]
  exact skipSpace_cons text _

theorem Tree.skipScalar?_bytes {t : Tree} (h : t.IsScalar) {rest : Bytes} (ends : Ends rest) :
    skipScalar? (t.bytes ++ rest) = some rest := by
  cases t with
  | null =>
    rw [Tree.bytes]
    rfl
  | bool value =>
    cases value <;>
      · rw [Tree.bytes]
        rfl
  | number n =>
    rw [Tree.bytes]
    exact n.skipScalar?_bytes ends
  | string pieces =>
    rw [Tree.bytes, quoted, List.cons_append, List.append_assoc]
    exact skipString?_pieces pieces rest
  | list gap items => exact h.elim
  | object gap members => exact h.elim

/-! ### Steps of the scanner -/

/-- Where the scanner stands. -/
structure Place where
  open_ : List Bracket
  expecting : Expecting
  input : Bytes

/-- The scanner gets from a place to another one with no more steps than it takes bytes. -/
def Passes (p q : Place) : Prop :=
  ∃ n, n + q.input.length ≤ p.input.length ∧
    ∀ steps, skipSteps? (n + steps) p.open_ p.expecting p.input = skipSteps? steps q.open_ q.expecting q.input

namespace Passes

theorem trans {p q r : Place} (h : Passes p q) (h' : Passes q r) : Passes p r := by
  obtain ⟨n, bound, passed⟩ := h
  obtain ⟨m, bound', passed'⟩ := h'
  refine ⟨n + m, by omega, fun steps => ?_⟩
  rw [Nat.add_assoc, passed, passed']

/-- A step from behind white space. Only where a whole value is complete the scanner takes no step. -/
theorem of_step {open_ open' : List Bracket} {expecting expecting' : Expecting} {input rest : Bytes} (gap : Gap)
    (step : skipStep? open_ expecting input = some (open', expecting', rest)) (shorter : rest.length < input.length)
    (busy : open_ ≠ [] ∨ expecting = .value) :
    Passes ⟨open_, expecting, gap.bytes ++ input⟩ ⟨open', expecting', rest⟩ := by
  have stepped : skipStep? open_ expecting (gap.bytes ++ input) = some (open', expecting', rest) := by
    rw [← step]
    simp only [skipStep?, gap.skipSpace_append]
  refine ⟨1, ?_, fun steps => ?_⟩
  · rw [Nat.one_add, List.length_append]
    exact Nat.le_add_left_of_le shorter
  · show skipSteps? (1 + steps) open_ expecting (gap.bytes ++ input) = skipSteps? steps open' expecting' rest
    rw [Nat.add_comm, skipSteps?, stepped]
    rintro rfl rfl
    rcases busy with inside | value
    · exact inside rfl
    · cases value

/-- What the scanner passes as a whole it skips, with as many steps as there are bytes. -/
theorem skipValue? {input rest : Bytes} (h : Passes ⟨[], .value, input⟩ ⟨[], .continuation, rest⟩) {steps : Nat}
    (enough : input.length ≤ steps) : skipValue? steps input = some rest := by
  obtain ⟨n, bound, passed⟩ := h
  have within : n ≤ steps := Nat.le_trans (Nat.le_of_add_right_le bound) enough
  obtain ⟨more, rfl⟩ : ∃ more, steps = n + more := ⟨steps - n, (Nat.add_sub_cancel' within).symm⟩
  rw [Scanner.skipValue?, passed]
  cases more <;> rfl

/-! ### Brackets and commas -/

variable {input more rest : Bytes}

/-- An opening bracket with its closing bracket behind it. -/
theorem empty_list (gap : Gap) (open_ : List Bracket) (next : skipSpace input = 0x5D :: rest)
    (shorter : rest.length ≤ input.length) :
    Passes ⟨open_, .value, gap.bytes ++ 0x5B :: input⟩ ⟨open_, .continuation, rest⟩ := by
  have opened : skipSpace (0x5B :: input) = 0x5B :: input := rfl
  exact of_step gap (by simp only [skipStep?, opened, next]) (Nat.lt_succ_of_le shorter) (Or.inr rfl)

theorem empty_object (gap : Gap) (open_ : List Bracket) (next : skipSpace input = 0x7D :: rest)
    (shorter : rest.length ≤ input.length) :
    Passes ⟨open_, .value, gap.bytes ++ 0x7B :: input⟩ ⟨open_, .continuation, rest⟩ := by
  have opened : skipSpace (0x7B :: input) = 0x7B :: input := rfl
  exact of_step gap (by simp only [skipStep?, opened, next]) (Nat.lt_succ_of_le shorter) (Or.inr rfl)

/-- An opening bracket before an item. -/
theorem first_item {b : UInt8} (gap : Gap) (open_ : List Bracket) (next : skipSpace input = b :: more) (item : b ≠ 0x5D)
    (shorter : (b :: more).length ≤ input.length) :
    Passes ⟨open_, .value, gap.bytes ++ 0x5B :: input⟩ ⟨.list :: open_, .value, b :: more⟩ := by
  have opened : skipSpace (0x5B :: input) = 0x5B :: input := rfl
  refine of_step gap ?_ (Nat.lt_succ_of_le shorter) (Or.inr rfl)
  simp only [skipStep?, opened, next]
  split
  · next h =>
    cases h
    exact absurd rfl item
  · rfl

theorem first_member (gap : Gap) (open_ : List Bracket) (next : skipSpace input = 0x22 :: more)
    (named : skipName? (0x22 :: more) = some rest) (shorter : rest.length ≤ input.length) :
    Passes ⟨open_, .value, gap.bytes ++ 0x7B :: input⟩ ⟨.object :: open_, .value, rest⟩ := by
  have opened : skipSpace (0x7B :: input) = 0x7B :: input := rfl
  refine of_step gap ?_ (Nat.lt_succ_of_le shorter) (Or.inr rfl)
  simp only [skipStep?, opened, next]
  exact congrArg (Option.map _) named

theorem next_item (gap : Gap) (open_ : List Bracket) (rest : Bytes) :
    Passes ⟨.list :: open_, .continuation, gap.bytes ++ 0x2C :: rest⟩ ⟨.list :: open_, .value, rest⟩ :=
  of_step gap rfl (Nat.lt_succ_self _) (Or.inl (List.cons_ne_nil _ _))

theorem next_member (gap : Gap) (open_ : List Bracket) (named : skipName? input = some rest)
    (shorter : rest.length ≤ input.length) :
    Passes ⟨.object :: open_, .continuation, gap.bytes ++ 0x2C :: input⟩ ⟨.object :: open_, .value, rest⟩ := by
  have comma : skipSpace (0x2C :: input) = 0x2C :: input := rfl
  refine of_step gap ?_ (Nat.lt_succ_of_le shorter) (Or.inl (List.cons_ne_nil _ _))
  simp only [skipStep?, comma, named, Option.map_some]

theorem end_list (gap : Gap) (open_ : List Bracket) (rest : Bytes) :
    Passes ⟨.list :: open_, .continuation, gap.bytes ++ 0x5D :: rest⟩ ⟨open_, .continuation, rest⟩ :=
  of_step gap rfl (Nat.lt_succ_self _) (Or.inl (List.cons_ne_nil _ _))

theorem end_object (gap : Gap) (open_ : List Bracket) (rest : Bytes) :
    Passes ⟨.object :: open_, .continuation, gap.bytes ++ 0x7D :: rest⟩ ⟨open_, .continuation, rest⟩ :=
  of_step gap rfl (Nat.lt_succ_self _) (Or.inl (List.cons_ne_nil _ _))

end Passes

/-! ### Values -/

theorem skipName?_bytes (b a : Gap) (name : List Piece) (rest : Bytes) :
    skipName? (b.bytes ++ (quoted name ++ (a.bytes ++ 0x3A :: rest))) = some rest := by
  have colon : skipSpace (a.bytes ++ 0x3A :: rest) = 0x3A :: rest := a.skipSpace_cons (by decide) rest
  simp only [skipName?, b.skipSpace_quoted, skipString?_pieces, colon]

theorem ends_cons {b : UInt8} (h : b = 0x2C ∨ b = 0x5D ∨ b = 0x7D) (rest : Bytes) : Ends (b :: rest) := by
  rintro _ ⟨⟩
  rcases h with rfl | rfl | rfl <;> decide

theorem Gap.ends_append (gap : Gap) {rest : Bytes} (h : Ends rest) : Ends (gap.bytes ++ rest) := by
  intro b hb
  cases hg : gap.bytes with
  | nil =>
    rw [hg] at hb
    exact h b hb
  | cons c more =>
    rw [hg] at hb
    cases hb
    rcases gap.blank b (hg ▸ List.mem_cons_self) with rfl | rfl | rfl | rfl <;> decide

theorem ends_items (items : List (Spaced Tree)) (tail : Bytes) : Ends (itemBytes items ++ 0x5D :: tail) := by
  cases items with
  | nil => exact ends_cons (by decide) _
  | cons item items => exact ends_cons (by decide) _

theorem ends_members (members : List (Member Tree)) (tail : Bytes) : Ends (memberBytes members ++ 0x7D :: tail) := by
  cases members with
  | nil => exact ends_cons (by decide) _
  | cons member members => exact ends_cons (by decide) _

theorem passes_scalar {t : Tree} (h : t.IsScalar) (gap : Gap) (open_ : List Bracket) {rest : Bytes} (ends : Ends rest) :
    Passes ⟨open_, .value, gap.bytes ++ (t.bytes ++ rest)⟩ ⟨open_, .continuation, rest⟩ := by
  have skipped := Tree.skipScalar?_bytes h ends
  obtain ⟨b, more, e, text, list, -, object⟩ := Tree.head_scalar h
  rw [e] at skipped ⊢
  have next : skipSpace (b :: more ++ rest) = b :: (more ++ rest) := skipSpace_cons text _
  refine .of_step gap ?_ (by simp only [List.length_append, List.length_cons]; omega) (Or.inr rfl)
  unfold skipStep?
  split
  · next h =>
    cases next.symm.trans h
    exact absurd rfl list
  · next h =>
    cases next.symm.trans h
    exact absurd rfl object
  · rw [next]
    exact congrArg (Option.map _) skipped
  all_goals trivial

mutual

/-- The scanner goes over a value of any depth. -/
theorem passes_tree (t : Tree) (gap : Gap) (open_ : List Bracket) {rest : Bytes} (ends : Ends rest) :
    Passes ⟨open_, .value, gap.bytes ++ (t.bytes ++ rest)⟩ ⟨open_, .continuation, rest⟩ := by
  match t with
  | .null | .bool _ | .number _ | .string _ => exact passes_scalar (by trivial) gap open_ ends
  | .list inner [] =>
    simp only [Tree.bytes, itemBytes, List.drop_nil, List.nil_append, List.cons_append, List.append_assoc]
    refine .empty_list gap open_ (inner.skipSpace_append _) ?_
    simp only [List.length_append, List.length_cons]
    omega
  | .list inner (⟨before, t, after⟩ :: items) =>
    have first := passes_tree t .none (.list :: open_) (after.ends_append (ends_items items rest))
    have others := passes_items items after open_ rest
    obtain ⟨b, more, e, text, item⟩ := t.head_bytes
    simp only [Tree.bytes, itemBytes, List.drop_succ_cons, List.drop_zero, List.cons_append, List.append_assoc,
      List.nil_append, e] at first ⊢
    refine (Passes.first_item gap open_ ?_ item ?_).trans (first.trans others)
    · rw [inner.skipSpace_append, before.skipSpace_append, skipSpace_cons text]
    · simp only [List.length_append, List.length_cons]
      omega
  | .object inner [] =>
    simp only [Tree.bytes, memberBytes, List.drop_nil, List.nil_append, List.cons_append, List.append_assoc]
    refine .empty_object gap open_ (inner.skipSpace_append _) ?_
    simp only [List.length_append, List.length_cons]
    omega
  | .object inner (⟨⟨b, name, a⟩, ⟨before, t, after⟩⟩ :: members) =>
    have first := passes_tree t before (.object :: open_) (after.ends_append (ends_members members rest))
    have others := passes_members members after open_ rest
    have named := skipName?_bytes .none a name (before.bytes ++ (t.bytes ++ (after.bytes ++
      (memberBytes members ++ 0x7D :: rest))))
    simp only [Tree.bytes, memberBytes, List.drop_succ_cons, List.drop_zero, List.cons_append, List.append_assoc,
      List.nil_append, quoted] at named ⊢
    refine (Passes.first_member gap open_ ?_ named ?_).trans (first.trans others)
    · rw [inner.skipSpace_append, b.skipSpace_append, skipSpace_cons (by decide)]
    · simp only [List.length_append, List.length_cons]
      omega

/-- The scanner goes over the items of a list and its closing bracket. -/
theorem passes_items (items : List (Spaced Tree)) (gap : Gap) (open_ : List Bracket) (tail : Bytes) :
    Passes ⟨.list :: open_, .continuation, gap.bytes ++ (itemBytes items ++ 0x5D :: tail)⟩
      ⟨open_, .continuation, tail⟩ := by
  match items with
  | [] => exact .end_list gap open_ tail
  | ⟨before, t, after⟩ :: items =>
    have first := passes_tree t before (.list :: open_) (after.ends_append (ends_items items tail))
    have others := passes_items items after open_ tail
    simp only [itemBytes, List.cons_append, List.append_assoc]
    exact (Passes.next_item gap open_ _).trans (first.trans others)

/-- The scanner goes over the members of an object and its closing bracket. -/
theorem passes_members (members : List (Member Tree)) (gap : Gap) (open_ : List Bracket) (tail : Bytes) :
    Passes ⟨.object :: open_, .continuation, gap.bytes ++ (memberBytes members ++ 0x7D :: tail)⟩
      ⟨open_, .continuation, tail⟩ := by
  match members with
  | [] => exact .end_object gap open_ tail
  | ⟨⟨b, name, a⟩, ⟨before, t, after⟩⟩ :: members =>
    have first := passes_tree t before (.object :: open_) (after.ends_append (ends_members members tail))
    have others := passes_members members after open_ tail
    have named := skipName?_bytes b a name (before.bytes ++ (t.bytes ++ (after.bytes ++
      (memberBytes members ++ 0x7D :: tail))))
    simp only [memberBytes, List.cons_append, List.append_assoc]
    refine (Passes.next_member gap open_ named ?_).trans (first.trans others)
    simp only [List.length_append, List.length_cons]
    omega

end

/-- A value of any depth is skipped with as many steps as there are bytes. -/
theorem skipValue?_tree (t : Tree) (gap : Gap) {rest : Bytes} (ends : Ends rest) {steps : Nat}
    (enough : (gap.bytes ++ (t.bytes ++ rest)).length ≤ steps) :
    skipValue? steps (gap.bytes ++ (t.bytes ++ rest)) = some rest :=
  (passes_tree t gap [] ends).skipValue? enough

end PeerPost.Json.Grammar
