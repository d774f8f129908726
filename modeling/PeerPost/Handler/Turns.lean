import PeerPost.Message

/-!
# Turns of writers

Writers that are started together have the turn of their group one after the other, in the order in
which they asked for it; writers to different groups need not wait for each other. Turns are granted in
stretches. While a stretch lasts, whoever asks for a free group has its turn at once. When it is used up,
every free group still goes to the first that asks for it, but those are put off, and the next stretch
begins with the one that was put off last. A turn that ends goes to the next in line for the group, who
is called after all that were called before.
-/

namespace PeerPost.Turns

variable {α : Type}

/-- The number of turns in a stretch. -/
def stretch : Nat := 128

/-- A crowd is more writers than this. A crowd is called as turns become free; fewer are asked again in
the order in which they were started. -/
def few : Nat := 30

/-- The turns that are left in the stretch after one more is granted. -/
def grant (left : Nat) : Nat :=
  if left = 0 then stretch - 1 else left - 1

/-- The writers in lines by their group. The lines stand in the order of their first writers. -/
def lines {κ : Type} [BEq κ] (group : α → κ) (writers : List α) : List (List α) :=
  (writers.map group).eraseDups.map fun g => writers.filter fun w => group w == g

/-- The number of lines and of the writers in them. -/
def extent : List (List α) → Nat
  | [] => 0
  | line :: rest => line.length + 1 + extent rest

theorem extent_nil : extent ([] : List (List α)) = 0 := rfl

theorem extent_cons (line : List α) (rest : List (List α)) :
    extent (line :: rest) = line.length + 1 + extent rest := rfl

theorem extent_append (xs ys : List (List α)) : extent (xs ++ ys) = extent xs + extent ys := by
  induction xs with
  | nil => rw [List.nil_append, extent_nil, Nat.zero_add]
  | cons line rest ih =>
    rw [List.cons_append, extent_cons, extent_cons, ih]
    omega

theorem extent_reverse (xs : List (List α)) : extent xs.reverse = extent xs := by
  induction xs with
  | nil => rfl
  | cons x xs ih =>
    rw [List.reverse_cons, extent_append, ih, extent_cons, extent_cons, extent_nil]
    omega

/-- The lines in the order in which they are called: from the last when a stretch begins. -/
def facing (left : Nat) (waiting : List (List α)) : List (List α) :=
  if left = 0 then waiting.reverse else waiting

theorem extent_facing (left : Nat) (waiting : List (List α)) : extent (facing left waiting) = extent waiting := by
  unfold facing
  split
  · exact extent_reverse waiting
  · rfl

/-- The writers in the order in which they are called from their lines. A line whose first writer was
called goes behind the others. -/
def called (left : Nat) (waiting : List (List α)) : List α :=
  match _h : facing left waiting with
  | [] => []
  | [] :: rest => called (if left = 0 then stretch else left) rest
  | (w :: line) :: rest => w :: called (grant left) (rest ++ [line])
termination_by extent waiting
decreasing_by
  · rw [← extent_facing left waiting, _h, extent_cons]
    omega
  · rw [← extent_facing left waiting, _h, extent_cons, extent_append, extent_cons, extent_nil, List.length_cons]
    omega

theorem facing_perm (left : Nat) (waiting : List (List α)) : (facing left waiting).Perm waiting := by
  unfold facing
  split
  · exact List.reverse_perm waiting
  · exact .refl waiting

/-- Everyone who waits is called once. -/
theorem called_perm (left : Nat) (waiting : List (List α)) : (called left waiting).Perm waiting.flatten := by
  fun_induction called left waiting with
  | case1 left waiting h =>
    have hp := (facing_perm left waiting).flatten
    rw [h] at hp
    exact hp
  | case2 left waiting rest h ih =>
    have hp := (facing_perm left waiting).flatten
    rw [h] at hp
    exact ih.trans hp
  | case3 left waiting w line rest h ih =>
    have hp := (facing_perm left waiting).flatten
    rw [h, List.flatten_cons, List.cons_append] at hp
    rw [List.flatten_append, List.flatten_singleton] at ih
    exact ((ih.trans List.perm_append_comm).cons w).trans hp

/-- The order in which writers that are started together are served, with the turns that are left in the
stretch. Writers without a group ask for no turn. -/
def order {κ : Type} [BEq κ] (left : Nat) (group? : α → Option κ) (writers : List α) : List α :=
  if writers.length ≤ few then
    writers
  else
    let (asking, others) := writers.partition fun w => (group? w).isSome
    others ++ asking.take left ++ called 0 (lines group? (asking.drop left))

end PeerPost.Turns
