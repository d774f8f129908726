/-!
# Lists of named values

Values under names, in an order. A name keeps the place where it was first put, and a later value takes
the place of an earlier one.
-/

namespace PeerPost.Entries

variable {κ α : Type} [DecidableEq κ]

/-- Puts a value under a name. -/
def put (name : κ) (value : α) : List (κ × α) → List (κ × α)
  | [] => [(name, value)]
  | (n, v) :: rest => if n = name then (n, value) :: rest else (n, v) :: put name value rest

def get? (entries : List (κ × α)) (name : κ) : Option α :=
  (entries.find? fun e => e.1 = name).map Prod.snd

/-- After a value is put under a name, that value stands under it and every other name has what it had. -/
theorem get?_put (name : κ) (value : α) (entries : List (κ × α)) (other : κ) :
    get? (put name value entries) other = if other = name then some value else get? entries other := by
  unfold get?
  induction entries with
  | nil =>
    by_cases h : other = name
    · simp [put, h]
    · simp [put, h, Ne.symm h]
  | cons e rest ih =>
    obtain ⟨n, v⟩ := e
    rw [put]
    split
    · next hn =>
      subst hn
      by_cases h : other = n
      · simp [h]
      · simp [h, Ne.symm h]
    · next hn =>
      rw [List.find?_cons, List.find?_cons]
      by_cases h : n = other
      · simp [h, show other ≠ name from h ▸ hn]
      · simp only [h, decide_false]
        exact ih

end PeerPost.Entries
