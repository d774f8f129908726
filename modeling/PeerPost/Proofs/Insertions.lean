import Mathlib.Data.List.Basic
import Mathlib.Data.List.Induction
import PeerPost.Proofs.Records

/-! # Records built by insertions

A record that is built by putting values under names, in any order and any number of times, is a map in the
order of insertion: each name stands once, where it was first put, with the value that was put last. What
the record answers and the text it is written as are told here from the pairs that were put. -/

namespace PeerPost

namespace Entries

variable {κ α : Type} [DecidableEq κ] {name : κ} {value : α} {entries : List (κ × α)}

/-! ### Names and values under them -/

theorem get?_eq_some_of_mem (distinct : (entries.map Prod.fst).Nodup) (mem : (name, value) ∈ entries) :
    get? entries name = some value := by
  induction entries with
  | nil => simp at mem
  | cons entry rest ih =>
    obtain ⟨fresh, distinct⟩ := List.nodup_cons.mp distinct
    rcases List.mem_cons.mp mem with rfl | mem
    · simp [get?]
    · have other : entry.1 ≠ name := fun same => fresh (same ▸ List.mem_map_of_mem mem)
      rw [← ih distinct mem, get?, List.find?_cons_of_neg (by simpa using other), get?]

theorem mem_names_iff : name ∈ entries.map Prod.fst ↔ (get? entries name).isSome = true := by
  simp [get?]

end Entries

/-! ### Insertions -/

/-- A value put under a name, or a value that may be missing. -/
inductive Insertion where
  | put (name : String) (value : Json)
  | putIfPresent (name : String) (value? : Option Json)

namespace Insertion

def apply (record : Record) : Insertion → Record
  | put name value => record.put name value
  | putIfPresent name value? => record.putIfPresent name value?

/-- The pair an insertion puts. The null value is put like any other. -/
def pair? : Insertion → Option (String × Json)
  | put name value => some (name, value)
  | putIfPresent name value? => value?.map fun value => (name, value)

end Insertion

/-- The record after insertions into the empty one. -/
def Record.built (insertions : List Insertion) : Record :=
  insertions.foldl Insertion.apply empty

namespace Record

variable {record : Record} {pairs : List (String × Json)}

/-! ### What a record answers -/

/-- The first pair under one name comes before every pair under the other. -/
def FirstBefore (pairs : List (String × Json)) (a b : String) : Prop :=
  (pairs.map Prod.fst).idxOf a < (pairs.map Prod.fst).idxOf b

/-- The pair is there, and no later one has its name. -/
def LastUnder (pairs : List (String × Json)) (name : String) (value : Json) : Prop :=
  ∃ before after, pairs = before ++ (name, value) :: after ∧ name ∉ after.map Prod.fst

/-- A record answers as a map that keeps each name at its first insertion and the value of its last one. -/
structure Keeps (record : Record) (pairs : List (String × Json)) : Prop where
  once : record.keys.Nodup
  names : ∀ name, name ∈ record.keys ↔ name ∈ pairs.map Prod.fst
  order : record.keys.Pairwise (FirstBefore pairs)
  last : ∀ name value, record.get? name = some value ↔ LastUnder pairs name value

theorem FirstBefore.concat {a b : String} (before : FirstBefore pairs a b) (ha : a ∈ pairs.map Prod.fst)
    (hb : b ∈ pairs.map Prod.fst) (pair : String × Json) : FirstBefore (pairs ++ [pair]) a b := by
  rwa [FirstBefore, List.map_append, List.idxOf_append_of_mem ha, List.idxOf_append_of_mem hb]

/-- A name that is put for the first time comes after all that were put before. -/
theorem firstBefore_new {a name : String} (ha : a ∈ pairs.map Prod.fst) (fresh : name ∉ pairs.map Prod.fst)
    (value : Json) : FirstBefore (pairs ++ [(name, value)]) a name := by
  rw [FirstBefore, List.map_append, List.idxOf_append_of_mem ha, List.idxOf_append_of_notMem fresh]
  exact Nat.lt_of_lt_of_le (List.idxOf_lt_length_of_mem ha) (Nat.le_add_right _ _)

theorem nodup_of_firstBefore {names : List String} (order : names.Pairwise (FirstBefore pairs)) : names.Nodup := by
  refine order.imp fun {a b} before => ?_
  rintro rfl
  exact Nat.lt_irrefl _ before

theorem lastUnder_concat_iff (name : String) (value : Json) (other : String) (found : Json) :
    LastUnder (pairs ++ [(name, value)]) other found ↔
      if other = name then value = found else LastUnder pairs other found := by
  constructor
  · rintro ⟨before, after, split, unseen⟩
    rcases List.eq_nil_or_concat after with rfl | ⟨init, final, rfl⟩
    · obtain ⟨-, last⟩ := List.append_inj' split rfl
      cases last
      simp
    · rw [List.concat_eq_append, ← List.cons_append, ← List.append_assoc] at split
      obtain ⟨rfl, last⟩ := List.append_inj' split rfl
      cases last
      obtain ⟨unseen, distinct⟩ : other ∉ init.map Prod.fst ∧ other ≠ name := by
        simpa [not_or] using unseen
      rw [if_neg distinct]
      exact ⟨before, init, rfl, unseen⟩
  · intro last
    by_cases same : other = name
    · rw [if_pos same] at last
      exact ⟨pairs, [], by rw [same, last], by simp⟩
    · rw [if_neg same] at last
      obtain ⟨before, after, rfl, unseen⟩ := last
      exact ⟨before, after ++ [(name, value)], by simp, by simpa [same] using unseen⟩

theorem mem_keys_put (record : Record) (name : String) (value : Json) (other : String) :
    other ∈ (record.put name value).keys ↔ other ∈ record.keys ∨ other = name := by
  rw [keys_put]
  split
  · next old => exact ⟨Or.inl, fun mem => mem.elim id fun same => same ▸ old⟩
  · simp

theorem keeps_empty : empty.Keeps [] where
  once := List.nodup_nil
  names := by simp [keys, empty]
  order := List.Pairwise.nil
  last := by simp [get?_empty, LastUnder]

theorem Keeps.order_put (kept : record.Keeps pairs) (name : String) (value : Json) :
    (record.put name value).keys.Pairwise (FirstBefore (pairs ++ [(name, value)])) := by
  have old : record.keys.Pairwise (FirstBefore (pairs ++ [(name, value)])) :=
    kept.order.imp_of_mem fun {a b} ha hb before =>
      before.concat ((kept.names a).mp ha) ((kept.names b).mp hb) (name, value)
  rw [keys_put]
  split
  · exact old
  · next fresh =>
    refine List.pairwise_append.mpr ⟨old, List.pairwise_singleton _ _, fun a ha b hb => ?_⟩
    rw [List.mem_singleton.mp hb]
    exact firstBefore_new ((kept.names a).mp ha) (fun mem => fresh ((kept.names name).mpr mem)) value

theorem Keeps.put (kept : record.Keeps pairs) (name : String) (value : Json) :
    (record.put name value).Keeps (pairs ++ [(name, value)]) where
  once := nodup_of_firstBefore (kept.order_put name value)
  names other := by
    rw [mem_keys_put, kept.names, List.map_append, List.mem_append, List.map_singleton, List.mem_singleton]
  order := kept.order_put name value
  last other found := by
    rw [get?_put, lastUnder_concat_iff]
    split
    · exact Option.some_inj
    · exact kept.last other found

theorem Keeps.apply (kept : record.Keeps pairs) (insertion : Insertion) :
    (insertion.apply record).Keeps (pairs ++ insertion.pair?.toList) := by
  cases insertion with
  | put name value => exact kept.put name value
  | putIfPresent name value? =>
    cases value? with
    | none => simpa [Insertion.apply, Insertion.pair?, putIfPresent] using kept
    | some value => exact kept.put name value

theorem keeps_built (insertions : List Insertion) :
    (built insertions).Keeps (insertions.filterMap Insertion.pair?) := by
  induction insertions using List.reverseRecOn with
  | nil => exact keeps_empty
  | append_singleton insertions insertion ih =>
    have pairs : [insertion].filterMap Insertion.pair? = insertion.pair?.toList := by
      cases pair : insertion.pair? <;> simp [pair]
    rw [built, List.foldl_append, List.filterMap_append, pairs]
    exact ih.apply insertion

/-! ### The text -/

theorem toList_text (record : Record) :
    record.text.toList = '{' :: (Json.separated (record.entries.map Json.memberText) ++ ['}']) := by
  rw [text, Json.text, String.toList_ofList, toJson, Json.chars_object]

/-- A record that is a value in another one is written there as it is written alone. -/
theorem toList_text_of_nested {inner outer : Record} {name : String} (found : outer.get? name = some inner.toJson) :
    ∃ before after : List (String × Json), outer.keys = before.map Prod.fst ++ name :: after.map Prod.fst ∧
      outer.text.toList = '{' :: (Json.separated (before.map Json.memberText ++
        (Json.quote name.toList ++ ':' :: inner.text.toList) :: after.map Json.memberText) ++ ['}']) := by
  obtain ⟨⟨key, value⟩, first, rfl⟩ := Option.map_eq_some_iff.mp found
  obtain rfl : key = name := by simpa using List.find?_some first
  obtain ⟨before, after, entries⟩ := List.append_of_mem (List.mem_of_find?_eq_some first)
  refine ⟨before, after, by rw [keys, entries, List.map_append, List.map_cons], ?_⟩
  rw [toList_text outer, entries, List.map_append, List.map_cons, Json.memberText_eq, text, Json.text,
    String.toList_ofList]

end Record

/-- Insertions in turn make a map in the order of first insertion. Its parts agree with its names, and its
text, alone or as a value of another record, has the names in their order with their last values. -/
theorem Record.built_in_order (insertions : List Insertion) :
    let record := built insertions
    let pairs := insertions.filterMap Insertion.pair?
    record.Keeps pairs ∧ (∀ name, record.get? name = none ↔ name ∉ pairs.map Prod.fst) ∧
      (∀ name, record.contains name = true ↔ name ∈ record.keys) ∧ record.size = record.keys.length ∧
      (record.isEmpty = true ↔ record.keys = []) ∧
      (∃ members : List (String × Json), members.map Prod.fst = record.keys ∧
        (∀ member ∈ members, record.get? member.1 = some member.2) ∧
        record.text.toList = '{' :: (Json.separated (members.map fun member =>
          Json.quote member.1.toList ++ ':' :: member.2.chars) ++ ['}'])) ∧
      ∀ (around : List Insertion) (name : String), (built around).get? name = some record.toJson →
        ∃ before after : List (String × Json),
          (built around).keys = before.map Prod.fst ++ name :: after.map Prod.fst ∧
          (built around).text.toList = '{' :: (Json.separated (before.map Json.memberText ++
            (Json.quote name.toList ++ ':' :: record.text.toList) :: after.map Json.memberText) ++ ['}']) := by
  intro record pairs
  have kept := keeps_built insertions
  refine ⟨kept, fun name => ?_, fun name => ?_, ?_, ?_, ⟨record.entries, rfl, fun member mem => ?_, ?_⟩,
    fun around name found => toList_text_of_nested found⟩
  · rw [← kept.names, keys, Entries.mem_names_iff, Option.not_isSome_iff_eq_none, get?]
  · simp [contains, keys]
  · simp [size, keys]
  · simp [isEmpty, keys]
  · exact Entries.get?_eq_some_of_mem kept.once mem
  · rw [toList_text]
    simp only [← Json.memberText_eq]

/-- A name put again keeps its place, and a missing value leaves no name. -/
theorem Record.built_in_order_nested :
    let inner := [.put "zeta" (.number 1), .put "mid" (.bool true), .putIfPresent "alias" none,
      .putIfPresent "zeta" (some .null)]
    let outer := [.put "inner" .null, .put "last" (.string ""), .put "inner" (built inner).toJson]
    (built inner).keys = ["zeta", "mid"] ∧ (built outer).get? "inner" = some (built inner).toJson ∧
      ∃ before after : List (String × Json),
        (built outer).keys = before.map Prod.fst ++ "inner" :: after.map Prod.fst ∧
        (built outer).text.toList = '{' :: (Json.separated (before.map Json.memberText ++
          (Json.quote "inner".toList ++ ':' :: (built inner).text.toList) :: after.map Json.memberText) ++ ['}']) := by
  intro inner outer
  have found : (built outer).get? "inner" = some (built inner).toJson := rfl
  exact ⟨rfl, found, (built_in_order inner).2.2.2.2.2.2 outer "inner" found⟩

end PeerPost
