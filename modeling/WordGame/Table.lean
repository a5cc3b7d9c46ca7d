/-!
Finite tables, listed in strictly ascending order of their keys.

The order is part of the type, so a table is determined by its look-ups: two tables that answer
every look-up alike are equal (`ext_get?`). The other main statements say what an insertion and an
erasure do to a look-up (`get?_insert`, `get?_erase`).
-/

namespace WordGame

structure Table (κ α : Type) [Ord κ] where
  entries : List (κ × α)
  ascending : entries.Pairwise (fun left right => compare left.1 right.1 = .lt)

namespace Table

variable {κ α β : Type} [Ord κ]

instance [DecidableEq κ] [DecidableEq α] : DecidableEq (Table κ α) := fun left right =>
  if same : left.entries = right.entries then
    isTrue (by cases left; cases right; cases same; rfl)
  else isFalse (fun equal => same (congrArg entries equal))

def lookup (key : κ) : List (κ × α) → Option α
  | [] => none
  | (other, value) :: rest => if compare key other = .eq then some value else lookup key rest

def place (key : κ) (value : α) : List (κ × α) → List (κ × α)
  | [] => [(key, value)]
  | (other, previous) :: rest =>
    match compare key other with
    | .lt => (key, value) :: (other, previous) :: rest
    | .eq => (key, value) :: rest
    | .gt => (other, previous) :: place key value rest

def strike (key : κ) (entries : List (κ × α)) : List (κ × α) :=
  entries.filter (fun entry => compare key entry.1 != .eq)

theorem mem_place {key : κ} {value : α} {entries : List (κ × α)} {entry : κ × α}
    (member : entry ∈ place key value entries) : entry = (key, value) ∨ entry ∈ entries := by
  induction entries with
  | nil => simpa [place] using member
  | cons head rest ih =>
    obtain ⟨other, previous⟩ := head
    simp only [place] at member
    split at member
    · simpa using member
    · rcases List.mem_cons.mp member with first | later
      · exact Or.inl first
      · exact Or.inr (List.mem_cons_of_mem _ later)
    · rcases List.mem_cons.mp member with first | later
      · exact Or.inr (first ▸ List.mem_cons_self)
      · exact (ih later).imp_right (List.mem_cons_of_mem _)

section Ordered

variable [Std.TransOrd κ] [Std.LawfulEqOrd κ]

theorem ascending_place (key : κ) (value : α) {entries : List (κ × α)}
    (ascending : entries.Pairwise (fun left right => compare left.1 right.1 = .lt)) :
    (place key value entries).Pairwise (fun left right => compare left.1 right.1 = .lt) := by
  induction entries with
  | nil => simp [place]
  | cons head rest ih =>
    obtain ⟨other, previous⟩ := head
    have ⟨below, tail⟩ := List.pairwise_cons.mp ascending
    simp only [place]
    split
    · rename_i less
      refine List.pairwise_cons.mpr ⟨?_, ascending⟩
      intro entry member
      rcases List.mem_cons.mp member with first | later
      · exact first ▸ less
      · exact Std.TransCmp.lt_trans less (below entry later)
    · rename_i same
      have equal : key = other := Std.LawfulEqOrd.eq_of_compare same
      subst equal
      exact List.pairwise_cons.mpr ⟨below, tail⟩
    · rename_i greater
      refine List.pairwise_cons.mpr ⟨?_, ih tail⟩
      intro entry member
      rcases mem_place member with placed | later
      · exact placed ▸ Std.OrientedCmp.lt_of_gt greater
      · exact below entry later

def insert (table : Table κ α) (key : κ) (value : α) : Table κ α :=
  ⟨place key value table.entries, ascending_place key value table.ascending⟩

end Ordered

def empty : Table κ α := ⟨[], List.Pairwise.nil⟩

instance : Inhabited (Table κ α) := ⟨empty⟩

def get? (table : Table κ α) (key : κ) : Option α := lookup key table.entries

def getD (table : Table κ α) (key : κ) (fallback : α) : α := (table.get? key).getD fallback

def contains (table : Table κ α) (key : κ) : Bool := (table.get? key).isSome

def erase (table : Table κ α) (key : κ) : Table κ α :=
  ⟨strike key table.entries, table.ascending.filter _⟩

def keys (table : Table κ α) : List κ := table.entries.map Prod.fst

def values (table : Table κ α) : List α := table.entries.map Prod.snd

def size (table : Table κ α) : Nat := table.entries.length

def isEmpty (table : Table κ α) : Bool := table.entries.isEmpty

theorem lookup_eq_none_of_below {key : κ} {entries : List (κ × α)}
    (below : ∀ entry ∈ entries, compare key entry.1 = .lt) : lookup key entries = none := by
  induction entries with
  | nil => rfl
  | cons head rest ih =>
    obtain ⟨other, value⟩ := head
    have less : compare key other = .lt := below (other, value) List.mem_cons_self
    simp [lookup, less, ih (fun entry member => below entry (List.mem_cons_of_mem _ member))]

@[simp] theorem get?_empty (key : κ) : (empty : Table κ α).get? key = none := rfl

theorem eq_empty_of_isEmpty {table : Table κ α} (none : table.isEmpty = true) : table = empty := by
  obtain ⟨entries, ascending⟩ := table
  cases entries with
  | nil => rfl
  | cons head rest => cases none

@[simp] theorem size_empty : (empty : Table κ α).size = 0 := rfl

section Keys

variable [Std.LawfulEqOrd κ]

theorem lookup_isSome_iff (key : κ) (entries : List (κ × α)) :
    (lookup key entries).isSome = true ↔ key ∈ entries.map Prod.fst := by
  induction entries with
  | nil => simp [lookup]
  | cons head rest ih =>
    obtain ⟨other, value⟩ := head
    by_cases same : key = other
    · simp [lookup, same]
    · simp [lookup, same, ih]

theorem mem_keys (table : Table κ α) (key : κ) : key ∈ table.keys ↔ table.contains key = true :=
  (lookup_isSome_iff key table.entries).symm

theorem nodup_keys (table : Table κ α) : table.keys.Nodup := by
  refine List.pairwise_map.mpr (table.ascending.imp ?_)
  intro left right less same
  have equal : compare left.1 right.1 = .eq := by
    rw [same]
    exact Std.ReflCmp.compare_self
  rw [equal] at less
  cases less

end Keys

section Lookup

variable [Std.LawfulEqOrd κ] [DecidableEq κ]

theorem lookup_place (key query : κ) (value : α) (entries : List (κ × α)) :
    lookup query (place key value entries) =
      if query = key then some value else lookup query entries := by
  induction entries with
  | nil =>
    by_cases same : query = key
    · simp [place, lookup, same]
    · simp [place, lookup, same]
  | cons head rest ih =>
    obtain ⟨other, previous⟩ := head
    simp only [place]
    split
    · by_cases same : query = key
      · simp [lookup, same]
      · simp [lookup, same]
    · rename_i equal
      have equal : key = other := Std.LawfulEqOrd.eq_of_compare equal
      subst equal
      by_cases same : query = key
      · simp [lookup, same]
      · simp [lookup, same]
    · rename_i greater
      by_cases same : query = other
      · have different : query ≠ key := by
          intro equal
          subst same
          subst equal
          simp at greater
        subst same
        simp [lookup, different]
      · simp [lookup, same, ih]

theorem lookup_strike (key query : κ) (entries : List (κ × α)) :
    lookup query (strike key entries) = if query = key then none else lookup query entries := by
  induction entries with
  | nil => simp [strike, lookup]
  | cons head rest ih =>
    obtain ⟨other, value⟩ := head
    by_cases struck : key = other
    · subst struck
      have skipped : strike key ((key, value) :: rest) = strike key rest := by
        simp [strike]
      rw [skipped, ih]
      by_cases same : query = key
      · simp [same]
      · simp [same, lookup]
    · have kept : strike key ((other, value) :: rest) = (other, value) :: strike key rest := by
        simp [strike, struck]
      rw [kept]
      by_cases here : query = other
      · subst here
        simp [lookup, Ne.symm struck]
      · simp [lookup, here, ih]

theorem get?_erase (table : Table κ α) (key query : κ) :
    (table.erase key).get? query = if query = key then none else table.get? query :=
  lookup_strike key query table.entries

@[simp] theorem get?_erase_self (table : Table κ α) (key : κ) :
    (table.erase key).get? key = none := by
  rw [get?_erase, if_pos rfl]

theorem getD_erase (table : Table κ α) (key query : κ) (fallback : α) :
    (table.erase key).getD query fallback =
      if query = key then fallback else table.getD query fallback := by
  unfold getD
  rw [get?_erase]
  split
  · rfl
  · rfl

theorem contains_erase (table : Table κ α) (key query : κ) :
    (table.erase key).contains query = true ↔ query ≠ key ∧ table.contains query = true := by
  unfold contains
  rw [get?_erase]
  by_cases same : query = key
  · simp [same]
  · simp [same]

end Lookup

section Insertion

variable [Std.TransOrd κ] [Std.LawfulEqOrd κ] [DecidableEq κ]

/-- The table of the given entries; of two with one key the later is kept. -/
def ofList (entries : List (κ × α)) : Table κ α :=
  entries.foldl (fun table entry => table.insert entry.1 entry.2) empty

theorem get?_insert (table : Table κ α) (key query : κ) (value : α) :
    (table.insert key value).get? query =
      if query = key then some value else table.get? query :=
  lookup_place key query value table.entries

@[simp] theorem get?_insert_self (table : Table κ α) (key : κ) (value : α) :
    (table.insert key value).get? key = some value := by
  rw [get?_insert, if_pos rfl]

theorem get?_insert_of_ne (table : Table κ α) {key query : κ} (value : α)
    (different : query ≠ key) : (table.insert key value).get? query = table.get? query := by
  rw [get?_insert, if_neg different]

theorem getD_insert (table : Table κ α) (key query : κ) (value fallback : α) :
    (table.insert key value).getD query fallback =
      if query = key then value else table.getD query fallback := by
  unfold getD
  rw [get?_insert]
  split
  · rfl
  · rfl

theorem contains_insert (table : Table κ α) (key query : κ) (value : α) :
    (table.insert key value).contains query = true ↔ query = key ∨ table.contains query = true := by
  unfold contains
  rw [get?_insert]
  by_cases same : query = key
  · simp [same]
  · simp [same]

theorem contains_ofList (entries : List (κ × α)) (key : κ) :
    (ofList entries).contains key = true ↔ key ∈ entries.map Prod.fst := by
  have folded (table : Table κ α) :
      (entries.foldl (fun table entry => table.insert entry.1 entry.2) table).contains key = true ↔
        key ∈ entries.map Prod.fst ∨ table.contains key = true := by
    induction entries generalizing table with
    | nil => simp
    | cons entry rest ih =>
      rw [List.foldl_cons, ih, contains_insert, List.map_cons, List.mem_cons, or_assoc, or_left_comm]
  rw [ofList, folded]
  simp [contains]

theorem get?_ofList_of_mem {entries : List (κ × α)} {key : κ} {value : α}
    (member : (key, value) ∈ entries) (only : ∀ other, (key, other) ∈ entries → other = value) :
    (ofList entries).get? key = some value := by
  have folded (table : Table κ α) (found : (key, value) ∈ entries ∨ table.get? key = some value) :
      (entries.foldl (fun table entry => table.insert entry.1 entry.2) table).get? key =
        some value := by
    clear member
    induction entries generalizing table with
    | nil => exact found.resolve_left List.not_mem_nil
    | cons entry rest ih =>
      obtain ⟨listed, held⟩ := entry
      refine ih (fun other later => only other (List.mem_cons_of_mem _ later)) _ ?_
      by_cases same : key = listed
      · cases same
        cases only held List.mem_cons_self
        exact .inr (table.get?_insert_self key _)
      · rcases found with member | found
        · rcases List.mem_cons.mp member with here | later
          · cases here
            exact absurd rfl same
          · exact .inl later
        · refine .inr ?_
          rw [table.get?_insert_of_ne held same]
          exact found
  exact folded empty (.inl member)

theorem entries_eq_of_lookup {left right : List (κ × α)}
    (leftAscending : left.Pairwise (fun first second => compare first.1 second.1 = .lt))
    (rightAscending : right.Pairwise (fun first second => compare first.1 second.1 = .lt))
    (same : ∀ key, lookup key left = lookup key right) : left = right := by
  induction left generalizing right with
  | nil =>
    cases right with
    | nil => rfl
    | cons head rest =>
      have shown := same head.1
      simp [lookup] at shown
  | cons head rest ih =>
    obtain ⟨key, value⟩ := head
    have ⟨below, tail⟩ := List.pairwise_cons.mp leftAscending
    cases right with
    | nil =>
      have shown := same key
      simp [lookup] at shown
    | cons other others =>
      obtain ⟨otherKey, otherValue⟩ := other
      have ⟨otherBelow, otherTail⟩ := List.pairwise_cons.mp rightAscending
      have keyEqual : key = otherKey := by
        cases order : compare key otherKey with
        | lt =>
          have shown := same key
          have absent : lookup key ((otherKey, otherValue) :: others) = none := by
            refine lookup_eq_none_of_below ?_
            intro entry member
            rcases List.mem_cons.mp member with first | later
            · exact first ▸ order
            · exact Std.TransCmp.lt_trans order (otherBelow entry later)
          rw [absent] at shown
          simp [lookup] at shown
        | eq => exact Std.LawfulEqOrd.eq_of_compare order
        | gt =>
          have shown := same otherKey
          have absent : lookup otherKey ((key, value) :: rest) = none := by
            have less := Std.OrientedCmp.lt_of_gt order
            refine lookup_eq_none_of_below ?_
            intro entry member
            rcases List.mem_cons.mp member with first | later
            · exact first ▸ less
            · exact Std.TransCmp.lt_trans less (below entry later)
          rw [absent] at shown
          simp [lookup] at shown
      subst keyEqual
      have valueEqual : value = otherValue := by simpa [lookup] using same key
      subst valueEqual
      have restEqual : rest = others := by
        refine ih tail otherTail ?_
        intro query
        by_cases here : query = key
        · subst here
          rw [lookup_eq_none_of_below below, lookup_eq_none_of_below otherBelow]
        · simpa [lookup, here] using same query
      rw [restEqual]

/-- A table is determined by its look-ups. -/
theorem ext_get? {left right : Table κ α} (same : ∀ key, left.get? key = right.get? key) :
    left = right := by
  have entriesEqual := entries_eq_of_lookup left.ascending right.ascending same
  cases left
  cases right
  cases entriesEqual
  rfl

end Insertion

end Table

end WordGame
