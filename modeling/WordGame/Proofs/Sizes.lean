import Mathlib.Data.List.Nodup
import WordGame.Table

/-!
The sizes of tables. Keys are not listed twice, so a table is as large as any list that names each
of its keys once, and an entry is listed just when it is looked up under its key.
-/

namespace WordGame.Table

variable {κ α : Type} [Ord κ]

theorem length_keys (table : Table κ α) : table.keys.length = table.size := List.length_map _

section Keys

variable [Std.LawfulEqOrd κ]

theorem size_eq_length {table : Table κ α} {keys : List κ} (distinct : keys.Nodup)
    (same : ∀ key, key ∈ keys ↔ table.contains key = true) : table.size = keys.length := by
  have sameKeys : table.keys.Perm keys := by
    apply (List.perm_ext_iff_of_nodup table.nodup_keys distinct).mpr
    intro key
    rw [mem_keys, same]
  rw [← length_keys, sameKeys.length_eq]

theorem length_le_size {table : Table κ α} {keys : List κ} (distinct : keys.Nodup)
    (included : ∀ key ∈ keys, table.contains key = true) : keys.length ≤ table.size := by
  rw [← length_keys]
  apply distinct.length_le_of_subset
  intro key member
  exact (table.mem_keys key).mpr (included key member)

theorem size_pos_iff (table : Table κ α) :
    0 < table.size ↔ ∃ key, table.contains key = true := by
  rw [← length_keys, List.length_pos_iff_exists_mem]
  constructor
  · rintro ⟨key, member⟩
    exact ⟨key, (table.mem_keys key).mp member⟩
  · rintro ⟨key, present⟩
    exact ⟨key, (table.mem_keys key).mpr present⟩

theorem mem_of_lookup {key : κ} {value : α} {entries : List (κ × α)}
    (found : lookup key entries = some value) : (key, value) ∈ entries := by
  induction entries with
  | nil => cases found
  | cons head rest ih =>
    obtain ⟨other, first⟩ := head
    unfold lookup at found
    split at found
    · rename_i same
      rw [Std.LawfulEqOrd.eq_of_compare same, Option.some.inj found]
      exact List.mem_cons_self
    · exact List.mem_cons_of_mem _ (ih found)

theorem mem_entries (table : Table κ α) (key : κ) (value : α) :
    (key, value) ∈ table.entries ↔ table.get? key = some value := by
  constructor
  · intro member
    have listed : (table.get? key).isSome = true :=
      (table.mem_keys key).mp (List.mem_map.mpr ⟨_, member, rfl⟩)
    obtain ⟨other, found⟩ := Option.isSome_iff_exists.mp listed
    have once := List.inj_on_of_nodup_map table.nodup_keys (mem_of_lookup found) member rfl
    rw [found, (Prod.mk.inj once).2]
  · exact mem_of_lookup

end Keys

theorem size_erase_le [Std.LawfulEqOrd κ] [DecidableEq κ] (table : Table κ α) (key : κ) :
    (table.erase key).size ≤ table.size := by
  rw [← length_keys]
  apply length_le_size (table.erase key).nodup_keys
  intro other member
  rw [mem_keys, contains_erase] at member
  exact member.2

section Insertion

variable [Std.TransOrd κ] [Std.LawfulEqOrd κ] [DecidableEq κ]

theorem size_insert_of_contains {table : Table κ α} {key : κ} (value : α)
    (present : table.contains key = true) : (table.insert key value).size = table.size := by
  have same : ∀ other, other ∈ table.keys ↔ (table.insert key value).contains other = true := by
    intro other
    rw [contains_insert, mem_keys]
    constructor
    · exact Or.inr
    · rintro (rfl | listed)
      · exact present
      · exact listed
  rw [size_eq_length table.nodup_keys same, length_keys]

theorem size_insert_of_new {table : Table κ α} {key : κ} (value : α)
    (new : table.contains key = false) : (table.insert key value).size = table.size + 1 := by
  have absent : key ∉ table.keys := by
    rw [mem_keys, new]
    exact Bool.false_ne_true
  have same : ∀ other, other ∈ key :: table.keys ↔
      (table.insert key value).contains other = true := by
    intro other
    rw [contains_insert, List.mem_cons, mem_keys]
  rw [size_eq_length (List.nodup_cons.mpr ⟨absent, table.nodup_keys⟩) same, List.length_cons,
    length_keys]

theorem size_insert_pos (table : Table κ α) (key : κ) (value : α) :
    0 < (table.insert key value).size := by
  rw [size_pos_iff]
  exact ⟨key, (contains_insert table key key value).mpr (.inl rfl)⟩

end Insertion

end WordGame.Table
