import Mathlib.Data.List.Basic

/-!
Records that grow at their end: what was recorded once, and what has been so since then.
-/

namespace WordGame.History

variable {β : Type}

/-- There was such a record, after such others. -/
def Once (records : List β) (found : List β → β → Prop) : Prop :=
  ∃ before record since, records = before ++ record :: since ∧ found before record

/-- There was a record of the one kind, and only records of the other kind since then. -/
def Since (records : List β) (began kept : β → Prop) : Prop :=
  ∃ before record since, records = before ++ record :: since ∧ began record ∧
    ∀ later ∈ since, kept later

theorem append_singleton_eq_iff {records before since : List β} {last record : β} :
    records ++ [last] = before ++ record :: since ↔
      records = before ∧ last = record ∧ since = [] ∨
        ∃ earlier, since = earlier ++ [last] ∧ records = before ++ record :: earlier := by
  constructor
  · intro split
    rcases since.eq_nil_or_concat' with rfl | ⟨earlier, final, rfl⟩
    · obtain ⟨same, head⟩ := List.append_inj' split rfl
      cases head
      exact .inl ⟨same, rfl, rfl⟩
    · rw [← List.cons_append, ← List.append_assoc] at split
      obtain ⟨same, head⟩ := List.append_inj' split rfl
      cases head
      exact .inr ⟨earlier, rfl, same⟩
  · rintro (⟨rfl, rfl, rfl⟩ | ⟨earlier, rfl, rfl⟩)
    · rfl
    · rw [List.append_assoc, List.cons_append]

theorem once_append (records : List β) (last : β) (found : List β → β → Prop) :
    Once (records ++ [last]) found ↔ Once records found ∨ found records last := by
  constructor
  · rintro ⟨before, record, since, split, there⟩
    rcases append_singleton_eq_iff.mp split with ⟨rfl, rfl, _⟩ | ⟨earlier, _, same⟩
    · exact .inr there
    · exact .inl ⟨before, record, earlier, same, there⟩
  · rintro (⟨before, record, since, same, there⟩ | there)
    · exact ⟨before, record, since ++ [last],
        append_singleton_eq_iff.mpr (.inr ⟨since, rfl, same⟩), there⟩
    · exact ⟨records, last, [], rfl, there⟩

theorem since_append (records : List β) (last : β) (began kept : β → Prop) :
    Since (records ++ [last]) began kept ↔ began last ∨ Since records began kept ∧ kept last := by
  constructor
  · rintro ⟨before, record, since, split, there, still⟩
    rcases append_singleton_eq_iff.mp split with ⟨_, rfl, _⟩ | ⟨earlier, rfl, same⟩
    · exact .inl there
    · obtain ⟨before_last, after⟩ := List.forall_mem_append.mp still
      exact .inr ⟨⟨before, record, earlier, same, there, before_last⟩,
        after last (List.mem_singleton_self last)⟩
  · rintro (there | ⟨⟨before, record, since, same, there, still⟩, kept_last⟩)
    · exact ⟨records, last, [], rfl, there, fun other member => nomatch member⟩
    · refine ⟨before, record, since ++ [last],
        append_singleton_eq_iff.mpr (.inr ⟨since, rfl, same⟩), there, ?_⟩
      refine List.forall_mem_append.mpr ⟨still, ?_⟩
      intro other member
      rw [List.mem_singleton.mp member]
      exact kept_last

theorem not_once_nil (found : List β → β → Prop) : ¬Once [] found := by
  rintro ⟨before, record, since, split, _⟩
  exact List.append_ne_nil_of_right_ne_nil before (List.cons_ne_nil _ _) split.symm

theorem not_since_nil (began kept : β → Prop) : ¬Since [] began kept := by
  rintro ⟨before, record, since, split, _⟩
  exact not_once_nil (fun _ _ => True) ⟨before, record, since, split, trivial⟩

end WordGame.History
