import WordGame.Proofs.Server.Pending

/-!
Which alarm rings next. It is the first of those with the earliest deadline, and it is so among any
alarms that it belongs to.
-/

namespace WordGame.Timers

variable {α : Type}

/-- The first of the alarms with the earliest deadline. -/
def IsNext (alarms : List (Alarm α)) (alarm : Alarm α) : Prop :=
  ∃ before after, alarms = before ++ alarm :: after ∧
    (∀ other ∈ before, alarm.deadline < other.deadline) ∧
    ∀ other ∈ after, alarm.deadline ≤ other.deadline

theorem IsNext.unique {alarms : List (Alarm α)} {first second : Alarm α}
    (one : IsNext alarms first) (two : IsNext alarms second) : first = second := by
  obtain ⟨before, after, rfl, earlier, later⟩ := one
  obtain ⟨others, rest, same, earliest, latest⟩ := two
  rcases List.append_eq_append_iff.mp same with ⟨between, split, tail⟩ | ⟨between, split, tail⟩
  · cases between with
    | nil => exact (List.cons.inj tail).1
    | cons head between =>
      obtain ⟨rfl, left⟩ := List.cons.inj tail
      have less := earliest first (split ▸ List.mem_append_right _ List.mem_cons_self)
      have least := later second (left ▸ List.mem_append_right _ List.mem_cons_self)
      exact absurd less (Nat.not_lt_of_le least)
  · cases between with
    | nil => exact (List.cons.inj tail).1.symm
    | cons head between =>
      obtain ⟨rfl, left⟩ := List.cons.inj tail
      have less := earlier second (split ▸ List.mem_append_right _ List.mem_cons_self)
      have least := latest first (left ▸ List.mem_append_right _ List.mem_cons_self)
      exact absurd less (Nat.not_lt_of_le least)

theorem foldl_earlier_isNext (first : Alarm α) (rest : List (Alarm α)) :
    IsNext (first :: rest) (rest.foldl earlier first) := by
  induction rest generalizing first with
  | nil => exact ⟨[], [], rfl, (fun _ none => nomatch none), (fun _ none => nomatch none)⟩
  | cons second rest ih =>
    rw [List.foldl_cons]
    have least := (foldl_earlier_least (earlier first second) rest).2 _ List.mem_cons_self
    by_cases sooner : second.deadline < first.deadline
    · have chosen : earlier first second = second := if_pos sooner
      rw [chosen] at least ⊢
      obtain ⟨before, after, split, early, late⟩ := ih second
      refine ⟨first :: before, after, congrArg (first :: ·) split, ?_, late⟩
      intro other member
      rcases List.mem_cons.mp member with rfl | member
      · exact Nat.lt_of_le_of_lt least sooner
      · exact early other member
    · have chosen : earlier first second = first := if_neg sooner
      have behind : first.deadline ≤ second.deadline := Nat.le_of_not_lt sooner
      rw [chosen] at least ⊢
      obtain ⟨before, after, split, early, late⟩ := ih first
      cases before with
      | nil =>
        obtain ⟨same, tail⟩ := List.cons.inj split
        refine ⟨[], second :: after, ?_, (fun _ none => nomatch none), ?_⟩
        · rw [← same, tail]
          rfl
        · intro other member
          rcases List.mem_cons.mp member with rfl | member
          · exact Nat.le_trans least behind
          · exact late other member
      | cons head before =>
        obtain ⟨rfl, tail⟩ := List.cons.inj split
        refine ⟨first :: second :: before, after, ?_, ?_, late⟩
        · exact congrArg (fun rest => first :: second :: rest) tail
        · have early_first := early first List.mem_cons_self
          intro other member
          rcases List.mem_cons.mp member with rfl | member
          · exact early_first
          · rcases List.mem_cons.mp member with rfl | member
            · exact Nat.lt_of_lt_of_le early_first behind
            · exact early other (List.mem_cons_of_mem _ member)

theorem next?_eq_some_iff (timers : Timers α) (alarm : Alarm α) :
    timers.next? = some alarm ↔ IsNext timers.pending alarm := by
  unfold next?
  cases timers.pending with
  | nil =>
    constructor
    · intro none
      cases none
    · rintro ⟨before, after, split, _⟩
      cases before with
      | nil => cases split
      | cons => cases split
  | cons first rest =>
    have isNext := foldl_earlier_isNext first rest
    constructor
    · intro same
      rw [← Option.some.inj same]
      exact isNext
    · exact fun other => congrArg some (isNext.unique other)

theorem exists_next? (timers : Timers α) {alarm : Alarm α} (pending : alarm ∈ timers.pending) :
    ∃ next, timers.next? = some next := by
  unfold next?
  cases waiting : timers.pending with
  | nil =>
    rw [waiting] at pending
    cases pending
  | cons first rest => exact ⟨_, rfl⟩

theorem IsNext.filter {alarms : List (Alarm α)} {alarm : Alarm α} (isNext : IsNext alarms alarm)
    {keep : Alarm α → Bool} (kept : keep alarm = true) : IsNext (alarms.filter keep) alarm := by
  obtain ⟨before, after, rfl, earlier, later⟩ := isNext
  refine ⟨before.filter keep, after.filter keep, ?_, ?_, ?_⟩
  · rw [List.filter_append, List.filter_cons_of_pos kept]
  · exact fun other member => earlier other (List.mem_filter.mp member).1
  · exact fun other member => later other (List.mem_filter.mp member).1

/-- What rings next among alarms that are only changed in name rings next among them before. -/
theorem IsNext.of_map {alarms : List (Alarm α)} {alarm : Alarm α} (change : Alarm α → Alarm α)
    (deadline : ∀ alarm, (change alarm).deadline = alarm.deadline)
    (isNext : IsNext (alarms.map change) alarm) :
    ∃ original, IsNext alarms original ∧ change original = alarm := by
  obtain ⟨before, after, split, earlier, later⟩ := isNext
  obtain ⟨first, second, rfl, rfl, tail⟩ := List.map_eq_append_iff.mp split
  obtain ⟨original, rest, rfl, rfl, rfl⟩ := List.map_eq_cons_iff.mp tail
  refine ⟨original, ⟨first, rest, rfl, ?_, ?_⟩, rfl⟩
  · intro other member
    have less := earlier (change other) (List.mem_map_of_mem member)
    rw [deadline, deadline] at less
    exact less
  · intro other member
    have less := later (change other) (List.mem_map_of_mem member)
    rw [deadline, deadline] at less
    exact less

end WordGame.Timers
