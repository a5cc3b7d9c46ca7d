import Mathlib.Data.List.Basic
import WordGame.Text.Blank
import WordGame.Text.Lowercase

/-!
What lower-casing leaves behind. The characters of a text in lower case stay as they are wherever
they stand, so parts of such a text are in lower case too (`lowerChars_of_settled`). Lower-casing
neither makes nor removes blanks, so a text that was trimmed needs no more trimming afterwards
(`Trimmed.lowerChars`).
-/

namespace WordGame.Text

/-- Lower-casing leaves the character as it is, whatever stands around it. -/
structure Settled (c : Char) : Prop where
  simple : toLowerSimple c = c
  notSigma : c ≠ '\u03a3'
  notDotted : c ≠ '\u0130'

instance (c : Char) : Decidable (Settled c) :=
  decidable_of_iff (toLowerSimple c = c ∧ c ≠ '\u03a3' ∧ c ≠ '\u0130')
    ⟨fun all => ⟨all.1, all.2.1, all.2.2⟩, fun all => ⟨all.simple, all.notSigma, all.notDotted⟩⟩

/-- The lower-case form is settled, and as blank as the character itself. -/
structure Tame (c : Char) : Prop where
  settled : Settled (toLowerSimple c)
  blank : isBlank (toLowerSimple c) = isBlank c

instance (c : Char) : Decidable (Tame c) :=
  decidable_of_iff (Settled (toLowerSimple c) ∧ isBlank (toLowerSimple c) = isBlank c)
    ⟨fun both => ⟨both.1, both.2⟩, fun both => ⟨both.settled, both.blank⟩⟩

/-! ### The case map -/

/-- The spans of blank points, from the first to the last of each. -/
def blankSpans : List (Nat × Nat) :=
  [(0x09, 0x0D), (0x20, 0x20), (0x85, 0x85), (0xA0, 0xA0), (0x1680, 0x1680), (0x2000, 0x200A),
    (0x2028, 0x2029), (0x202F, 0x202F), (0x205F, 0x205F), (0x3000, 0x3000)]

theorem isBlank_eq_false {c : Char}
    (outside : ∀ span ∈ blankSpans, c.toNat < span.1 ∨ span.2 < c.toNat) : isBlank c = false := by
  simp only [blankSpans, List.forall_mem_cons, List.not_mem_nil, false_implies, implies_true,
    and_true] at outside
  simp only [isBlank, Bool.or_eq_false_iff, Bool.and_eq_false_iff, decide_eq_false_iff_not,
    beq_eq_false_iff_ne]
  omega

namespace CaseRun

def low (run : CaseRun) : Nat := (run.first + run.shift).toNat

def high (run : CaseRun) : Nat := (run.last + run.shift).toNat

/-- No point is mapped to a point of the other run: all lie outside of it, or all lie on the points
that its stride leaves out. -/
def misses (run other : CaseRun) : Bool :=
  run.high.blt other.first || other.last.blt run.low ||
    ((run.stride == 2 || run.low == run.high) && other.stride == 2 &&
      run.low % 2 != other.first % 2)

/-- The points that the run maps to are in lower case, and neither they nor its own are blank. -/
def IsRegular (run : CaseRun) : Prop :=
  0 ≤ run.first + run.shift ∧
    (run.high < 0xD800 ∨ 0xDFFF < run.low ∧ run.high < 0x110000) ∧
    (0x80 ≤ run.low ∨ 0x61 ≤ run.low ∧ run.high ≤ 0x7A) ∧
    (run.high < 0x130 ∨ 0x130 < run.low) ∧
    (∀ span ∈ blankSpans, (run.last < span.1 ∨ span.2 < run.first) ∧
      (run.high < span.1 ∨ span.2 < run.low)) ∧
    caseRuns.all run.misses = true

instance (run : CaseRun) : Decidable run.IsRegular := inferInstanceAs (Decidable (_ ∧ _))

theorem covers_iff (run : CaseRun) (point : Nat) :
    run.covers point = true ↔
      run.first ≤ point ∧ point ≤ run.last ∧ (point - run.first) % run.stride = 0 := by
  simp only [covers, Bool.and_eq_true, decide_eq_true_eq, beq_iff_eq, and_assoc]

theorem not_covers_of_misses {run other : CaseRun} {point : Nat} (misses : run.misses other = true)
    (positive : 0 ≤ run.first + run.shift) (covered : run.covers point = true) :
    other.covers (point + run.shift).toNat = false := by
  rw [covers_iff] at covered
  rw [← Bool.not_eq_true, covers_iff]
  rintro ⟨first, last, aligned⟩
  simp only [CaseRun.misses, low, high, Bool.or_eq_true, Nat.blt_eq, Bool.and_eq_true, beq_iff_eq,
    bne_iff_ne] at misses
  rcases misses with (below | above) | ⟨⟨even | single, step⟩, off⟩
  · omega
  · omega
  · rw [even] at covered
    rw [step] at aligned
    omega
  · rw [step] at aligned
    omega

end CaseRun

theorem caseRuns_regular : ∀ run ∈ caseRuns, run.IsRegular := by
  decide +kernel

theorem tame_ascii : ∀ point < 0x80, Tame (Char.ofNat point) := by
  decide +kernel

theorem settled_ascii : ∀ point < 0x80, 0x61 ≤ point → Settled (Char.ofNat point) := by
  decide +kernel

/-- A character that no run covers is in lower case already, if it is not an exception. -/
theorem settled_of_uncovered {c : Char} (uncovered : ∀ run ∈ caseRuns, run.covers c.toNat = false)
    (lower : 0x80 ≤ c.toNat) (notSigma : c ≠ '\u03a3') (notDotted : c ≠ '\u0130') : Settled c := by
  have none : caseRuns.find? (·.covers c.toNat) = none := by
    rw [List.find?_eq_none]
    intro run member covered
    rw [uncovered run member] at covered
    cases covered
  refine ⟨?_, notSigma, notDotted⟩
  rw [toLowerSimple, if_neg (Nat.not_lt.mpr lower), none]

theorem tame_of_covered {c : Char} {run : CaseRun} (listed : run ∈ caseRuns)
    (covered : run.covers c.toNat = true) (simple : toLowerSimple c =
      Char.ofNat (c.toNat + run.shift).toNat) : Tame c := by
  obtain ⟨positive, valid, ascii, notDotted, visible, misses⟩ := caseRuns_regular run listed
  have misses := List.all_eq_true.mp misses
  have within := (run.covers_iff c.toNat).mp covered
  have point : (toLowerSimple c).toNat = (c.toNat + run.shift).toNat := by
    have scalar : (c.toNat + run.shift).toNat.isValidChar := by
      unfold Nat.isValidChar
      unfold CaseRun.low CaseRun.high at valid
      omega
    rw [simple, Char.ofNat, dif_pos scalar]
    rfl
  have bounds : run.low ≤ (toLowerSimple c).toNat ∧ (toLowerSimple c).toNat ≤ run.high := by
    unfold CaseRun.low CaseRun.high
    omega
  constructor
  · rcases ascii with beyond | ⟨least, greatest⟩
    · refine settled_of_uncovered ?_ (Nat.le_trans beyond bounds.1) ?_ ?_
      · intro other member
        rw [point]
        exact CaseRun.not_covers_of_misses (misses other member) positive covered
      · intro sigma
        obtain ⟨capitals, member, capital⟩ :
            ∃ capitals ∈ caseRuns, capitals.covers '\u03a3'.toNat = true := by
          decide +kernel
        have missed := CaseRun.not_covers_of_misses (misses capitals member) positive covered
        rw [← point, sigma, capital] at missed
        cases missed
      · intro dotted
        rw [dotted] at bounds
        change run.low ≤ 0x130 ∧ 0x130 ≤ run.high at bounds
        omega
    · have settled := settled_ascii (toLowerSimple c).toNat (by omega) (by omega)
      rwa [Char.ofNat_toNat] at settled
  · have image : isBlank (toLowerSimple c) = false := by
      refine isBlank_eq_false ?_
      intro span member
      have := (visible span member).2
      omega
    have source : isBlank c = false := by
      refine isBlank_eq_false ?_
      intro span member
      have := (visible span member).1
      omega
    rw [image, source]

/-- Every character is tame but the two whose lower-case forms are exceptions. -/
theorem tame_of_regular {c : Char} (notSigma : c ≠ '\u03a3') (notDotted : c ≠ '\u0130') :
    Tame c := by
  by_cases ascii : c.toNat < 0x80
  · have tame := tame_ascii c.toNat ascii
    rwa [Char.ofNat_toNat] at tame
  · cases found : caseRuns.find? (·.covers c.toNat) with
    | some run =>
      have covered := List.find?_some found
      refine tame_of_covered (List.mem_of_find?_eq_some found)
        covered ?_
      rw [toLowerSimple, if_neg ascii, found]
    | none =>
      have settled : Settled c := by
        refine settled_of_uncovered ?_ (Nat.not_lt.mp ascii) notSigma notDotted
        intro run member
        exact Bool.eq_false_iff.mpr (List.find?_eq_none.mp found run member)
      constructor
      · rw [settled.simple]
        exact settled
      · rw [settled.simple]

/-! ### Whole texts -/

/-- What a character becomes is settled, and as blank as the character was. -/
theorem settled_of_mem_lowerChar {before after : List Char} {c d : Char}
    (member : d ∈ lowerChar before c after) : Settled d ∧ isBlank d = isBlank c := by
  unfold lowerChar at member
  split at member
  · rename_i sigma
    subst sigma
    split at member
    · rw [List.mem_singleton.mp member]
      decide +kernel
    · rw [List.mem_singleton.mp member]
      decide +kernel
  · rename_i notSigma
    split at member
    · rename_i dotted
      subst dotted
      simp only [List.mem_cons, List.not_mem_nil, or_false] at member
      rcases member with rfl | rfl
      · decide +kernel
      · decide +kernel
    · rename_i notDotted
      have tame := tame_of_regular notSigma notDotted
      rw [List.mem_singleton.mp member]
      exact ⟨tame.settled, tame.blank⟩

theorem lowerChar_ne_nil (before : List Char) (c : Char) (after : List Char) :
    lowerChar before c after ≠ [] := by
  unfold lowerChar
  split
  · split <;> exact List.cons_ne_nil _ _
  · split <;> exact List.cons_ne_nil _ _

theorem settled_of_mem_lowerAfter {cs : List Char} (before : List Char) {d : Char}
    (member : d ∈ lowerAfter before cs) : Settled d := by
  induction cs generalizing before with
  | nil => cases member
  | cons c rest ih =>
    rcases List.mem_append.mp member with here | later
    · exact (settled_of_mem_lowerChar here).1
    · exact ih (c :: before) later

theorem settled_of_mem_lowerChars {cs : List Char} {d : Char} (member : d ∈ lowerChars cs) :
    Settled d :=
  settled_of_mem_lowerAfter [] member

theorem lowerAfter_of_settled {cs : List Char} (before : List Char)
    (settled : ∀ c ∈ cs, Settled c) : lowerAfter before cs = cs := by
  induction cs generalizing before with
  | nil => rfl
  | cons c rest ih =>
    have here := settled c List.mem_cons_self
    rw [lowerAfter, ih (c :: before) (fun d later => settled d (List.mem_cons_of_mem _ later)),
      lowerChar, if_neg here.notSigma, if_neg here.notDotted, here.simple]
    rfl

/-- A text of settled characters is in lower case, whatever text it was part of. -/
theorem lowerChars_of_settled {cs : List Char} (settled : ∀ c ∈ cs, Settled c) :
    lowerChars cs = cs :=
  lowerAfter_of_settled [] settled

/-! ### Blanks at the ends -/

/-- No blank stands at either end. -/
structure Trimmed (cs : List Char) : Prop where
  first : ∀ c ∈ cs.head?, isBlank c = false
  last : ∀ c ∈ cs.getLast?, isBlank c = false

theorem not_blank_of_head?_dropWhile {cs : List Char} {c : Char}
    (head : c ∈ (cs.dropWhile isBlank).head?) : isBlank c = false := by
  have shown := List.head?_dropWhile_not isBlank cs
  rw [Option.mem_def.mp head] at shown
  exact shown

theorem trimEnd_prefix (cs : List Char) : trimEnd cs <+: cs := by
  have suffix : (cs.reverse.dropWhile isBlank) <:+ cs.reverse := List.dropWhile_suffix isBlank
  rw [trimEnd, ← List.reverse_suffix, List.reverse_reverse]
  exact suffix

theorem trimChars_trimmed (cs : List Char) : Trimmed (trimChars cs) := by
  constructor
  · intro c head
    obtain ⟨rest, split⟩ := trimEnd_prefix (cs.dropWhile isBlank)
    change (trimEnd (cs.dropWhile isBlank)).head? = some c at head
    have same : (cs.dropWhile isBlank).head? = some c := by
      rw [← split, List.head?_append, head]
      rfl
    exact not_blank_of_head?_dropWhile same
  · intro c last
    rw [trimChars, trimEnd, List.getLast?_reverse] at last
    exact not_blank_of_head?_dropWhile last

theorem dropWhile_of_head? {cs : List Char} (first : ∀ c ∈ cs.head?, isBlank c = false) :
    cs.dropWhile isBlank = cs := by
  cases cs with
  | nil => rfl
  | cons c rest =>
    have visible := first c rfl
    rw [List.dropWhile_cons, visible, if_neg Bool.false_ne_true]

theorem Trimmed.trimChars {cs : List Char} (trimmed : Trimmed cs) : trimChars cs = cs := by
  have last : ∀ c ∈ cs.reverse.head?, isBlank c = false := by
    intro c head
    rw [List.head?_reverse] at head
    exact trimmed.last c head
  rw [Text.trimChars, dropWhile_of_head? trimmed.first, trimEnd, dropWhile_of_head? last,
    List.reverse_reverse]

theorem head?_lowerAfter {before cs : List Char} {d : Char}
    (head : d ∈ (lowerAfter before cs).head?) : ∃ c ∈ cs.head?, isBlank d = isBlank c := by
  cases cs with
  | nil => cases head
  | cons c rest =>
    rw [lowerAfter, List.head?_append_of_ne_nil _ (lowerChar_ne_nil before c rest)] at head
    exact ⟨c, rfl, (settled_of_mem_lowerChar (List.mem_of_mem_head? head)).2⟩

theorem getLast?_lowerAfter {cs : List Char} (before : List Char) {d : Char}
    (last : d ∈ (lowerAfter before cs).getLast?) : ∃ c ∈ cs.getLast?, isBlank d = isBlank c := by
  induction cs generalizing before with
  | nil => cases last
  | cons c rest ih =>
    cases rest with
    | nil =>
      rw [lowerAfter, lowerAfter, List.append_nil] at last
      exact ⟨c, rfl, (settled_of_mem_lowerChar (List.mem_of_mem_getLast? last)).2⟩
    | cons next later =>
      have more : lowerAfter (c :: before) (next :: later) ≠ [] :=
        List.append_ne_nil_of_left_ne_nil (lowerChar_ne_nil _ _ _) _
      rw [lowerAfter, List.getLast?_append_of_ne_nil _ more] at last
      rw [List.getLast?_cons_cons]
      exact ih (c :: before) last

theorem Trimmed.lowerChars {cs : List Char} (trimmed : Trimmed cs) : Trimmed (lowerChars cs) := by
  constructor
  · intro d head
    obtain ⟨c, first, same⟩ := head?_lowerAfter head
    rw [same]
    exact trimmed.first c first
  · intro d tail
    obtain ⟨c, last, same⟩ := getLast?_lowerAfter [] tail
    rw [same]
    exact trimmed.last c last

end WordGame.Text
