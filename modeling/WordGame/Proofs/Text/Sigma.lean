import Mathlib.Data.List.Basic
import WordGame.Text.Lowercase

/-!
Lower-casing part of a text. Capital sigmas apart, a character becomes the same wherever it stands.
So the lower-case form of a part is found in that of the whole, right where the part stands, exactly
if each capital sigma of the part takes the form there that it has in the part alone
(`stands_iff_keepsSigmas`).
-/

namespace WordGame.Text

/-- Whether a capital sigma takes its final form between what stands before it, read backwards, and
what follows it. -/
def isFinal (before after : List Char) : Bool := casedFirst before && !casedFirst after

/-- Lower-cases what stands between the characters `before`, which are listed backwards, and the
characters after it. -/
def lowerBetween (before : List Char) : List Char → List Char → List Char
  | [], _ => []
  | c :: rest, after => lowerChar before c (rest ++ after) ++ lowerBetween (c :: before) rest after

/-- The capital sigmas of what follows `inner` take the same form whether `outer` and `after` stand
around or not; both `inner` and `outer` are listed backwards. -/
def KeepsSigmasAfter (outer inner cs after : List Char) : Prop :=
  ∀ place < cs.length, cs[place]? = some '\u03a3' →
    isFinal ((cs.take place).reverse ++ inner ++ outer) (cs.drop (place + 1) ++ after) =
      isFinal ((cs.take place).reverse ++ inner) (cs.drop (place + 1))

/-- Each capital sigma of the part takes the same form between the texts before and after it as in
the part alone. -/
def KeepsSigmas (before part after : List Char) : Prop :=
  KeepsSigmasAfter before.reverse [] part after

instance (before part after : List Char) : Decidable (KeepsSigmas before part after) :=
  inferInstanceAs (Decidable (∀ place < part.length, _ → _))

variable {before outer inner cs after part : List Char} {c : Char}

theorem lowerAfter_append (before cs after : List Char) :
    lowerAfter before (cs ++ after) =
      lowerBetween before cs after ++ lowerAfter (cs.reverse ++ before) after := by
  induction cs generalizing before with
  | nil => rfl
  | cons c rest ih =>
    rw [List.cons_append, lowerAfter, ih, lowerBetween, List.append_assoc, List.reverse_cons,
      List.append_assoc, List.singleton_append]

theorem lowerChar_sigma (before after : List Char) :
    lowerChar before '\u03a3' after = [if isFinal before after then '\u03c2' else '\u03c3'] := by
  rw [lowerChar, if_pos rfl, isFinal]
  split
  · rfl
  · rfl

theorem lowerChar_of_not_sigma (notSigma : c ≠ '\u03a3') (before after others rest : List Char) :
    lowerChar before c after = lowerChar others c rest := by
  rw [lowerChar, if_neg notSigma, lowerChar, if_neg notSigma]

theorem length_lowerChar (before after others rest : List Char) :
    (lowerChar before c after).length = (lowerChar others c rest).length := by
  by_cases sigma : c = '\u03a3'
  · subst sigma
    rw [lowerChar_sigma, lowerChar_sigma, List.length_singleton, List.length_singleton]
  · rw [lowerChar_of_not_sigma sigma before after others rest]

/-- A character has the same form in two places if it has the same form there as a sigma. -/
theorem lowerChar_eq_iff (before after others rest : List Char) :
    lowerChar before c after = lowerChar others c rest ↔
      (c = '\u03a3' → isFinal before after = isFinal others rest) := by
  by_cases sigma : c = '\u03a3'
  · subst sigma
    rw [lowerChar_sigma, lowerChar_sigma, List.singleton_inj]
    cases isFinal before after <;> cases isFinal others rest <;> decide
  · rw [lowerChar_of_not_sigma sigma before after others rest]
    exact iff_of_true rfl fun same => absurd same sigma

theorem length_lowerBetween (before others cs after : List Char) :
    (lowerBetween before cs after).length = (lowerAfter others cs).length := by
  induction cs generalizing before others with
  | nil => rfl
  | cons c rest ih =>
    rw [lowerBetween, lowerAfter, List.length_append, List.length_append, ih (c :: before),
      length_lowerChar before (rest ++ after) others rest]

theorem keepsSigmasAfter_cons_iff {rest : List Char} :
    KeepsSigmasAfter outer inner (c :: rest) after ↔
      (c = '\u03a3' → isFinal (inner ++ outer) (rest ++ after) = isFinal inner rest) ∧
        KeepsSigmasAfter outer (c :: inner) rest after := by
  have shifted (place : Nat) :
      ((c :: rest).take (place + 1)).reverse ++ inner =
        (rest.take place).reverse ++ (c :: inner) := by
    rw [List.take_succ_cons, List.reverse_cons, List.append_assoc, List.singleton_append]
  constructor
  · intro keeps
    constructor
    · rintro rfl
      exact keeps 0 (Nat.succ_pos _) rfl
    · intro place within sigma
      have later := keeps (place + 1) (Nat.succ_lt_succ within) sigma
      rw [shifted] at later
      exact later
  · rintro ⟨first, keeps⟩ place within sigma
    cases place with
    | zero => exact first (Option.some.inj sigma)
    | succ place =>
      rw [shifted]
      exact keeps place (Nat.lt_of_succ_lt_succ within) sigma

theorem lowerBetween_eq_iff (outer inner cs after : List Char) :
    lowerBetween (inner ++ outer) cs after = lowerAfter inner cs ↔
      KeepsSigmasAfter outer inner cs after := by
  induction cs generalizing inner with
  | nil =>
    refine iff_of_true rfl ?_
    intro place within
    cases within
  | cons c rest ih =>
    have length := length_lowerChar (c := c) (inner ++ outer) (rest ++ after) inner rest
    rw [keepsSigmasAfter_cons_iff, ← ih (c :: inner), ← lowerChar_eq_iff, lowerBetween, lowerAfter]
    constructor
    · intro same
      exact List.append_inj same length
    · rintro ⟨here, later⟩
      rw [here]
      exact congrArg (lowerChar inner c rest ++ ·) later

theorem lowerChars_surrounded (before part after : List Char) :
    lowerChars (before ++ part ++ after) =
      lowerBetween [] before (part ++ after) ++ (lowerBetween before.reverse part after ++
        lowerAfter (part.reverse ++ before.reverse) after) := by
  rw [lowerChars, List.append_assoc, lowerAfter_append, List.append_nil, lowerAfter_append]

/-- The lower-case form of a part stands where the part stands exactly if the part keeps its
sigmas. -/
theorem stands_iff_keepsSigmas (before part after : List Char) :
    lowerChars part <+: (lowerChars (before ++ part ++ after)).drop (lowerChars before).length ↔
      KeepsSigmas before part after := by
  have lead : (lowerBetween [] before (part ++ after)).length = (lowerChars before).length :=
    length_lowerBetween [] [] before (part ++ after)
  have length : (lowerBetween before.reverse part after).length = (lowerChars part).length :=
    length_lowerBetween before.reverse [] part after
  rw [KeepsSigmas, ← lowerBetween_eq_iff, List.nil_append, lowerChars_surrounded, ← lead,
    List.drop_left]
  constructor
  · rintro ⟨rest, same⟩
    exact (List.append_inj same length.symm).1.symm
  · intro same
    rw [same]
    exact List.prefix_append _ _

/-- A part that keeps its sigmas is found in lower case in the whole. -/
theorem KeepsSigmas.isInfix (keeps : KeepsSigmas before part after) :
    lowerChars part <:+: lowerChars (before ++ part ++ after) :=
  ((stands_iff_keepsSigmas before part after).mpr keeps).isInfix.trans
    (List.drop_suffix _ _).isInfix

/-- A part without a capital sigma can stand anywhere. -/
theorem keepsSigmas_of_notMem (notSigma : '\u03a3' ∉ part) (before after : List Char) :
    KeepsSigmas before part after := by
  intro place _ sigma
  exact absurd (List.mem_of_getElem? sigma) notSigma

end WordGame.Text
