/-!
Blank characters (the Unicode property White_Space) and trimming.

The main statement is that blanks added around a text do not survive trimming
(`trimChars_append_blanks`).
-/

namespace WordGame.Text

/-- The characters with the property White_Space. -/
def isBlank (c : Char) : Bool :=
  let point := c.toNat
  (0x09 ≤ point && point ≤ 0x0D) || point == 0x20 || point == 0x85 || point == 0xA0 ||
    point == 0x1680 || (0x2000 ≤ point && point ≤ 0x200A) || point == 0x2028 ||
    point == 0x2029 || point == 0x202F || point == 0x205F || point == 0x3000

def trimEnd (cs : List Char) : List Char := (cs.reverse.dropWhile isBlank).reverse

def trimChars (cs : List Char) : List Char := trimEnd (cs.dropWhile isBlank)

def trim (text : String) : String := String.ofList (trimChars text.toList)

theorem trimEnd_append {cs rest : List Char} (blanks : ∀ c ∈ rest, isBlank c = true) :
    trimEnd (cs ++ rest) = trimEnd cs := by
  rw [trimEnd, List.reverse_append, List.dropWhile_append_of_pos, trimEnd]
  intro c member
  exact blanks c (List.mem_reverse.mp member)

theorem trimEnd_of_blank {cs : List Char} (blanks : ∀ c ∈ cs, isBlank c = true) :
    trimEnd cs = [] := by
  have shown : trimEnd ([] ++ cs) = trimEnd [] := trimEnd_append blanks
  simpa [trimEnd] using shown

theorem trimChars_append_blanks {before cs after : List Char}
    (leading : ∀ c ∈ before, isBlank c = true) (trailing : ∀ c ∈ after, isBlank c = true) :
    trimChars (before ++ cs ++ after) = trimChars cs := by
  rw [trimChars, List.append_assoc, List.dropWhile_append_of_pos leading, trimChars]
  induction cs with
  | nil =>
    have gone : ∀ c ∈ after.dropWhile isBlank, isBlank c = true := by
      intro c member
      exact trailing c ((List.dropWhile_sublist _).subset member)
    simpa [trimEnd] using trimEnd_of_blank gone
  | cons c tail ih =>
    by_cases blank : isBlank c = true
    · rw [List.cons_append, List.dropWhile_cons, if_pos blank, List.dropWhile_cons, if_pos blank]
      exact ih
    · rw [List.cons_append, List.dropWhile_cons, if_neg blank, List.dropWhile_cons, if_neg blank,
        ← List.cons_append, trimEnd_append trailing]

end WordGame.Text
