/-!
Occurrence of one text inside another: `occurs_iff` says that the search finds exactly the
contiguous parts.
-/

namespace WordGame.Text

def occurs (part : List Char) : List Char → Bool
  | [] => part.isEmpty
  | c :: rest => part.isPrefixOf (c :: rest) || occurs part rest

theorem occurs_iff {part whole : List Char} : occurs part whole = true ↔ part <:+: whole := by
  induction whole with
  | nil => cases part <;> simp [occurs]
  | cons c rest ih =>
    rw [occurs, Bool.or_eq_true, List.isPrefixOf_iff_prefix, ih, List.infix_cons_iff]

end WordGame.Text
