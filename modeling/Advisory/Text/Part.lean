/-!
# Parts of a text
-/

namespace Advisory.Text

/-- Whether a text contains another one in one piece. -/
def isPartOf (part : List Char) : List Char → Bool
  | [] => part.isEmpty
  | c :: cs => part.isPrefixOf (c :: cs) || isPartOf part cs

theorem isPartOf_iff {part whole : List Char} : isPartOf part whole = true ↔ part <:+: whole := by
  induction whole with
  | nil => simp [isPartOf]
  | cons c cs ih => simp [isPartOf, ih, List.infix_cons_iff]

end Advisory.Text
