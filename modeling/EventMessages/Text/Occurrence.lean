/-!
# EventMessages.Text.Occurrence

One sequence inside another. A needle occurs where it stands as a block, the empty one everywhere.
-/

namespace EventMessages.Text

variable {α : Type _} [BEq α]

/-- Whether the needle occurs in the sequence as a block. -/
def occursIn (needle : List α) : List α → Bool
  | [] => needle.isEmpty
  | c :: rest => needle.isPrefixOf (c :: rest) || occursIn needle rest

/-- An occurrence splits the sequence in front of the needle and behind it. -/
theorem occursIn_iff [LawfulBEq α] {needle text : List α} :
    occursIn needle text = true ↔ needle <:+: text := by
  induction text with
  | nil => simp [occursIn]
  | cons c rest ih => simp [occursIn, ih, List.infix_cons_iff, List.isPrefixOf_iff_prefix]

end EventMessages.Text
