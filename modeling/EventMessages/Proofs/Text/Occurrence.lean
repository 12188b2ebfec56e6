import EventMessages.Text.Lines
import EventMessages.Text.Occurrence

/-!
# EventMessages.Proofs.Text.Occurrence

Where a needle can occur. A needle without line breaks is found by a search through the lines of a
text exactly when it is found in the text as it was written, whichever breaks the text uses.
-/

namespace EventMessages.Text

/-! ## Separators -/

theorem prefix_cons_iff_of_notMem {needle text : List α} {sep : α} (h : sep ∉ needle) :
    needle <+: sep :: text ↔ needle = [] := by
  cases needle with
  | nil => simp
  | cons c needle =>
      have hne : c ≠ sep := fun he => h (he ▸ List.mem_cons_self)
      simp [List.cons_prefix_cons, hne]

/-- A needle without the separator lies on one side of it. -/
theorem infix_append_cons_iff {needle a b : List α} {sep : α} (h : sep ∉ needle) :
    needle <:+: a ++ sep :: b ↔ needle <:+: a ∨ needle <:+: b := by
  constructor
  · intro hi
    obtain hl | hr | ⟨s, t, rfl, hs, ht⟩ := List.infix_append_iff.mp hi
    · exact Or.inl hl
    · obtain hp | hb := List.infix_cons_iff.mp hr
      · rw [(prefix_cons_iff_of_notMem h).mp hp]
        exact Or.inl List.nil_infix
      · exact Or.inr hb
    · have ht' : t = [] := (prefix_cons_iff_of_notMem (fun hm => h (by simp [hm]))).mp ht
      rw [ht', List.append_nil]
      exact Or.inl hs.isInfix
  · rintro (hl | hr)
    · exact List.infix_append_of_infix_left hl
    · exact List.infix_append_of_infix_right (List.infix_cons hr)

theorem infix_cons_iff_of_notMem {needle text : List α} {sep : α} (h : sep ∉ needle) :
    needle <:+: sep :: text ↔ needle <:+: text := by
  rw [← List.nil_append (sep :: text), infix_append_cons_iff h, List.infix_nil]
  constructor
  · rintro (rfl | hi)
    · exact List.nil_infix
    · exact hi
  · exact Or.inr

/-! ## Line breaks -/

section Breaks

variable {needle : List Char}

theorem prefix_unifyBreaks_iff (hlf : '\n' ∉ needle) (hcr : '\r' ∉ needle) (text : List Char) :
    needle <+: unifyBreaks text ↔ needle <+: text := by
  induction text using unifyBreaks.induct generalizing needle with
  | case1 => rw [unifyBreaks]
  | case2 rest ih =>
      rw [unifyBreaks, prefix_cons_iff_of_notMem hlf, prefix_cons_iff_of_notMem hcr]
  | case3 rest hne ih =>
      rw [unifyBreaks.eq_3 _ hne, prefix_cons_iff_of_notMem hlf, prefix_cons_iff_of_notMem hcr]
  | case4 c rest hne hne' ih =>
      rw [unifyBreaks.eq_4 _ _ hne hne']
      cases needle with
      | nil => simp
      | cons d needle =>
          rw [List.cons_prefix_cons, List.cons_prefix_cons,
            ih (fun h => hlf (List.mem_cons_of_mem _ h)) (fun h => hcr (List.mem_cons_of_mem _ h))]

/-- Unifying the line breaks neither hides nor makes a needle that has none. -/
theorem infix_unifyBreaks_iff (hlf : '\n' ∉ needle) (hcr : '\r' ∉ needle) (text : List Char) :
    needle <:+: unifyBreaks text ↔ needle <:+: text := by
  induction text using unifyBreaks.induct with
  | case1 => rw [unifyBreaks]
  | case2 rest ih =>
      rw [unifyBreaks, infix_cons_iff_of_notMem hlf, infix_cons_iff_of_notMem hcr,
        infix_cons_iff_of_notMem hlf, ih]
  | case3 rest hne ih =>
      rw [unifyBreaks.eq_3 _ hne, infix_cons_iff_of_notMem hlf, infix_cons_iff_of_notMem hcr, ih]
  | case4 c rest hne hne' ih =>
      have hp := prefix_unifyBreaks_iff hlf hcr (c :: rest)
      rw [unifyBreaks.eq_4 _ _ hne hne'] at hp ⊢
      rw [List.infix_cons_iff, List.infix_cons_iff, ih, hp]

/-! ## Lines -/

theorem lines_cons_of_ne {c : Char} {rest line : List Char} {others : List (List Char)}
    (hc : c ≠ '\n') (h : lines rest = line :: others) :
    lines (c :: rest) = (c :: line) :: others := by
  rw [lines, if_neg hc, h]

/-- A needle without LF at the start of a text lies in its first line. -/
theorem exists_lines_of_isPrefix (hne : needle ≠ []) (hlf : '\n' ∉ needle) {text : List Char}
    (h : needle <+: text) : ∃ line others, lines text = line :: others ∧ needle <+: line := by
  induction text generalizing needle with
  | nil => exact absurd (List.prefix_nil.mp h) hne
  | cons c rest ih =>
      obtain ⟨d, needle, rfl⟩ := List.exists_cons_of_ne_nil hne
      obtain ⟨rfl, hrest⟩ := List.cons_prefix_cons.mp h
      have hd : d ≠ '\n' := fun he => hlf (he ▸ List.mem_cons_self)
      have hlf' : '\n' ∉ needle := fun hm => hlf (List.mem_cons_of_mem _ hm)
      rw [lines, if_neg hd]
      cases hl : lines rest with
      | nil =>
          have hr : rest = [] := by rw [← flatten_lines rest, hl, List.flatten_nil]
          rw [hr] at hrest
          rw [List.prefix_nil.mp hrest]
          exact ⟨[d], [], rfl, List.prefix_rfl⟩
      | cons line others =>
          refine ⟨d :: line, others, rfl, List.cons_prefix_cons.mpr ⟨rfl, ?_⟩⟩
          by_cases hn : needle = []
          · rw [hn]
            exact List.nil_prefix
          · obtain ⟨line', others', hl', hp⟩ := ih hn hlf' hrest
            rw [hl] at hl'
            injection hl' with hline _
            rw [hline]
            exact hp

/-- A needle without LF lies in one line of the text. -/
theorem exists_mem_lines_of_infix (hne : needle ≠ []) (hlf : '\n' ∉ needle) {text : List Char}
    (h : needle <:+: text) : ∃ line ∈ lines text, needle <:+: line := by
  induction text with
  | nil => exact absurd (List.infix_nil.mp h) hne
  | cons c rest ih =>
      obtain hp | hi := List.infix_cons_iff.mp h
      · obtain ⟨line, others, hl, hp'⟩ := exists_lines_of_isPrefix hne hlf hp
        exact ⟨line, by rw [hl]; exact List.mem_cons_self, hp'.isInfix⟩
      · obtain ⟨line, hm, hi'⟩ := ih hi
        by_cases hc : c = '\n'
        · refine ⟨line, ?_, hi'⟩
          rw [lines, if_pos hc]
          exact List.mem_cons_of_mem _ hm
        · cases hl : lines rest with
          | nil => simp [hl] at hm
          | cons first others =>
              rw [lines_cons_of_ne hc hl]
              rw [hl] at hm
              obtain rfl | hm' := List.mem_cons.mp hm
              · exact ⟨c :: line, List.mem_cons_self, List.infix_cons hi'⟩
              · exact ⟨line, List.mem_cons_of_mem _ hm', hi'⟩

/-- Searching line by line finds what searching the whole text finds. -/
theorem any_occursIn_lines_iff (hne : needle ≠ []) (hlf : '\n' ∉ needle) (text : List Char) :
    (lines text).any (occursIn needle) = true ↔ needle <:+: text := by
  rw [List.any_eq_true]
  constructor
  · rintro ⟨line, hm, ho⟩
    have hline : line <:+: (lines text).flatten := List.infix_of_mem_flatten hm
    rw [flatten_lines] at hline
    exact (occursIn_iff.mp ho).trans hline
  · intro h
    obtain ⟨line, hm, hi⟩ := exists_mem_lines_of_infix hne hlf h
    exact ⟨line, hm, occursIn_iff.mpr hi⟩

end Breaks

end EventMessages.Text
