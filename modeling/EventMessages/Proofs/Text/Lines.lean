import EventMessages.Proofs.Text.Pattern
import EventMessages.Text.Lines
import Mathlib.Data.List.Forall2

/-!
# EventMessages.Proofs.Text.Lines

The logical lines of a text: what stands between its line breaks. A break is LF, CR LF or a CR that
no LF follows, and every other character, the remaining line separators of Unicode among them, is
part of a line. `LogicalLines` states this with the breaks as they are in the text. The reader first
writes every break as LF and leaves it on the line, so its lines are the logical ones with an LF
behind them, except perhaps the last.
-/

namespace EventMessages.Text

/-- A character that ends a line or belongs to what ends it. -/
def isBreak (c : Char) : Bool := c == '\n' || c == '\r'

/-- A line without a break in it. -/
def Unbroken (line : List Char) : Prop := ∀ c ∈ line, isBreak c = false

instance (line : List Char) : Decidable (Unbroken line) :=
  decidable_of_iff (line.all (fun c => !isBreak c) = true) (by simp [Unbroken])

/-- The lines of a text, each without the break that ends it. -/
inductive LogicalLines : List Char → List (List Char) → Prop where
  | nil : LogicalLines [] []
  | last {line : List Char} : line ≠ [] → Unbroken line → LogicalLines line [line]
  | lf {line rest : List Char} {others : List (List Char)} :
      Unbroken line → LogicalLines rest others →
      LogicalLines (line ++ '\n' :: rest) (line :: others)
  | crlf {line rest : List Char} {others : List (List Char)} :
      Unbroken line → LogicalLines rest others →
      LogicalLines (line ++ '\r' :: '\n' :: rest) (line :: others)
  | cr {line rest : List Char} {others : List (List Char)} :
      Unbroken line → rest.head? ≠ some '\n' → LogicalLines rest others →
      LogicalLines (line ++ '\r' :: rest) (line :: others)

variable {text line rest : List Char} {others : List (List Char)}

/-- Every text has logical lines. -/
theorem exists_logicalLines (text : List Char) : ∃ others, LogicalLines text others := by
  induction hn : text.length using Nat.strongRecOn generalizing text with
  | _ n ih =>
  have hline : Unbroken (text.takeWhile fun c => !isBreak c) := fun c hc => by
    simpa using List.all_eq_true.mp List.all_takeWhile c hc
  have hstop := stop_dropWhile (fun c => !isBreak c) text
  have hcut : text.takeWhile (fun c => !isBreak c) ++ text.dropWhile (fun c => !isBreak c) = text :=
    List.takeWhile_append_dropWhile
  generalize text.takeWhile (fun c => !isBreak c) = line at hline hcut
  generalize text.dropWhile (fun c => !isBreak c) = rest at hstop hcut
  subst hcut
  simp only [List.length_append] at hn
  match rest, hstop with
  | [], _ =>
      by_cases hne : line = []
      · exact ⟨[], by simpa [hne] using .nil⟩
      · exact ⟨[line], by simpa using .last hne hline⟩
  | c :: rest, hstop =>
      have hc : isBreak c = true := by simpa using hstop c rfl
      simp only [List.length_cons] at hn
      rcases (by simpa [isBreak] using hc : c = '\n' ∨ c = '\r') with rfl | rfl
      · obtain ⟨others, h⟩ := ih rest.length (by omega) rest rfl
        exact ⟨_, .lf hline h⟩
      by_cases hlf : rest.head? = some '\n'
      · obtain ⟨rest, rfl⟩ : ∃ more, rest = '\n' :: more := by
          cases rest with
          | nil => cases hlf
          | cons d rest => exact ⟨rest, by simpa using hlf⟩
        simp only [List.length_cons] at hn
        obtain ⟨others, h⟩ := ih rest.length (by omega) rest rfl
        exact ⟨_, .crlf hline h⟩
      · obtain ⟨others, h⟩ := ih rest.length (by omega) rest rfl
        exact ⟨_, .cr hline hlf h⟩

/-! ## Breaks written as LF -/

theorem unbroken_cons {c : Char} :
    Unbroken (c :: line) ↔ (c ≠ '\n' ∧ c ≠ '\r') ∧ Unbroken line := by
  simp [Unbroken, isBreak]

theorem unifyBreaks_append (h : Unbroken line) (rest : List Char) :
    unifyBreaks (line ++ rest) = line ++ unifyBreaks rest := by
  induction line with
  | nil => rfl
  | cons c line ih =>
      obtain ⟨⟨-, hcr⟩, htail⟩ := unbroken_cons.mp h
      rw [List.cons_append, unifyBreaks, ih htail, List.cons_append]
      all_goals simp [hcr]

theorem unifyBreaks_cr (h : rest.head? ≠ some '\n') :
    unifyBreaks ('\r' :: rest) = '\n' :: unifyBreaks rest := by
  cases rest with
  | nil => rfl
  | cons c rest =>
      have hc : c ≠ '\n' := by simpa using h
      rw [unifyBreaks]
      simpa using hc

theorem lines_append_lf (h : Unbroken line) (rest : List Char) :
    lines (line ++ '\n' :: rest) = (line ++ ['\n']) :: lines rest := by
  induction line with
  | nil => simp [lines]
  | cons c line ih =>
      obtain ⟨⟨hlf, -⟩, htail⟩ := unbroken_cons.mp h
      rw [List.cons_append, lines, if_neg hlf, ih htail]
      rfl

theorem lines_of_unbroken (h : Unbroken line) (hne : line ≠ []) : lines line = [line] := by
  induction line with
  | nil => exact absurd rfl hne
  | cons c line ih =>
      obtain ⟨⟨hlf, -⟩, htail⟩ := unbroken_cons.mp h
      rw [lines, if_neg hlf]
      cases line with
      | nil => rfl
      | cons d line => rw [ih htail (by simp)]

/-- What the reader gives for a line: the line, or the line with an LF behind it. -/
def IsReadAs (read line : List Char) : Prop :=
  Unbroken line ∧ (read = line ∨ read = line ++ ['\n'])

/-- **Lines**: the reader gives the logical lines, one for one. -/
theorem LogicalLines.forall₂_lines (h : LogicalLines text others) :
    List.Forall₂ IsReadAs (lines (unifyBreaks text)) others := by
  induction h with
  | nil => exact .nil
  | @last line hne hline =>
      have hunify := unifyBreaks_append hline []
      rw [List.append_nil, unifyBreaks, List.append_nil] at hunify
      rw [hunify, lines_of_unbroken hline hne]
      exact .cons ⟨hline, Or.inl rfl⟩ .nil
  | lf hline _ ih =>
      rw [unifyBreaks_append hline, unifyBreaks, lines_append_lf hline]
      · exact .cons ⟨hline, Or.inr rfl⟩ ih
      all_goals simp
  | crlf hline _ ih =>
      rw [unifyBreaks_append hline, unifyBreaks, lines_append_lf hline]
      exact .cons ⟨hline, Or.inr rfl⟩ ih
  | cr hline hlf _ ih =>
      rw [unifyBreaks_append hline, unifyBreaks_cr hlf, lines_append_lf hline]
      exact .cons ⟨hline, Or.inr rfl⟩ ih

theorem IsReadAs.takeWhile {read : List Char} (h : IsReadAs read line) :
    read.takeWhile (fun c => !isBreak c) = line := by
  obtain ⟨hline, hread⟩ := h
  have hrun : line.all (fun c => !isBreak c) = true := by
    simpa [Unbroken] using hline
  rcases hread with rfl | rfl
  · have hstop : ∀ c ∈ ([] : List Char).head?, (!isBreak c) = false := by simp
    have hall := takeWhile_append_of_stop hrun hstop
    rwa [List.append_nil] at hall
  · have hstop : ∀ c ∈ ['\n'].head?, (!isBreak c) = false := by simp [isBreak]
    exact takeWhile_append_of_stop hrun hstop

/-- Written with LF, a text is its logical lines with an LF in front of each but the first, and
perhaps one at its end. -/
theorem LogicalLines.unifyBreaks_eq (h : LogicalLines text others) :
    ∃ ending, (ending = [] ∨ ending = ['\n']) ∧
      '\n' :: unifyBreaks text = others.flatMap (fun line => '\n' :: line) ++ ending := by
  induction h with
  | nil => exact ⟨['\n'], Or.inr rfl, rfl⟩
  | @last line _ hline =>
      have hunify := unifyBreaks_append hline []
      rw [List.append_nil, unifyBreaks, List.append_nil] at hunify
      exact ⟨[], Or.inl rfl, by simp [hunify]⟩
  | lf hline _ ih =>
      obtain ⟨ending, hending, heq⟩ := ih
      refine ⟨ending, hending, ?_⟩
      rw [unifyBreaks_append hline, unifyBreaks, heq]
      all_goals simp
  | crlf hline _ ih =>
      obtain ⟨ending, hending, heq⟩ := ih
      refine ⟨ending, hending, ?_⟩
      rw [unifyBreaks_append hline, unifyBreaks, heq]
      simp
  | cr hline hlf _ ih =>
      obtain ⟨ending, hending, heq⟩ := ih
      refine ⟨ending, hending, ?_⟩
      rw [unifyBreaks_append hline, unifyBreaks_cr hlf, heq]
      simp

/-- A text that is written line by line, each with an LF behind it. -/
theorem logicalLines_flatMap (h : ∀ line ∈ others, Unbroken line) :
    LogicalLines (others.flatMap fun line => line ++ ['\n']) others := by
  induction others with
  | nil => exact .nil
  | cons line others ih =>
      obtain ⟨hline, hothers⟩ := List.forall_mem_cons.mp h
      simpa using LogicalLines.lf hline (ih hothers)

/-- A text has one list of logical lines. -/
theorem LogicalLines.unique {others' : List (List Char)} (h : LogicalLines text others)
    (h' : LogicalLines text others') : others = others' := by
  have hunique : Relator.RightUnique IsReadAs := fun _ _ _ hb hc => by
    rw [← hb.takeWhile, ← hc.takeWhile]
  exact List.right_unique_forall₂' hunique h.forall₂_lines h'.forall₂_lines

/-- What is gathered from the lines of the reader is gathered from the logical lines, when an LF at
the end of a line makes no difference. -/
theorem LogicalLines.filterMap_lines {α : Type} {f : List Char → Option α}
    (hf : ∀ line, f (line ++ ['\n']) = f line) (h : LogicalLines text others) :
    (lines (unifyBreaks text)).filterMap f = others.filterMap f := by
  have hlines := h.forall₂_lines
  clear h
  generalize lines (unifyBreaks text) = reads at hlines
  induction hlines with
  | nil => rfl
  | @cons read line reads others hread _ ih =>
      have hline : f read = f line := by
        obtain ⟨-, rfl | rfl⟩ := hread
        · rfl
        · exact hf line
      rw [List.filterMap_cons, List.filterMap_cons, hline, ih]

end EventMessages.Text
