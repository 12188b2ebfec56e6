import EventMessages.Yaml.Scalar.Quoted

/-!
# EventMessages.Proofs.Yaml.Quoted

Single quotes, read back. A text on one line that is written between single quotes is read as it
was, whatever blanks, quotes and marks of the format it holds: only a line break would be folded,
and only a quote that is not doubled ends the scalar (`scanSingle_doubleQuotes`).
-/

namespace EventMessages.Yaml.Quoted

variable {text rest : List Char} {c : Char}

theorem doubleQuotes_cons_quote (text : List Char) :
    doubleQuotes ('\'' :: text) = '\'' :: '\'' :: doubleQuotes text := by
  rw [doubleQuotes, if_pos rfl]

theorem doubleQuotes_cons_of_ne (h : c ≠ '\'') (text : List Char) :
    doubleQuotes (c :: text) = c :: doubleQuotes text := by
  rw [doubleQuotes, if_neg h]

/-- Doubling quotes brings no other character in. -/
theorem mem_doubleQuotes_iff : c ∈ doubleQuotes text ↔ c ∈ text := by
  induction text with
  | nil => rfl
  | cons d text ih =>
      by_cases hd : d = '\''
      · subst hd
        simp [doubleQuotes_cons_quote, ih]
      · simp [doubleQuotes_cons_of_ne hd, ih]

theorem length_le_length_doubleQuotes (text : List Char) :
    text.length ≤ (doubleQuotes text).length := by
  induction text with
  | nil => exact Nat.le_refl _
  | cons c text ih =>
      rw [doubleQuotes]
      split <;> simp only [List.length_cons] <;> omega

/-- White space that comes to a quote before it comes to a break leads to no break. -/
theorem leadsToBreak_append_quote (h : ∀ c ∈ text, isBreak c = false) (rest : List Char) :
    leadsToBreak (text ++ '\'' :: rest) = false := by
  induction text with
  | nil => rfl
  | cons c text ih =>
      obtain ⟨hc, htext⟩ := List.forall_mem_cons.mp h
      rw [List.cons_append, leadsToBreak, hc, ih htext, Bool.and_false, Bool.or_false]

theorem leadsToBreak_doubleQuotes (h : ∀ c ∈ text, isBreak c = false) (rest : List Char) :
    leadsToBreak (doubleQuotes text ++ '\'' :: rest) = false :=
  leadsToBreak_append_quote (fun c hc => h c (mem_doubleQuotes_iff.mp hc)) rest

theorem scanSingleUpTo_quote_quote (n : Nat) (rest : List Char) :
    scanSingleUpTo (n + 1) ('\'' :: '\'' :: rest) = prepend ['\''] (scanSingleUpTo n rest) := by
  simp [scanSingleUpTo]

theorem scanSingleUpTo_quote (n : Nat) (h : rest.head? ≠ some '\'') :
    scanSingleUpTo (n + 1) ('\'' :: rest) = .ok ([], rest) := by
  cases rest with
  | nil => simp [scanSingleUpTo]
  | cons d rest =>
      have hd : d ≠ '\'' := by simpa using h
      simp [scanSingleUpTo, hd]

theorem scanSingleUpTo_of_ne {n : Nat} (hc : c ≠ '\'') (hbreak : leadsToBreak (c :: rest) = false) :
    scanSingleUpTo (n + 1) (c :: rest) = prepend [c] (scanSingleUpTo n rest) := by
  simp [scanSingleUpTo, hc, hbreak]

theorem scanSingleUpTo_doubleQuotes {n : Nat} (hn : text.length < n)
    (htext : ∀ c ∈ text, isBreak c = false) (hrest : rest.head? ≠ some '\'') :
    scanSingleUpTo n (doubleQuotes text ++ '\'' :: rest) = .ok (text, rest) := by
  induction text generalizing n with
  | nil =>
      obtain ⟨n, rfl⟩ := Nat.exists_eq_add_of_lt hn
      exact scanSingleUpTo_quote _ hrest
  | cons c text ih =>
      obtain ⟨n, rfl⟩ : ∃ m, n = m + 1 := ⟨n - 1, by omega⟩
      have hread := ih (Nat.lt_of_succ_lt_succ hn) (List.forall_mem_cons.mp htext).2
      have hbreak := leadsToBreak_doubleQuotes htext rest
      by_cases hc : c = '\''
      · rw [hc, doubleQuotes_cons_quote, List.cons_append, List.cons_append,
          scanSingleUpTo_quote_quote, hread]
        rfl
      · rw [doubleQuotes_cons_of_ne hc, List.cons_append] at hbreak ⊢
        rw [scanSingleUpTo_of_ne hc hbreak, hread]
        rfl

/-- **Single quotes**: what is written between them is read back. -/
theorem scanSingle_doubleQuotes (htext : ∀ c ∈ text, isBreak c = false)
    (hrest : rest.head? ≠ some '\'') :
    scanSingle (doubleQuotes text ++ '\'' :: rest) = .ok (text, rest) := by
  refine scanSingleUpTo_doubleQuotes ?_ htext hrest
  have hle := length_le_length_doubleQuotes text
  simp only [List.length_append, List.length_cons]
  omega

end EventMessages.Yaml.Quoted
