import EventMessages.Header.Constant

/-!
# EventMessages.Proofs.Header.Laziness

How many lines of a header are pulled for some of its constants.

One constant takes the lines up to the first that defines one (`Constant.next?_eq_some_iff`). So `k`
constants take the lines up to the `k`-th that defines one, whatever lines follow
(`Constant.Reaches.take`), and only a reader that asks for more constants than there are gets to the
end of the lines. What is left can be read on from as if nothing had been read before.
-/

namespace EventMessages.Constant

variable {lines front rest pulled : List (List Char)} {line : List Char} {c : Constant} {k : Nat}

/-! ## One constant -/

theorem ofLines_eq_nil_iff : ofLines lines = [] ↔ ∀ line ∈ lines, ofLine? line = none := by
  rw [ofLines, List.filterMap_eq_nil_iff]

/-- A constant behind lines that define none is the first one. -/
theorem ofLines_append_cons (hfront : ∀ line ∈ front, ofLine? line = none)
    (hline : ofLine? line = some c) (rest : List (List Char)) :
    ofLines (front ++ line :: rest) = c :: ofLines rest := by
  rw [ofLines_append, ofLines_eq_nil_iff.mpr hfront, List.nil_append, ofLines,
    List.filterMap_cons_some hline, ofLines]

theorem next?_append_cons (hfront : ∀ line ∈ front, ofLine? line = none)
    (hline : ofLine? line = some c) (rest : List (List Char)) :
    next? (front ++ line :: rest) = some (c, rest) := by
  induction front with
  | nil => rw [List.nil_append, next?, hline]
  | cons head front ih =>
      obtain ⟨hhead, hfront⟩ := List.forall_mem_cons.mp hfront
      rw [List.cons_append, next?, hhead]
      exact ih hfront

/-- **One constant** is that of the first line that defines one, and the lines behind that line are
left. -/
theorem next?_eq_some_iff : next? lines = some (c, rest) ↔
    ∃ front line, lines = front ++ line :: rest ∧ (∀ line ∈ front, ofLine? line = none) ∧
      ofLine? line = some c := by
  constructor
  · intro h
    induction lines with
    | nil => cases h
    | cons head lines ih =>
        rw [next?] at h
        cases hhead : ofLine? head with
        | some found =>
            simp only [hhead, Option.some.injEq, Prod.mk.injEq] at h
            obtain ⟨rfl, rfl⟩ := h
            exact ⟨[], head, rfl, by simp, hhead⟩
        | none =>
            simp only [hhead] at h
            obtain ⟨front, line, rfl, hfront, hline⟩ := ih h
            exact ⟨head :: front, line, rfl, List.forall_mem_cons.mpr ⟨hhead, hfront⟩, hline⟩
  · rintro ⟨front, line, rfl, hfront, hline⟩
    exact next?_append_cons hfront hline rest

theorem next?_eq_none_iff : next? lines = none ↔ ofLines lines = [] := by
  constructor
  · intro h
    induction lines with
    | nil => rfl
    | cons head lines ih =>
        rw [next?] at h
        cases hhead : ofLine? head with
        | some found => simp [hhead] at h
        | none =>
            simp only [hhead] at h
            rw [ofLines, List.filterMap_cons_none hhead]
            exact ih h
  · intro h
    cases hn : next? lines with
    | none => rfl
    | some found =>
        obtain ⟨front, line, rfl, hfront, hline⟩ := next?_eq_some_iff.mp hn
        rw [ofLines_append_cons hfront hline] at h
        cases h

/-! ## Several constants -/

/-- These are the lines up to the one with the `k`-th constant. No constant takes no line. -/
inductive Reaches : Nat → List (List Char) → Prop where
  | start : Reaches 0 []
  | define {k : Nat} {front pulled : List (List Char)} {line : List Char} {c : Constant} :
      (∀ line ∈ front, ofLine? line = none) → ofLine? line = some c → Reaches k pulled →
      Reaches (k + 1) (front ++ line :: pulled)

theorem Reaches.length (h : Reaches k pulled) : (ofLines pulled).length = k := by
  induction h with
  | start => rfl
  | define hfront hline _ ih => rw [ofLines_append_cons hfront hline, List.length_cons, ih]

/-- The last line that is pulled defines the last constant. -/
theorem Reaches.exists_last (h : Reaches (k + 1) pulled) :
    ∃ front line c, pulled = front ++ [line] ∧ ofLine? line = some c ∧
      (ofLines front).length = k := by
  induction k generalizing pulled with
  | zero =>
      cases h with
      | define hfront hline hrest =>
          cases hrest
          exact ⟨_, _, _, rfl, hline, by rw [ofLines_eq_nil_iff.mpr hfront, List.length_nil]⟩
  | succ k ih =>
      cases h with
      | @define _ front pulled line c hfront hline hrest =>
          obtain ⟨before, last, found, rfl, hlast, hlength⟩ := ih hrest
          exact ⟨front ++ line :: before, last, found, by simp, hlast,
            by rw [ofLines_append_cons hfront hline, List.length_cons, hlength]⟩

/-- **Several constants** take the lines that reach them and leave the others, whatever these are.
-/
theorem Reaches.take (h : Reaches k pulled) (rest : List (List Char)) :
    take k (pulled ++ rest) = (ofLines pulled, rest) := by
  induction h with
  | start => rfl
  | define hfront hline _ ih =>
      rw [List.append_assoc, List.cons_append, Constant.take, next?_append_cons hfront hline,
        ofLines_append_cons hfront hline]
      simp only [ih]

/-- Lines with enough constants reach them. -/
theorem exists_reaches (h : k ≤ (ofLines lines).length) :
    ∃ pulled rest, lines = pulled ++ rest ∧ Reaches k pulled := by
  induction k generalizing lines with
  | zero => exact ⟨[], lines, rfl, .start⟩
  | succ k ih =>
      cases hn : next? lines with
      | none =>
          rw [next?_eq_none_iff.mp hn] at h
          cases h
      | some found =>
          obtain ⟨front, line, rfl, hfront, hline⟩ := next?_eq_some_iff.mp hn
          rw [ofLines_append_cons hfront hline, List.length_cons] at h
          obtain ⟨pulled, rest, hcut, hreach⟩ := ih (Nat.le_of_succ_le_succ h)
          exact ⟨front ++ line :: pulled, rest, by rw [hcut]; simp, .define hfront hline hreach⟩

/-- A reader that asks for more constants than there are gets to the end. -/
theorem take_of_length_lt (h : (ofLines lines).length < k) :
    take k lines = (ofLines lines, []) := by
  induction k generalizing lines with
  | zero => cases h
  | succ k ih =>
      rw [take]
      cases hn : next? lines with
      | none => rw [next?_eq_none_iff.mp hn]
      | some found =>
          obtain ⟨front, line, rfl, hfront, hline⟩ := next?_eq_some_iff.mp hn
          rw [ofLines_append_cons hfront hline, List.length_cons] at h
          rw [ofLines_append_cons hfront hline]
          simp only [ih (Nat.lt_of_succ_lt_succ h)]

/-- What a reader gets are the constants of the lines that it pulls: those that reach the last of
the constants it asked for, or all lines. -/
theorem exists_pulled (k : Nat) (lines : List (List Char)) :
    ∃ pulled, lines = pulled ++ (take k lines).2 ∧ (take k lines).1 = ofLines pulled ∧
      (Reaches k pulled ∨ pulled = lines ∧ (ofLines lines).length < k) := by
  obtain hlt | hle := Nat.lt_or_ge (ofLines lines).length k
  · exact ⟨lines, by rw [take_of_length_lt hlt, List.append_nil], by rw [take_of_length_lt hlt],
      Or.inr ⟨rfl, hlt⟩⟩
  · obtain ⟨pulled, rest, rfl, hreach⟩ := exists_reaches hle
    exact ⟨pulled, by rw [hreach.take], by rw [hreach.take], Or.inl hreach⟩

/-! ## Reading on -/

theorem take_nil (k : Nat) : take k [] = ([], []) := by
  cases k <;> rfl

/-- To take more constants is to go on with the lines that are left. -/
theorem take_add (k more : Nat) (lines : List (List Char)) : take (k + more) lines =
    ((take k lines).1 ++ (take more (take k lines).2).1, (take more (take k lines).2).2) := by
  induction k generalizing lines with
  | zero => rw [Nat.zero_add, take, List.nil_append]
  | succ k ih =>
      rw [Nat.succ_add, take, take]
      cases next? lines with
      | none => simp only [take_nil, List.nil_append]
      | some found => simp only [ih, List.cons_append]

/-- **Laziness**: a reader that asks for `k` constants gets the first `k` of the constants, or all
of them. It pulls no line for none, the lines up to and including the `k`-th that defines one when
there are that many, and all lines otherwise; other lines behind those that it pulled would have
made no difference. Another reader can go on with the lines that are left, and both together get
what one reader would have got. -/
theorem take_pulls (lines : List (List Char)) (k : Nat) :
    (take k lines).1 = (ofLines lines).take k ∧
    (take k lines).1.length = min k (ofLines lines).length ∧
    (∃ pulled, lines = pulled ++ (take k lines).2 ∧
      (k = 0 → pulled = []) ∧
      (1 ≤ k → k ≤ (ofLines lines).length → ∃ front line c, pulled = front ++ [line] ∧
        ofLine? line = some c ∧ (ofLines front).length + 1 = k) ∧
      ((ofLines lines).length < k → pulled = lines) ∧
      (k ≤ (ofLines lines).length → ∀ others, take k (pulled ++ others) =
        ((take k lines).1, others))) ∧
    (∀ more, take (k + more) lines =
      ((take k lines).1 ++ (take more (take k lines).2).1, (take more (take k lines).2).2)) ∧
    (take k lines).1 ++ ofLines (take k lines).2 = ofLines lines := by
  obtain ⟨pulled, hcut, hyields, hstop⟩ := exists_pulled k lines
  have hall : ofLines pulled ++ ofLines (take k lines).2 = ofLines lines := by
    rw [← ofLines_append, ← hcut]
  have hfirst : ofLines pulled = (ofLines lines).take k := by
    obtain hreach | ⟨rfl, hlt⟩ := hstop
    · rw [← hall, List.take_left' hreach.length]
    · rw [List.take_of_length_le (Nat.le_of_lt hlt)]
  rw [hyields]
  refine ⟨hfirst, by rw [hfirst, List.length_take], ⟨pulled, hcut, ?_, ?_, ?_, ?_⟩,
    fun more => hyields ▸ take_add k more lines, hall⟩
  · rintro rfl
    obtain hreach | ⟨-, hlt⟩ := hstop
    · cases hreach
      rfl
    · cases hlt
  · intro hpos hle
    obtain ⟨k, rfl⟩ := Nat.exists_eq_add_of_le' hpos
    obtain hreach | ⟨-, hlt⟩ := hstop
    · obtain ⟨front, line, c, hpulled, hline, hlength⟩ := hreach.exists_last
      exact ⟨front, line, c, hpulled, hline, congrArg (· + 1) hlength⟩
    · exact absurd hle (Nat.not_le_of_lt hlt)
  · intro hlt
    obtain hreach | ⟨hpulled, -⟩ := hstop
    · -- the lines that reach a constant are lines with that many
      have hlength := congrArg List.length hall
      rw [List.length_append, hreach.length] at hlength
      omega
    · exact hpulled
  · intro hle others
    obtain hreach | ⟨-, hlt⟩ := hstop
    · exact hreach.take others
    · exact absurd hle (Nat.not_le_of_lt hlt)

/-- A header with a comment between two definitions. -/
def commentedLines : List (List Char) :=
  ["#define A 0x3".toList, "// noise".toList, "#define B 0x1".toList]

/-- One constant takes the first line, whatever comes behind it, and another reader gets the second
constant. -/
theorem take_pulls_commentedLines :
    1 ≤ (ofLines commentedLines).length ∧
    take 1 ["#define A 0x3".toList, "#define C 0x2".toList] =
      ([⟨"A", "0x3"⟩], ["#define C 0x2".toList]) ∧
    take 2 commentedLines = ([⟨"A", "0x3"⟩, ⟨"B", "0x1"⟩], []) := by
  have henough : 1 ≤ (ofLines commentedLines).length := by decide
  have hone : take 1 commentedLines =
      ([⟨"A", "0x3"⟩], ["// noise".toList, "#define B 0x1".toList]) := by decide
  have hmore : take 1 ["// noise".toList, "#define B 0x1".toList] = ([⟨"B", "0x1"⟩], []) := by
    decide
  obtain ⟨-, -, ⟨pulled, hcut, -, -, -, hothers⟩, hadd, -⟩ := take_pulls commentedLines 1
  have hpulled : ["#define A 0x3".toList] = pulled :=
    List.append_cancel_right (hcut.trans (congrArg (fun taken => pulled ++ taken.2) hone))
  subst hpulled
  refine ⟨henough, ?_, ?_⟩
  · rw [hone] at hothers
    exact hothers henough ["#define C 0x2".toList]
  · rw [hadd 1, hone, hmore]
    rfl

end EventMessages.Constant
