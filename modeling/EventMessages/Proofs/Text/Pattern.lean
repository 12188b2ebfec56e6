import Mathlib.Data.List.Basic

/-!
# EventMessages.Proofs.Text.Pattern

Patterns, and the search for one at the front of a text.

A pattern with runs and missing parts can take the front of a text in several ways. A search tries
them in a fixed order and stops at the first: a run takes as many characters as it can and then
gives them back one by one, and a part that may be missing is tried as being there before it is left
out. `Pattern.ways` lists the ways in that order, `Pattern.Spelled` states what a pattern stands for
without any order, and the two agree on which ways there are.
-/

namespace EventMessages.Text

/-! ## Runs -/

/-- A run is taken as a whole when what follows it does not go on with it. -/
theorem takeWhile_append_of_stop {isOf : Char → Bool} {run rest : List Char}
    (hrun : run.all isOf = true) (hstop : ∀ c ∈ rest.head?, isOf c = false) :
    (run ++ rest).takeWhile isOf = run := by
  rw [List.takeWhile_append_of_pos (List.all_eq_true.mp hrun)]
  cases rest with
  | nil => simp
  | cons c rest => simp [hstop c rfl]

theorem dropWhile_append_of_stop {isOf : Char → Bool} {run rest : List Char}
    (hrun : run.all isOf = true) (hstop : ∀ c ∈ rest.head?, isOf c = false) :
    (run ++ rest).dropWhile isOf = rest := by
  rw [List.dropWhile_append_of_pos (List.all_eq_true.mp hrun)]
  cases rest with
  | nil => simp
  | cons c rest => simp [hstop c rfl]

theorem stop_dropWhile (isOf : Char → Bool) (text : List Char) :
    ∀ c ∈ (text.dropWhile isOf).head?, isOf c = false := by
  intro c hc
  have h := List.head?_dropWhile_not isOf text
  rw [Option.mem_def.mp hc] at h
  simpa using h

/-! ## Patterns -/

/-- A pattern for the front of a text. -/
inductive Pattern where
  /-- These characters. -/
  | word (chars : List Char)
  /-- One character of a class. -/
  | one (isOf : Char → Bool)
  /-- Characters of a class, as many as there are, or fewer, or none. -/
  | many (isOf : Char → Bool)
  /-- One pattern and then another. -/
  | seq (first second : Pattern)
  /-- A pattern that may be missing. -/
  | optional (inner : Pattern)
  /-- A pattern whose characters are kept under a name. -/
  | group (name : String) (inner : Pattern)

namespace Pattern

/-- Characters of a class, at least one. -/
def several (isOf : Char → Bool) : Pattern := (one isOf).seq (many isOf)

/-- A way to take the front of a text. -/
structure Match where
  taken : List Char
  groups : List (String × List Char)
  rest : List Char
  deriving DecidableEq, Repr

namespace Match

/-- A way that takes nothing. -/
def stay (text : List Char) : Match := ⟨[], [], text⟩

/-- A way, with one more character in front. -/
def push (c : Char) (m : Match) : Match := { m with taken := c :: m.taken }

/-- A way, and a way to go on from its end. -/
def andThen (m n : Match) : Match := ⟨m.taken ++ n.taken, m.groups ++ n.groups, n.rest⟩

/-- A way whose characters are kept under a name. -/
def keep (name : String) (m : Match) : Match := { m with groups := (name, m.taken) :: m.groups }

end Match

/-! ## The search -/

/-- The ways to take characters of a class, the longest first. -/
def runs (isOf : Char → Bool) : List Char → List Match
  | [] => [Match.stay []]
  | c :: text =>
    if isOf c then (runs isOf text).map (Match.push c) ++ [Match.stay (c :: text)]
    else [Match.stay (c :: text)]

/-- The ways in which the pattern takes the front of the text, in the order of the search. -/
def ways : Pattern → List Char → List Match
  | word chars, text =>
    if chars.isPrefixOf text then [⟨chars, [], text.drop chars.length⟩] else []
  | one _, [] => []
  | one isOf, c :: text => if isOf c then [⟨[c], [], text⟩] else []
  | many isOf, text => runs isOf text
  | seq p q, text => (p.ways text).flatMap fun m => (q.ways m.rest).map m.andThen
  | optional p, text => p.ways text ++ [Match.stay text]
  | group name p, text => (p.ways text).map (Match.keep name)

/-- The way that the search finds. -/
def find? (p : Pattern) (text : List Char) : Option Match := (p.ways text).head?

/-! ## What a pattern stands for -/

/-- The characters spell the pattern, and these parts of them are kept. -/
def Spelled : Pattern → List Char → List (String × List Char) → Prop
  | word chars, taken, groups => taken = chars ∧ groups = []
  | one isOf, taken, groups => (∃ c, isOf c = true ∧ taken = [c]) ∧ groups = []
  | many isOf, taken, groups => taken.all isOf = true ∧ groups = []
  | seq p q, taken, groups =>
    ∃ a b g h, taken = a ++ b ∧ groups = g ++ h ∧ p.Spelled a g ∧ q.Spelled b h
  | optional p, taken, groups => p.Spelled taken groups ∨ taken = [] ∧ groups = []
  | group name p, taken, groups => ∃ inner, groups = (name, taken) :: inner ∧ p.Spelled taken inner

variable {p : Pattern} {isOf : Char → Bool} {text taken rest : List Char}
  {groups : List (String × List Char)} {m : Match}

theorem Spelled.seq {q : Pattern} {a b : List Char} {g h : List (String × List Char)}
    (hp : p.Spelled a g) (hq : q.Spelled b h) : (p.seq q).Spelled (a ++ b) (g ++ h) :=
  ⟨a, b, g, h, rfl, rfl, hp, hq⟩

theorem spelled_several :
    (several isOf).Spelled taken groups ↔ taken ≠ [] ∧ taken.all isOf = true ∧ groups = [] := by
  simp only [several, Spelled]
  constructor
  · rintro ⟨_, b, _, _, rfl, rfl, ⟨⟨c, hc, rfl⟩, rfl⟩, hb, rfl⟩
    simp [hc, hb]
  · rintro ⟨hne, hall, rfl⟩
    obtain ⟨c, b, rfl⟩ := List.exists_cons_of_ne_nil hne
    rw [List.all_cons, Bool.and_eq_true] at hall
    exact ⟨[c], b, [], [], rfl, rfl, ⟨⟨c, hall.1, rfl⟩, rfl⟩, hall.2, rfl⟩

/-! ## The search finds what the pattern stands for -/

theorem push_mem_map_push {c d : Char} {ms : List Match} :
    (⟨d :: taken, groups, rest⟩ : Match) ∈ ms.map (Match.push c) ↔
      d = c ∧ ⟨taken, groups, rest⟩ ∈ ms := by
  constructor
  · intro h
    obtain ⟨n, hn, heq⟩ := List.mem_map.mp h
    simp only [Match.push, Match.mk.injEq, List.cons.injEq] at heq
    obtain ⟨⟨rfl, rfl⟩, rfl, rfl⟩ := heq
    exact ⟨rfl, hn⟩
  · rintro ⟨rfl, hn⟩
    exact List.mem_map_of_mem hn

theorem mem_runs_iff : (⟨taken, groups, rest⟩ : Match) ∈ runs isOf text ↔
    text = taken ++ rest ∧ taken.all isOf = true ∧ groups = [] := by
  induction text generalizing taken with
  | nil =>
      simp only [runs, Match.stay, List.mem_singleton, Match.mk.injEq, List.nil_eq,
        List.append_eq_nil_iff]
      constructor
      · rintro ⟨rfl, rfl, rfl⟩
        exact ⟨⟨rfl, rfl⟩, rfl, rfl⟩
      · rintro ⟨⟨rfl, rfl⟩, -, rfl⟩
        exact ⟨rfl, rfl, rfl⟩
  | cons c text ih =>
      cases taken with
      | nil =>
          have hpush : (⟨[], groups, rest⟩ : Match) ∉ (runs isOf text).map (Match.push c) := by
            simp [Match.push]
          have hstay : (⟨[], groups, rest⟩ : Match) = Match.stay (c :: text) ↔
              c :: text = rest ∧ groups = [] := by
            simp [Match.stay, and_comm, eq_comm]
          by_cases hc : isOf c <;> simp [runs, hc, hpush, hstay]
      | cons d taken =>
          by_cases hc : isOf c
          · simp only [runs, hc, if_true, List.mem_append, List.mem_singleton, Match.stay,
              push_mem_map_push, ih, Match.mk.injEq, reduceCtorEq, false_and, or_false,
              List.cons_append, List.cons.injEq, List.all_cons, Bool.and_eq_true]
            constructor
            · rintro ⟨rfl, rfl, hall, rfl⟩
              exact ⟨⟨rfl, rfl⟩, ⟨hc, hall⟩, rfl⟩
            · rintro ⟨⟨rfl, rfl⟩, ⟨-, hall⟩, rfl⟩
              exact ⟨rfl, rfl, hall, rfl⟩
          · simp only [runs, hc, Bool.false_eq_true, if_false, List.mem_singleton, Match.stay,
              Match.mk.injEq, reduceCtorEq, false_and, List.cons_append, List.cons.injEq,
              List.all_cons, Bool.and_eq_true, false_iff]
            rintro ⟨⟨rfl, -⟩, ⟨hd, -⟩, -⟩
            exact hc hd

theorem mem_ways_word_iff {chars : List Char} :
    (⟨taken, groups, rest⟩ : Match) ∈ (word chars).ways text ↔
      text = taken ++ rest ∧ (word chars).Spelled taken groups := by
  simp only [ways, Spelled]
  split
  · next h =>
      obtain ⟨more, rfl⟩ := List.isPrefixOf_iff_prefix.mp h
      simp only [List.drop_left, List.mem_singleton, Match.mk.injEq]
      constructor
      · rintro ⟨rfl, rfl, rfl⟩
        exact ⟨rfl, rfl, rfl⟩
      · rintro ⟨heq, rfl, rfl⟩
        exact ⟨rfl, rfl, (List.append_cancel_left heq).symm⟩
  · next h =>
      simp only [List.not_mem_nil, false_iff]
      rintro ⟨rfl, rfl, -⟩
      exact h (List.isPrefixOf_iff_prefix.mpr (List.prefix_append _ _))

theorem mem_ways_one_iff : (⟨taken, groups, rest⟩ : Match) ∈ (one isOf).ways text ↔
    text = taken ++ rest ∧ (one isOf).Spelled taken groups := by
  constructor
  · intro h
    cases text with
    | nil => cases h
    | cons c text =>
        simp only [ways] at h
        split at h
        · next hc =>
            simp only [List.mem_singleton, Match.mk.injEq] at h
            obtain ⟨rfl, rfl, rfl⟩ := h
            exact ⟨rfl, ⟨c, hc, rfl⟩, rfl⟩
        · cases h
  · rintro ⟨rfl, ⟨c, hc, rfl⟩, rfl⟩
    simp [ways, hc]

/-- **The search is complete and sound**: its ways are the fronts of the text that spell the
pattern. -/
theorem mem_ways_iff : (⟨taken, groups, rest⟩ : Match) ∈ p.ways text ↔
    text = taken ++ rest ∧ p.Spelled taken groups := by
  induction p generalizing text taken groups rest with
  | word chars => exact mem_ways_word_iff
  | one isOf => exact mem_ways_one_iff
  | many isOf => exact mem_runs_iff
  | seq p q ihp ihq =>
      simp only [ways, Spelled, List.mem_flatMap, List.mem_map]
      constructor
      · rintro ⟨⟨a, g, more⟩, hm, ⟨b, h, last⟩, hn, heq⟩
        simp only [Match.andThen, Match.mk.injEq] at heq
        obtain ⟨rfl, rfl, rfl⟩ := heq
        obtain ⟨rfl, hp⟩ := ihp.mp hm
        obtain ⟨rfl, hq⟩ := ihq.mp hn
        exact ⟨(List.append_assoc a b last).symm, a, b, g, h, rfl, rfl, hp, hq⟩
      · rintro ⟨rfl, a, b, g, h, rfl, rfl, hp, hq⟩
        exact ⟨⟨a, g, b ++ rest⟩, ihp.mpr ⟨List.append_assoc a b rest, hp⟩, ⟨b, h, rest⟩,
          ihq.mpr ⟨rfl, hq⟩, rfl⟩
  | optional p ih =>
      simp only [ways, Spelled, List.mem_append, List.mem_singleton, ih, Match.stay, Match.mk.injEq]
      constructor
      · rintro (⟨rfl, hp⟩ | ⟨rfl, rfl, rfl⟩)
        · exact ⟨rfl, Or.inl hp⟩
        · exact ⟨rfl, Or.inr ⟨rfl, rfl⟩⟩
      · rintro ⟨rfl, hp | ⟨rfl, rfl⟩⟩
        · exact Or.inl ⟨rfl, hp⟩
        · exact Or.inr ⟨rfl, rfl, rfl⟩
  | group name p ih =>
      simp only [ways, Spelled, List.mem_map]
      constructor
      · rintro ⟨⟨a, g, last⟩, hm, heq⟩
        simp only [Match.keep, Match.mk.injEq] at heq
        obtain ⟨rfl, rfl, rfl⟩ := heq
        obtain ⟨rfl, hp⟩ := ih.mp hm
        exact ⟨rfl, g, rfl, hp⟩
      · rintro ⟨rfl, inner, rfl, hp⟩
        exact ⟨⟨taken, inner, rest⟩, ih.mpr ⟨rfl, hp⟩, rfl⟩

/-- A search that finds nothing shows that no front of the text spells the pattern. -/
theorem find?_eq_none_iff :
    p.find? text = none ↔ ∀ taken groups rest, text = taken ++ rest → ¬ p.Spelled taken groups := by
  rw [find?, List.head?_eq_none_iff, List.eq_nil_iff_forall_not_mem]
  constructor
  · intro h taken groups rest heq hp
    exact h ⟨taken, groups, rest⟩ (mem_ways_iff.mpr ⟨heq, hp⟩)
  · rintro h ⟨taken, groups, rest⟩ hm
    obtain ⟨heq, hp⟩ := mem_ways_iff.mp hm
    exact h taken groups rest heq hp

/-! ## The run at the end -/

/-- The class of the run that ends a pattern. -/
def lastRun? : Pattern → Option (Char → Bool)
  | many isOf => some isOf
  | seq _ q => q.lastRun?
  | group _ p => p.lastRun?
  | _ => none

theorem head?_runs (isOf : Char → Bool) (text : List Char) :
    (runs isOf text).head? =
      some ⟨text.takeWhile isOf, [], text.dropWhile isOf⟩ := by
  induction text with
  | nil => rfl
  | cons c text ih =>
      by_cases hc : isOf c
      · simp [runs, hc, ih, Match.push]
      · simp [runs, hc, Match.stay]

/-- The search does not stop before the last run has taken all that it can. -/
theorem head?_rest_of_lastRun? (hp : p.lastRun? = some isOf)
    (h : p.find? text = some m) : ∀ c ∈ m.rest.head?, isOf c = false := by
  induction p generalizing text m with
  | word chars => cases hp
  | one isOf => cases hp
  | optional p ih => cases hp
  | many isOf =>
      cases hp
      rw [find?, ways, head?_runs] at h
      cases h
      exact stop_dropWhile isOf text
  | seq p q ihp ihq =>
      rw [find?, ways, List.head?_flatMap] at h
      obtain ⟨a, -, ha⟩ := List.exists_of_findSome?_eq_some h
      rw [List.head?_map, Option.map_eq_some_iff] at ha
      obtain ⟨n, hn, rfl⟩ := ha
      exact ihq (m := n) hp hn
  | group name p ih =>
      rw [find?, ways, List.head?_map, Option.map_eq_some_iff] at h
      obtain ⟨n, hn, rfl⟩ := h
      exact ih (m := n) hp hn

end Pattern

end EventMessages.Text
