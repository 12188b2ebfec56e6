import EventMessages.Header.Constant
import EventMessages.Proofs.Text.Pattern

/-!
# EventMessages.Proofs.Header.Define

The reader of definitions against its grammar and against its pattern.

The pattern of a definition has five runs and missing parts in a row, and the classes of neighbours
overlap: blanks may stand in the gap or before the value, a parenthesis may be the outer one or open
the cast. The reader never gives anything back. It is enough that it reads every line that the
grammar allows, and reads it in the one way in which the grammar allows it: what a search for the
pattern finds is one of these ways, so it is what the reader finds.
-/

namespace EventMessages

open Text

namespace Define

variable {line text more cast value rest : List Char} {cast? : Option (List Char)} {d : Define}

/-! ## Classes of characters -/

theorem isBlank_eq_false_of_isLetter {c : Char} (h : isLetter c = true) : isBlank c = false := by
  have hn : 65 ≤ c.toNat ∧ c.toNat ≤ 122 := by
    simp only [isLetter, Bool.or_eq_true, Bool.and_eq_true, decide_eq_true_eq, Char.le_def,
      UInt32.le_iff_toNat_le, Char.reduceVal, UInt32.reduceToNat] at h
    simp only [Char.toNat]
    omega
  simp [isBlank]
  omega

/-! ## The readers -/

theorem after?_eq_some_iff {start : List Char} :
    after? start text = some rest ↔ text = start ++ rest := by
  induction start generalizing text with
  | nil => simp [after?]
  | cons c start ih =>
      cases text with
      | nil => simp [after?]
      | cons e text => by_cases h : c = e <;> simp [after?, h, ih, eq_comm]

/-- The value may follow blanks, and it is not cut short. -/
def Valued (text value rest : List Char) : Prop :=
  ∃ blanks, text = blanks ++ (value ++ rest) ∧ allBlank blanks = true ∧ IsValue value ∧
    ∀ c ∈ rest.head?, isHexDigit c = false

theorem skipBlanks_append {blanks : List Char} (h : allBlank blanks = true) (text : List Char) :
    skipBlanks (blanks ++ text) = skipBlanks text := by
  rw [skipBlanks, skipBlanks, List.dropWhile_append_of_pos (List.all_eq_true.mp h)]

theorem readValue?_eq_some_iff :
    readValue? text = some (value, rest) ↔ Valued text value rest := by
  constructor
  · intro h
    obtain ⟨blanks, hblanks, htext⟩ := exists_append_skipBlanks text
    unfold readValue? at h
    split at h
    · next more hskip =>
        split at h
        · cases h
        · next hne =>
            simp only [Option.some.injEq, Prod.mk.injEq] at h
            obtain ⟨rfl, rfl⟩ := h
            have hcut : more.takeWhile isHexDigit ++ more.dropWhile isHexDigit = more :=
              List.takeWhile_append_dropWhile
            refine ⟨blanks, ?_, hblanks, ⟨_, hne, List.all_takeWhile, rfl⟩, ?_⟩
            · rw [← htext, hskip]
              simp [hcut]
            · exact stop_dropWhile isHexDigit more
    · cases h
  · rintro ⟨blanks, rfl, hblanks, ⟨digits, hne, hdigits, rfl⟩, hstop⟩
    have hskip : skipBlanks (blanks ++ ('0' :: 'x' :: digits ++ rest)) =
        '0' :: 'x' :: (digits ++ rest) := by
      rw [skipBlanks_append hblanks]
      rfl
    unfold readValue?
    rw [hskip]
    simp only [takeWhile_append_of_stop hdigits hstop, dropWhile_append_of_stop hdigits hstop]

theorem readCast?_eq_some_iff :
    readCast? text = some (cast, rest) ↔ text = cast ++ rest ∧ IsCast cast := by
  constructor
  · intro h
    unfold readCast? at h
    split at h
    · next more =>
        split at h
        · cases h
        · next tail htail hne =>
            simp only [Option.some.injEq, Prod.mk.injEq] at h
            obtain ⟨rfl, rfl⟩ := h
            have hcut : more.takeWhile isLetter ++ ')' :: tail = more := by
              rw [← htail]
              exact List.takeWhile_append_dropWhile
            refine ⟨?_, _, hne, List.all_takeWhile, rfl⟩
            simp [hcut]
        · cases h
    · cases h
  · rintro ⟨rfl, letters, hne, hletters, rfl⟩
    have hstop : ∀ c ∈ (')' :: rest).head?, isLetter c = false := by simp; decide
    have hmore : '(' :: letters ++ [')'] ++ rest = '(' :: (letters ++ ')' :: rest) := by simp
    rw [hmore]
    unfold readCast?
    simp only [takeWhile_append_of_stop hletters hstop, dropWhile_append_of_stop hletters hstop]

/-- A value starts with a blank or with its zero. -/
theorem Valued.head? (h : Valued text value rest) :
    ∀ c ∈ text.head?, isBlank c = true ∨ c = '0' := by
  obtain ⟨blanks, rfl, hblanks, ⟨digits, -, -, rfl⟩, -⟩ := h
  cases blanks with
  | nil => simp
  | cons c blanks =>
      have hc : isBlank c = true := List.all_eq_true.mp hblanks c (by simp)
      simp [hc]

theorem readCastValue?_eq_some_iff : readCastValue? text = some (cast?, value, rest) ↔
    ∃ cast more, cast? = some cast ∧ text = cast ++ more ∧ IsCast cast ∧
      Valued more value rest := by
  simp only [readCastValue?, Option.bind_eq_bind, Option.bind_eq_some_iff, Prod.exists,
    readCast?_eq_some_iff, readValue?_eq_some_iff, Option.pure_def, Option.some.injEq,
    Prod.mk.injEq]
  constructor
  · rintro ⟨cast, more, ⟨htext, hcast⟩, v, r, hvalued, rfl, rfl, rfl⟩
    exact ⟨cast, more, rfl, htext, hcast, hvalued⟩
  · rintro ⟨cast, more, rfl, htext, hcast, hvalued⟩
    exact ⟨cast, more, ⟨htext, hcast⟩, value, rest, hvalued, rfl, rfl, rfl⟩

theorem readBareValue?_eq_some_iff : readBareValue? text = some (cast?, value, rest) ↔
    cast? = none ∧ Valued text value rest := by
  simp only [readBareValue?, Option.bind_eq_bind, Option.bind_eq_some_iff, Prod.exists,
    readValue?_eq_some_iff, Option.pure_def, Option.some.injEq, Prod.mk.injEq]
  constructor
  · rintro ⟨v, r, hvalued, rfl, rfl, rfl⟩
    exact ⟨rfl, hvalued⟩
  · rintro ⟨rfl, hvalued⟩
    exact ⟨value, rest, hvalued, rfl, rfl, rfl⟩

/-- A value with or without a cast before it. -/
def Inner (text : List Char) (cast? : Option (List Char)) (value rest : List Char) : Prop :=
  ∃ more, text = cast?.getD [] ++ more ∧ (∀ cast ∈ cast?, IsCast cast) ∧ Valued more value rest

theorem Inner.not_isLetter (h : Inner text cast? value rest) :
    ∀ c ∈ text.head?, isLetter c = false := by
  obtain ⟨more, rfl, hcast, hvalued⟩ := h
  intro c hc
  cases cast? with
  | none =>
      rcases hvalued.head? c hc with hblank | rfl
      · by_contra hletter
        have hno := isBlank_eq_false_of_isLetter (Bool.not_eq_false _ ▸ hletter)
        simp [hno] at hblank
      · decide
  | some cast =>
      obtain ⟨letters, -, -, rfl⟩ := hcast cast rfl
      obtain rfl : '(' = c := by simpa using hc
      decide

/-- Behind the parenthesis of a cast there is a letter, so that parenthesis is not an outer one. -/
theorem Inner.cons_letter (h : Inner ('(' :: text) cast? value rest) :
    ∃ c ∈ text.head?, isLetter c = true := by
  obtain ⟨more, htext, hcast, hvalued⟩ := h
  cases cast? with
  | none =>
      obtain rfl : '(' :: text = more := htext
      exact absurd (hvalued.head? '(' rfl) (by decide)
  | some cast =>
      obtain ⟨letters, hne, hletters, rfl⟩ := hcast cast rfl
      obtain ⟨c, letters, rfl⟩ := List.exists_cons_of_ne_nil hne
      obtain rfl : text = c :: (letters ++ [')'] ++ more) := by simpa using htext
      exact ⟨c, rfl, List.all_eq_true.mp hletters c (by simp)⟩

theorem readInner_eq_some_iff :
    (readCastValue? text).or (readBareValue? text) = some (cast?, value, rest) ↔
      Inner text cast? value rest := by
  rw [Option.or_eq_some_iff, readCastValue?_eq_some_iff, readBareValue?_eq_some_iff]
  constructor
  · rintro (⟨cast, more, rfl, rfl, hcast, hvalued⟩ | ⟨-, rfl, hvalued⟩)
    · exact ⟨more, rfl, by simpa using hcast, hvalued⟩
    · exact ⟨text, rfl, by simp, hvalued⟩
  · rintro ⟨more, rfl, hcast, hvalued⟩
    cases cast? with
    | some cast => exact Or.inl ⟨cast, more, rfl, rfl, hcast cast rfl, hvalued⟩
    | none =>
        refine Or.inr ⟨?_, rfl, hvalued⟩
        -- a cast would start with a parenthesis, and a value does not
        rw [Option.eq_none_iff_forall_ne_some]
        rintro ⟨c?, v, r⟩ hread
        obtain ⟨cast, behind, -, hcut, ⟨letters, -, -, rfl⟩, -⟩ :=
          readCastValue?_eq_some_iff.mp hread
        obtain rfl : more = '(' :: (letters ++ [')'] ++ behind) := hcut
        exact absurd (hvalued.head? '(' rfl) (by decide)

/-- What may stand between the gap and the end of the value. -/
def Body (text : List Char) (cast? : Option (List Char)) (value rest : List Char) : Prop :=
  ∃ paren inner, text = paren ++ inner ∧ (paren = [] ∨ paren = ['(']) ∧
    Inner inner cast? value rest

theorem readBody?_eq_some_iff :
    readBody? text = some (cast?, value, rest) ↔ Body text cast? value rest := by
  unfold readBody?
  constructor
  · intro h
    split at h
    · next more =>
        rcases Option.or_eq_some_iff.mp h with h | ⟨-, h⟩
        · exact ⟨['('], more, rfl, Or.inr rfl, readInner_eq_some_iff.mp h⟩
        · exact ⟨[], '(' :: more, rfl, Or.inl rfl, readInner_eq_some_iff.mp h⟩
    · exact ⟨[], text, rfl, Or.inl rfl, readInner_eq_some_iff.mp h⟩
  · rintro ⟨paren, inner, rfl, rfl | rfl, hinner⟩
    · rw [List.nil_append]
      split
      · next more =>
          refine Option.or_eq_some_iff.mpr (Or.inr ⟨?_, readInner_eq_some_iff.mpr hinner⟩)
          rw [Option.eq_none_iff_forall_ne_some]
          rintro ⟨c?, v, r⟩ hread
          obtain ⟨c, hc, hletter⟩ := hinner.cons_letter
          have hno := (readInner_eq_some_iff.mp hread).not_isLetter c hc
          simp [hletter] at hno
      · exact readInner_eq_some_iff.mpr hinner
    · exact Option.or_eq_some_iff.mpr (Or.inl (readInner_eq_some_iff.mpr hinner))

/-- Blanks before the body belong to the gap. -/
theorem Body.skipBlanks (h : Body text cast? value rest) :
    Body (skipBlanks text) cast? value rest := by
  obtain ⟨paren, inner, rfl, rfl | rfl, hinner⟩ := h
  · obtain ⟨more, rfl, hcast, hvalued⟩ := hinner
    cases cast? with
    | some cast =>
        obtain ⟨letters, -, -, rfl⟩ := hcast cast rfl
        exact ⟨[], _, rfl, Or.inl rfl, more, rfl, hcast, hvalued⟩
    | none =>
        obtain ⟨blanks, rfl, hblanks, hvalue, hstop⟩ := hvalued
        refine ⟨[], _, rfl, Or.inl rfl, value ++ rest, ?_, hcast, [], rfl, rfl, hvalue, hstop⟩
        obtain ⟨digits, -, -, rfl⟩ := hvalue
        exact skipBlanks_append hblanks _
  · exact ⟨['('], inner, rfl, Or.inr rfl, hinner⟩

/-! ## Lines -/

theorem spells_iff : Spells line d ↔ ∃ gap body, line = keyword ++ (d.name ++ (gap ++ body)) ∧
    (d.name ≠ [] ∧ ∀ c ∈ d.name, isBlank c = false) ∧ (gap ≠ [] ∧ allBlank gap = true) ∧
    Body body d.cast? d.value d.rest := by
  constructor
  · rintro ⟨gap, paren, blanks, rfl, hname, hgap, hparen, hcast, hblanks, hvalue, hstop⟩
    exact ⟨gap, paren ++ (d.cast?.getD [] ++ (blanks ++ (d.value ++ d.rest))), by simp, hname, hgap,
      paren, _, rfl, hparen, _, rfl, hcast, blanks, rfl, hblanks, hvalue, hstop⟩
  · rintro ⟨gap, _, rfl, hname, hgap, paren, _, rfl, hparen, _, rfl, hcast, blanks, rfl, hblanks,
      hvalue, hstop⟩
    exact ⟨gap, paren, blanks, by simp, hname, hgap, hparen, hcast, hblanks, hvalue, hstop⟩

/-- **Grammar**: the reader finds a definition exactly when the line spells it. -/
theorem ofLine?_eq_some_iff : ofLine? line = some d ↔ Spells line d := by
  obtain ⟨name, cast?, value, rest⟩ := d
  simp only [spells_iff, ofLine?, Option.bind_eq_bind, Option.bind_eq_some_iff,
    after?_eq_some_iff]
  constructor
  · rintro ⟨text, rfl, h⟩
    split at h
    · cases h
    next hparts =>
    obtain ⟨hname, htail⟩ := not_or.mp hparts
    simp only [Option.bind_eq_some_iff, Prod.exists, readBody?_eq_some_iff, Option.pure_def,
      Option.some.injEq, mk.injEq] at h
    obtain ⟨_, _, _, hbody, rfl, rfl, rfl, rfl⟩ := h
    obtain ⟨c, tail, htext⟩ := List.exists_cons_of_ne_nil htail
    have hc : isBlank c = true := by
      simpa using stop_dropWhile (fun c => !isBlank c) text c (by rw [htext]; rfl)
    refine ⟨(text.dropWhile fun c => !isBlank c).takeWhile isBlank, _, ?_, ⟨hname, ?_⟩,
      ⟨?_, List.all_takeWhile⟩, hbody⟩
    · rw [skipBlanks, List.takeWhile_append_dropWhile, List.takeWhile_append_dropWhile]
    · intro c hc
      simpa using List.all_eq_true.mp List.all_takeWhile c hc
    · simp [htext, hc]
  · rintro ⟨gap, body, rfl, ⟨hname, hnonblank⟩, ⟨hgap, hallgap⟩, hbody⟩
    have hrun : name.all (fun c => !isBlank c) = true := by simpa using hnonblank
    have hstop : ∀ c ∈ (gap ++ body).head?, (!isBlank c) = false := by
      obtain ⟨b, gap, rfl⟩ := List.exists_cons_of_ne_nil hgap
      have hb : isBlank b = true := List.all_eq_true.mp hallgap b (by simp)
      simp [hb]
    refine ⟨name ++ (gap ++ body), rfl, ?_⟩
    rw [takeWhile_append_of_stop hrun hstop, dropWhile_append_of_stop hrun hstop,
      if_neg (by simp [hname, hgap]), skipBlanks_append hallgap]
    simp only [Option.bind_eq_some_iff, Prod.exists, readBody?_eq_some_iff]
    exact ⟨cast?, value, rest, hbody.skipBlanks, rfl⟩

/-- A line spells at most one definition. -/
theorem Spells.unique {e : Define} (h : Spells line d) (h' : Spells line e) : d = e :=
  Option.some.inj ((ofLine?_eq_some_iff.mpr h).symm.trans (ofLine?_eq_some_iff.mpr h'))

/-- The line is what is read of it, up to the end of the value, and the rest. -/
theorem Spells.take_endIn_append (h : Spells line d) :
    line.take (d.endIn line) ++ d.rest = line := by
  obtain ⟨front, hline⟩ : ∃ front, line = front ++ d.rest := by
    obtain ⟨gap, paren, blanks, hline, -⟩ := h
    exact ⟨_, hline⟩
  rw [hline, endIn, List.length_append, Nat.add_sub_cancel, List.take_left]

theorem Spells.endIn_add_length (h : Spells line d) :
    d.endIn line + d.rest.length = line.length := by
  have hcut := congrArg List.length h.take_endIn_append
  simp only [List.length_append, List.length_take, endIn] at hcut ⊢
  omega

/-! ## The pattern -/

section

open Pattern

/-- The pattern of a cast. -/
def castPattern : Pattern :=
  group "cast" <| seq (word ['(']) <| seq (several isLetter) <| word [')']

/-- The pattern of a value. -/
def valuePattern : Pattern :=
  group "value" <| seq (word ['0', 'x']) <| several isHexDigit

/-- The pattern of a definition. -/
def pattern : Pattern :=
  seq (word keyword) <| seq (group "name" (several fun c => !isBlank c)) <|
    seq (several isBlank) <| seq (optional (word ['('])) <| seq (optional castPattern) <|
    seq (many isBlank) valuePattern

/-- The parts of a definition that the search keeps. -/
def groups (d : Define) : List (String × List Char) :=
  [("name", d.name)] ++ (d.cast?.toList.map (("cast", ·)) ++ [("value", d.value)])

/-- The definition as the search finds it at the start of a line. -/
def found (line : List Char) (d : Define) : Match := ⟨line.take (d.endIn line), d.groups, d.rest⟩

variable {taken : List Char} {kept : List (String × List Char)}

theorem spelled_castPattern :
    castPattern.Spelled taken kept ↔ IsCast taken ∧ kept = [("cast", taken)] := by
  constructor
  · rintro ⟨_, rfl, h⟩
    obtain ⟨_, _, _, _, rfl, rfl, ⟨rfl, rfl⟩, h⟩ := h
    obtain ⟨letters, _, _, _, rfl, rfl, hl, ⟨rfl, rfl⟩⟩ := h
    obtain ⟨hne, hletters, rfl⟩ := spelled_several.mp hl
    exact ⟨⟨letters, hne, hletters, rfl⟩, rfl⟩
  · rintro ⟨⟨letters, hne, hletters, rfl⟩, rfl⟩
    have hopen : (word ['(']).Spelled ['('] [] := ⟨rfl, rfl⟩
    have hclose : (word [')']).Spelled [')'] [] := ⟨rfl, rfl⟩
    exact ⟨[], rfl, hopen.seq ((spelled_several.mpr ⟨hne, hletters, rfl⟩).seq hclose)⟩

theorem spelled_valuePattern :
    valuePattern.Spelled taken kept ↔ IsValue taken ∧ kept = [("value", taken)] := by
  constructor
  · rintro ⟨_, rfl, h⟩
    obtain ⟨_, digits, _, _, rfl, rfl, ⟨rfl, rfl⟩, hd⟩ := h
    obtain ⟨hne, hdigits, rfl⟩ := spelled_several.mp hd
    exact ⟨⟨digits, hne, hdigits, rfl⟩, rfl⟩
  · rintro ⟨⟨digits, hne, hdigits, rfl⟩, rfl⟩
    have hfront : (word ['0', 'x']).Spelled ['0', 'x'] [] := ⟨rfl, rfl⟩
    exact ⟨[], rfl, hfront.seq (spelled_several.mpr ⟨hne, hdigits, rfl⟩)⟩

theorem spelled_optional_paren :
    (optional (word ['('])).Spelled taken kept ↔ (taken = [] ∨ taken = ['(']) ∧ kept = [] := by
  simp only [Spelled]
  rw [← or_and_right, or_comm]

theorem spelled_optional_castPattern : (optional castPattern).Spelled taken kept ↔
    ∃ cast? : Option (List Char), (∀ cast ∈ cast?, IsCast cast) ∧ taken = cast?.getD [] ∧
      kept = cast?.toList.map (("cast", ·)) := by
  simp only [Spelled, spelled_castPattern]
  constructor
  · rintro (⟨hcast, rfl⟩ | ⟨rfl, rfl⟩)
    · exact ⟨some taken, by simpa using hcast, rfl, rfl⟩
    · exact ⟨none, by simp, rfl, rfl⟩
  · rintro ⟨cast?, hcast, rfl, rfl⟩
    cases cast? with
    | none => exact Or.inr ⟨rfl, rfl⟩
    | some cast => exact Or.inl ⟨hcast cast rfl, rfl⟩

/-- A definition spells the pattern. -/
theorem Spells.spelled_pattern (h : Spells line d) :
    pattern.Spelled (line.take (d.endIn line)) d.groups := by
  have hcut := h.take_endIn_append
  obtain ⟨gap, paren, blanks, hline, ⟨hname, hnonblank⟩, ⟨hgap, hallgap⟩, hparen, hcast, hblanks,
    hvalue, -⟩ := h
  have htake : line.take (d.endIn line) = keyword ++ (d.name ++ (gap ++ (paren ++
      (d.cast?.getD [] ++ (blanks ++ d.value))))) := by
    apply (List.append_left_inj d.rest).mp
    rw [hcut, hline]
    simp
  rw [htake]
  have hkeyword' : (word keyword).Spelled keyword [] := ⟨rfl, rfl⟩
  have hname' : (group "name" (several fun c => !isBlank c)).Spelled d.name [("name", d.name)] :=
    ⟨[], rfl, spelled_several.mpr ⟨hname, by simpa using hnonblank, rfl⟩⟩
  have hgap' : (several isBlank).Spelled gap [] := spelled_several.mpr ⟨hgap, hallgap, rfl⟩
  have hparen' := spelled_optional_paren.mpr ⟨hparen, rfl⟩
  have hcast' := spelled_optional_castPattern.mpr ⟨d.cast?, hcast, rfl, rfl⟩
  have hblanks' : (many isBlank).Spelled blanks [] := ⟨hblanks, rfl⟩
  have hvalue' := spelled_valuePattern.mpr ⟨hvalue, rfl⟩
  exact hkeyword'.seq (hname'.seq (hgap'.seq (hparen'.seq (hcast'.seq (hblanks'.seq hvalue')))))

/-- What spells the pattern is a definition, when what follows does not go on with the value. -/
theorem spells_of_spelled_pattern (h : pattern.Spelled taken kept)
    (hstop : ∀ c ∈ rest.head?, isHexDigit c = false) :
    ∃ d, Spells (taken ++ rest) d ∧ kept = d.groups ∧ d.rest = rest := by
  obtain ⟨_, _, _, _, rfl, rfl, ⟨rfl, rfl⟩, h⟩ := h
  obtain ⟨name, _, _, _, rfl, rfl, ⟨_, rfl, hn⟩, h⟩ := h
  obtain ⟨gap, _, _, _, rfl, rfl, hg, h⟩ := h
  obtain ⟨paren, _, _, _, rfl, rfl, hp, h⟩ := h
  obtain ⟨_, _, _, _, rfl, rfl, hc, h⟩ := h
  obtain ⟨blanks, value, _, _, rfl, rfl, ⟨hblanks, rfl⟩, hv⟩ := h
  obtain ⟨hname, hnonblank, rfl⟩ := spelled_several.mp hn
  obtain ⟨hgap, hallgap, rfl⟩ := spelled_several.mp hg
  obtain ⟨hparen, rfl⟩ := spelled_optional_paren.mp hp
  obtain ⟨cast?, hcast, rfl, rfl⟩ := spelled_optional_castPattern.mp hc
  obtain ⟨hvalue, rfl⟩ := spelled_valuePattern.mp hv
  have hnonblank' : ∀ c ∈ name, isBlank c = false := by simpa using hnonblank
  exact ⟨⟨name, cast?, value, rest⟩, ⟨gap, paren, blanks, by simp, ⟨hname, hnonblank'⟩,
    ⟨hgap, hallgap⟩, hparen, hcast, hblanks, hvalue, hstop⟩, by simp [groups], rfl⟩

/-- **The search for the pattern finds what the reader finds.** -/
theorem find?_pattern (line : List Char) :
    pattern.find? line = (ofLine? line).map (found line) := by
  cases h : pattern.find? line with
  | none =>
      have hnone : ofLine? line = none := by
        rw [Option.eq_none_iff_forall_ne_some]
        intro d hd
        have hspells := ofLine?_eq_some_iff.mp hd
        exact find?_eq_none_iff.mp h _ _ _ hspells.take_endIn_append.symm hspells.spelled_pattern
      rw [hnone, Option.map_none]
  | some m =>
      obtain ⟨taken, kept, rest⟩ := m
      obtain ⟨rfl, hspelled⟩ := mem_ways_iff.mp (List.mem_of_mem_head? h)
      have hstop : ∀ c ∈ rest.head?, isHexDigit c = false :=
        head?_rest_of_lastRun? (p := pattern) rfl h
      obtain ⟨d, hspells, rfl, rfl⟩ := spells_of_spelled_pattern hspelled hstop
      have hcut : (taken ++ d.rest).take (d.endIn (taken ++ d.rest)) = taken :=
        List.append_cancel_right hspells.take_endIn_append
      rw [ofLine?_eq_some_iff.mpr hspells, Option.map_some, found, hcut]

end

/-! ## Constants -/

theorem constant_eq_some_iff {c : Constant} : Constant.ofLine? line = some c ↔
    ∃ d, Spells line d ∧ ⟨String.ofList d.name, String.ofList d.value⟩ = c := by
  simp only [Constant.ofLine?, Option.map_eq_some_iff, ofLine?_eq_some_iff]

theorem constant_eq_none_iff : Constant.ofLine? line = none ↔ ∀ d, ¬ Spells line d := by
  rw [Constant.ofLine?, Option.map_eq_none_iff, Option.eq_none_iff_forall_ne_some]
  simp only [ne_eq, ofLine?_eq_some_iff]

/-- What follows the value may be longer. -/
theorem Spells.append {c : Char} (hc : isHexDigit c = false) (h : Spells line d) :
    Spells (line ++ [c]) { d with rest := d.rest ++ [c] } := by
  obtain ⟨gap, paren, blanks, rfl, hname, hgap, hparen, hcast, hblanks, hvalue, hstop⟩ := h
  refine ⟨gap, paren, blanks, by simp, hname, hgap, hparen, hcast, hblanks, hvalue, ?_⟩
  cases hrest : d.rest with
  | nil => simpa using hc
  | cons e rest => simpa [hrest] using hstop

/-- A character at the end that is no digit of the value is part of what follows it. -/
theorem exists_of_spells_append {c : Char} (hc : isHexDigit c = false)
    (h : Spells (line ++ [c]) d) :
    ∃ rest, d.rest = rest ++ [c] ∧ Spells line { d with rest := rest } := by
  obtain ⟨gap, paren, blanks, hline, hname, hgap, hparen, hcast, hblanks, hvalue, hstop⟩ := h
  rcases List.eq_nil_or_concat d.rest with hnil | ⟨rest, e, hrest⟩
  · obtain ⟨digits, hne, hdigits, hd⟩ := hvalue
    obtain ⟨front, e, rfl⟩ := (List.eq_nil_or_concat digits).resolve_left hne
    have he : isHexDigit e = true := List.all_eq_true.mp hdigits e (by simp)
    have hline' : line ++ [c] = (keyword ++ d.name ++ gap ++ paren ++ d.cast?.getD [] ++ blanks ++
        '0' :: 'x' :: front) ++ [e] := by
      rw [hline, hnil, hd]
      simp
    obtain ⟨-, hce⟩ := List.append_inj' hline' rfl
    obtain rfl : c = e := by simpa using hce
    rw [he] at hc
    cases hc
  · rw [List.concat_eq_append] at hrest
    rw [hrest, ← List.append_assoc] at hline
    obtain ⟨rfl, hce⟩ := List.append_inj' hline rfl
    obtain rfl : c = e := by simpa using hce
    refine ⟨rest, hrest, gap, paren, blanks, rfl, hname, hgap, hparen, hcast, hblanks, hvalue, ?_⟩
    cases rest with
    | nil => simp
    | cons e rest => simpa [hrest] using hstop

/-- A character at the end that is no digit makes no difference to the constant of a line. -/
theorem constant_append {c : Char} (hc : isHexDigit c = false) (line : List Char) :
    Constant.ofLine? (line ++ [c]) = Constant.ofLine? line := by
  ext constant
  rw [constant_eq_some_iff, constant_eq_some_iff]
  constructor
  · rintro ⟨d, h, rfl⟩
    obtain ⟨rest, -, hline⟩ := exists_of_spells_append hc h
    exact ⟨_, hline, rfl⟩
  · rintro ⟨d, h, rfl⟩
    exact ⟨_, h.append hc, rfl⟩

/-- **One grammar, one reading**: the search for the pattern succeeds on exactly the lines that
spell a definition, however the blanks and parentheses of the line are told apart, and what it
keeps is that definition. -/
theorem find?_pattern_grammar (line : List Char) :
    ((pattern.find? line).isSome = true ↔ ∃ d, Spells line d) ∧
    (∀ d, Spells line d →
      ofLine? line = some d ∧ pattern.find? line = some (found line d) ∧
      (found line d).taken.length = d.endIn line ∧ d.endIn line + d.rest.length = line.length ∧
      Constant.ofLine? line = some ⟨String.ofList d.name, String.ofList d.value⟩) ∧
    (Constant.ofLine? line = none ↔ ∀ d, ¬ Spells line d) := by
  refine ⟨?_, fun d hd => ?_, constant_eq_none_iff⟩
  · rw [find?_pattern, Option.isSome_map, Option.isSome_iff_exists]
    simp only [ofLine?_eq_some_iff]
  · have hread := ofLine?_eq_some_iff.mpr hd
    refine ⟨hread, ?_, ?_, hd.endIn_add_length, constant_eq_some_iff.mpr ⟨d, hd, rfl⟩⟩
    · rw [find?_pattern, hread, Option.map_some]
    · rw [found, List.length_take, endIn]
      omega

/-- A line with both parentheses, a cast and a suffix. -/
theorem find?_pattern_grammar_cast :
    pattern.find? "#define A \t((DWORD) 0x1FL)".toList =
      some ⟨"#define A \t((DWORD) 0x1F".toList,
        [("name", ['A']), ("cast", "(DWORD)".toList), ("value", "0x1F".toList)], "L)".toList⟩ := by
  have hcast : IsCast "(DWORD)".toList := ⟨"DWORD".toList, by decide, by decide, rfl⟩
  have hvalue : IsValue "0x1F".toList := ⟨"1F".toList, by decide, by decide, rfl⟩
  have hname : ∀ c ∈ ['A'], isBlank c = false := by
    have hA : isBlank 'A' = false := by decide
    simpa using hA
  have hstop : ∀ c ∈ "L)".toList.head?, isHexDigit c = false := by
    have hhead : "L)".toList.head? = some 'L' := by decide
    have hL : isHexDigit 'L' = false := by decide
    simpa [hhead] using hL
  have hspells : Spells "#define A \t((DWORD) 0x1FL)".toList
      ⟨['A'], some "(DWORD)".toList, "0x1F".toList, "L)".toList⟩ :=
    ⟨" \t".toList, ['('], [' '], rfl, ⟨by decide, hname⟩, ⟨by decide, by decide⟩, Or.inr rfl,
      by simpa using hcast, by decide, hvalue, hstop⟩
  exact ((find?_pattern_grammar _).2.1 _ hspells).2.1

end Define

end EventMessages
