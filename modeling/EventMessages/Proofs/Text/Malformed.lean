import EventMessages.Proofs.Text.Utf8

/-!
# EventMessages.Proofs.Text.Malformed

What a lossy reader makes of bytes that are no text.

Where no character begins, the longest run of bytes that a character could begin with is an invalid
part, or else a single byte. `Reads` puts one U+FFFD for each such part, without any machine, and
every byte string reads as exactly one text. The machine agrees because a sequence that it is in the
middle of can always be completed, so it gives up at the first byte with which no character goes on.
-/

namespace EventMessages.Text.Utf8

/-! ## Invalid parts -/

/-- A character could begin with these bytes. -/
def IsStart (run : List UInt8) : Prop := run ≠ [] ∧ ∃ c, run <+: String.utf8EncodeChar c

/-- A maximal invalid part, and what follows it. -/
structure IsInvalidPart (run rest : List UInt8) : Prop where
  /-- No character begins here. -/
  no_char : ∀ c, ¬ String.utf8EncodeChar c <+: run ++ rest
  /-- No longer run could begin one. -/
  longest : ∀ start, IsStart start → start <+: run ++ rest → start.length ≤ run.length
  /-- The run itself could, or it is a single byte. -/
  shape : IsStart run ∨ run.length = 1

/-- The text of a byte string: its characters, and U+FFFD for each maximal invalid part. -/
inductive Reads : List UInt8 → List Char → Prop where
  | nil : Reads [] []
  | char {c : Char} {rest : List UInt8} {text : List Char} :
      Reads rest text → Reads (String.utf8EncodeChar c ++ rest) (c :: text)
  | invalid {run rest : List UInt8} {text : List Char} :
      IsInvalidPart run rest → Reads rest text → Reads (run ++ rest) ('\uFFFD' :: text)

/-- An invalid part is not empty. -/
theorem IsInvalidPart.length_pos {run rest : List UInt8} (h : IsInvalidPart run rest) :
    0 < run.length := by
  rcases h.shape with hstart | hone
  · exact List.length_pos_iff.mpr hstart.1
  · omega

/-- Bytes have at most one invalid part in front. -/
theorem IsInvalidPart.length_le {run rest run' rest' : List UInt8} (h : IsInvalidPart run rest)
    (h' : IsInvalidPart run' rest') (heq : run ++ rest = run' ++ rest') :
    run.length ≤ run'.length := by
  rcases h.shape with hstart | hone
  · exact h'.longest run hstart (by rw [← heq]; exact List.prefix_append _ _)
  · have := h'.length_pos
    omega

theorem IsInvalidPart.unique {run rest run' rest' : List UInt8} (h : IsInvalidPart run rest)
    (h' : IsInvalidPart run' rest') (heq : run ++ rest = run' ++ rest') :
    run = run' ∧ rest = rest' :=
  List.append_inj heq (Nat.le_antisymm (h.length_le h' heq) (h'.length_le h heq.symm))

/-! ## Sequences -/

/-- A byte that goes on with a sequence. -/
def isContinuation (b : UInt8) : Bool := 0x80 ≤ b && b ≤ 0xbf

theorem isContinuation_iff {b : UInt8} :
    isContinuation b = true ↔ 0x80 ≤ b.toNat ∧ b.toNat ≤ 0xbf := by
  simp [isContinuation, UInt8.le_iff_toNat_le]

theorem exists_char {v : Nat} (h : v.isValidChar) : ∃ c : Char, c.val.toNat = v :=
  ⟨Char.ofNatAux v h, rfl⟩

/-- The character of one byte. -/
theorem exists_encodeChar_one {a : UInt8} (ha : a.toNat < 0x80) :
    ∃ c, String.utf8EncodeChar c = [a] := by
  have hvalid : a.toNat.isValidChar := Or.inl (by omega)
  obtain ⟨c, hc⟩ := exists_char hvalid
  refine ⟨c, ?_⟩
  simp only [String.utf8EncodeChar, hc]
  rw [if_pos (by omega)]
  simp

/-- The character of two bytes. -/
theorem exists_encodeChar_two {a b : UInt8} (ha : 0xc2 ≤ a.toNat) (ha' : a.toNat < 0xe0)
    (hb : isContinuation b = true) : ∃ c, String.utf8EncodeChar c = [a, b] := by
  rw [isContinuation_iff] at hb
  have hvalid : ((a.toNat - 0xc0) * 64 + (b.toNat - 0x80)).isValidChar := Or.inl (by omega)
  obtain ⟨c, hc⟩ := exists_char hvalid
  refine ⟨c, ?_⟩
  simp only [String.utf8EncodeChar, hc]
  rw [if_neg (by omega), if_pos (by omega)]
  simp only [List.cons.injEq, ← UInt8.toNat_inj, UInt8.toNat_ofNat', and_true]
  omega

/-- The character of three bytes. The range of the second one leaves out overlong forms and
surrogates. -/
theorem exists_encodeChar_three {a b c : UInt8} (ha : 0xe0 ≤ a.toNat) (ha' : a.toNat < 0xf0)
    (hb : isContinuation b = true) (hlong : a.toNat = 0xe0 → 0xa0 ≤ b.toNat)
    (hscalar : a.toNat = 0xed → b.toNat ≤ 0x9f) (hc : isContinuation c = true) :
    ∃ d, String.utf8EncodeChar d = [a, b, c] := by
  rw [isContinuation_iff] at hb hc
  have hvalid : ((a.toNat - 0xe0) * 4096 + (b.toNat - 0x80) * 64 +
      (c.toNat - 0x80)).isValidChar := by
    unfold Nat.isValidChar
    omega
  obtain ⟨d, hd⟩ := exists_char hvalid
  refine ⟨d, ?_⟩
  simp only [String.utf8EncodeChar, hd]
  rw [if_neg (by omega), if_neg (by omega), if_pos (by omega)]
  simp only [List.cons.injEq, ← UInt8.toNat_inj, UInt8.toNat_ofNat', and_true]
  omega

/-- The character of four bytes. The range of the second one leaves out overlong forms and what lies
above U+10FFFF. -/
theorem exists_encodeChar_four {a b c d : UInt8} (ha : 0xf0 ≤ a.toNat) (ha' : a.toNat < 0xf5)
    (hb : isContinuation b = true) (hlong : a.toNat = 0xf0 → 0x90 ≤ b.toNat)
    (hlast : a.toNat = 0xf4 → b.toNat ≤ 0x8f) (hc : isContinuation c = true)
    (hd : isContinuation d = true) : ∃ e, String.utf8EncodeChar e = [a, b, c, d] := by
  rw [isContinuation_iff] at hb hc hd
  have hvalid : ((a.toNat - 0xf0) * 262144 + (b.toNat - 0x80) * 4096 + (c.toNat - 0x80) * 64 +
      (d.toNat - 0x80)).isValidChar := by
    unfold Nat.isValidChar
    omega
  obtain ⟨e, he⟩ := exists_char hvalid
  refine ⟨e, ?_⟩
  simp only [String.utf8EncodeChar, he]
  rw [if_neg (by omega), if_neg (by omega), if_neg (by omega)]
  simp only [List.cons.injEq, ← UInt8.toNat_inj, UInt8.toNat_ofNat', and_true]
  omega

/-! ## The machine in the middle of a sequence -/

/-- The machine stands after these bytes, and every byte that it admits, with as many continuation
bytes as it then waits for, makes them a character. -/
structure Pending.Reached (p : Pending) : Prop where
  nonempty : p.bytes ≠ []
  low_le : p.low ≤ p.high
  reads : ∀ rest, pieces (p.bytes ++ rest) = piecesFrom (some p) rest
  completes : ∀ b more, p.admits b = true → more.length = p.after →
    (∀ x ∈ more, isContinuation x = true) → ∃ c, String.utf8EncodeChar c = p.bytes ++ b :: more

theorem pieces_encodeChar (c : Char) (rest : List UInt8) :
    pieces (String.utf8EncodeChar c ++ rest) = .scalar c :: pieces rest :=
  piecesFrom_encodeChar c rest

theorem admits_iff {p : Pending} {b : UInt8} :
    p.admits b = true ↔ p.low.toNat ≤ b.toNat ∧ b.toNat ≤ p.high.toNat := by
  simp [Pending.admits, UInt8.le_iff_toNat_le]

theorem bytes_of_lead {b : UInt8} {p : Pending} (h : lead b = .pending p) : p.bytes = [b] := by
  simp only [lead] at h
  (repeat' split at h) <;> cases h <;> rfl

/-- A first byte that opens a sequence leaves the machine in a state from which it can be
completed. -/
theorem reached_of_lead {b : UInt8} {p : Pending} (h : lead b = .pending p) : p.Reached := by
  have hreads : ∀ rest, pieces (b :: rest) = piecesFrom (some p) rest :=
    fun rest => piecesFrom_lead rest h
  simp only [lead] at h
  split at h
  · cases h
  split at h
  · cases h
  split at h
  · cases h
    refine ⟨by simp, by simp, hreads, fun x more hx hlen _ => ?_⟩
    obtain rfl : more = [] := List.length_eq_zero_iff.mp hlen
    exact exists_encodeChar_two (by omega) (by omega) hx
  split at h
  · cases h
    refine ⟨by simp, ?_, hreads, fun x more hx hlen hmore => ?_⟩
    · dsimp only
      split <;> split <;> first | omega | decide
    · obtain ⟨y, rfl⟩ := List.length_eq_one_iff.mp hlen
      have hrange : isContinuation x = true ∧ (b.toNat = 0xe0 → 0xa0 ≤ x.toNat) ∧
          (b.toNat = 0xed → x.toNat ≤ 0x9f) := by
        rw [admits_iff] at hx
        rw [isContinuation_iff]
        dsimp only at hx
        split at hx <;> split at hx <;> simp only [UInt8.reduceToNat] at hx <;> omega
      exact exists_encodeChar_three (by omega) (by omega) hrange.1 hrange.2.1 hrange.2.2
        (hmore y (by simp))
  split at h
  · cases h
    refine ⟨by simp, ?_, hreads, fun x more hx hlen hmore => ?_⟩
    · dsimp only
      split <;> split <;> first | omega | decide
    · obtain ⟨y, tail, rfl⟩ := List.exists_cons_of_length_eq_add_one hlen
      obtain ⟨z, rfl⟩ := List.length_eq_one_iff.mp (Nat.succ.inj hlen)
      have hrange : isContinuation x = true ∧ (b.toNat = 0xf0 → 0x90 ≤ x.toNat) ∧
          (b.toNat = 0xf4 → x.toNat ≤ 0x8f) := by
        rw [admits_iff] at hx
        rw [isContinuation_iff]
        dsimp only at hx
        split at hx <;> split at hx <;> simp only [UInt8.reduceToNat] at hx <;> omega
      exact exists_encodeChar_four (by omega) (by omega) hrange.1 hrange.2.1 hrange.2.2
        (hmore y (by simp)) (hmore z (by simp))
  · cases h

theorem bytes_of_push {p q : Pending} {b : UInt8} (h : p.push b = .pending q) :
    q.bytes = p.bytes ++ [b] := by
  simp only [Pending.push] at h
  split at h <;> cases h
  rfl

theorem after_of_push {p : Pending} {b : UInt8} {q : Piece} (h : p.push b = .piece q) :
    p.after = 0 := by
  simp only [Pending.push] at h
  split at h
  · assumption
  · cases h

/-- One more byte of the sequence leaves the machine in such a state again. -/
theorem Pending.Reached.push {p q : Pending} {b : UInt8} (h : p.Reached) (hb : p.admits b = true)
    (hq : p.push b = .pending q) : q.Reached := by
  have hreads : ∀ rest, pieces (p.bytes ++ b :: rest) = piecesFrom (some q) rest := by
    intro rest
    rw [h.reads, piecesFrom, if_pos hb, hq]
  unfold Pending.push at hq
  dsimp only at hq
  split at hq
  · cases hq
  next n hafter =>
  cases hq
  have hlow : (0x80 : UInt8) ≤ 0xbf := by decide
  refine ⟨by simp, hlow, by simpa using hreads, fun x more hx hlen hmore => ?_⟩
  have hall : ∀ y ∈ x :: more, isContinuation y = true := by
    simpa using ⟨hx, hmore⟩
  have hlen' : (x :: more).length = p.after := by simpa [hafter] using hlen
  simpa using h.completes b (x :: more) hb hlen' hall

/-! ## Giving up -/

variable {p : Pending} {b : UInt8} {rest : List UInt8}

/-- At a byte that it does not admit, and at the end, the machine gives up its sequence and starts
anew. -/
theorem piecesFrom_of_stop (p : Pending) (hstop : ∀ b ∈ rest.head?, p.admits b = false) :
    ∃ reason, piecesFrom (some p) rest = .invalid p.bytes reason :: pieces rest := by
  cases rest with
  | nil => exact ⟨.truncated, rfl⟩
  | cons b rest =>
      have hb : ¬ p.admits b = true := by simp [hstop b rfl]
      refine ⟨.continuation, ?_⟩
      simp only [pieces, piecesFrom, if_neg hb]
      cases lead b <;> rfl

/-- Then no character begins with its bytes and goes on like this. -/
theorem Pending.Reached.not_char (h : p.Reached) (hstop : ∀ b ∈ rest.head?, p.admits b = false)
    (c : Char) : ¬ String.utf8EncodeChar c <+: p.bytes ++ rest := by
  rintro ⟨more, hmore⟩
  obtain ⟨reason, hpieces⟩ := piecesFrom_of_stop p hstop
  have hchar := pieces_encodeChar c more
  rw [hmore, h.reads, hpieces] at hchar
  cases hchar

/-- The bytes of a sequence are a start: the least bytes that fit complete it. -/
theorem Pending.Reached.isStart (h : p.Reached) : IsStart p.bytes := by
  have hlow : p.admits p.low = true := admits_iff.mpr ⟨Nat.le_refl _, h.low_le⟩
  have hmore : ∀ x ∈ List.replicate p.after (0x80 : UInt8), isContinuation x = true := by
    intro x hx
    rw [List.eq_of_mem_replicate hx]
    decide
  obtain ⟨c, hc⟩ := h.completes p.low _ hlow List.length_replicate hmore
  exact ⟨h.nonempty, c, hc ▸ List.prefix_append _ _⟩

theorem Pending.Reached.isInvalidPart (h : p.Reached)
    (hstop : ∀ b ∈ rest.head?, p.admits b = false) : IsInvalidPart p.bytes rest where
  no_char := h.not_char hstop
  longest := by
    rintro start ⟨-, c, hc⟩ hfront
    refine Nat.le_of_not_lt fun hlong => ?_
    obtain ⟨tail, rfl⟩ : p.bytes <+: start :=
      List.prefix_of_prefix_length_le (List.prefix_append _ _) hfront (by omega)
    obtain ⟨more, hmore⟩ := hc
    have htail : tail ≠ [] := by
      rintro rfl
      simp at hlong
    obtain ⟨b, tail, rfl⟩ := List.exists_cons_of_ne_nil htail
    obtain ⟨rest', rfl⟩ := (List.prefix_append_right_inj _).mp hfront
    have hstop' : ∀ x ∈ (b :: tail ++ more).head?, p.admits x = false := fun x hx => hstop x hx
    have hno := h.not_char hstop' c
    rw [← List.append_assoc, hmore] at hno
    exact hno (List.prefix_refl _)
  shape := Or.inl h.isStart

/-! ## One piece -/

/-- The front piece of a byte string: a character, or an invalid part that the machine reports. -/
def Cuts (bytes : List UInt8) : Prop :=
  (∃ c rest, bytes = String.utf8EncodeChar c ++ rest) ∨
    ∃ run rest reason, bytes = run ++ rest ∧ IsInvalidPart run rest ∧
      pieces bytes = .invalid run reason :: pieces rest

theorem Pending.Reached.cuts_of_stop (h : p.Reached)
    (hstop : ∀ b ∈ rest.head?, p.admits b = false) : Cuts (p.bytes ++ rest) := by
  obtain ⟨reason, hpieces⟩ := piecesFrom_of_stop p hstop
  exact Or.inr ⟨p.bytes, rest, reason, rfl, h.isInvalidPart hstop, by rw [h.reads, hpieces]⟩

theorem Pending.Reached.cuts (h : p.Reached) (rest : List UInt8) : Cuts (p.bytes ++ rest) := by
  induction rest generalizing p with
  | nil => exact h.cuts_of_stop (by simp)
  | cons b rest ih =>
      by_cases hb : p.admits b = true
      · cases hq : p.push b with
        | pending q =>
            have hcuts := ih (h.push hb hq)
            rwa [bytes_of_push hq, List.append_assoc] at hcuts
        | piece q =>
            obtain ⟨c, hc⟩ := h.completes b [] hb (after_of_push hq).symm (by simp)
            exact Or.inl ⟨c, rest, by simp [hc]⟩
      · exact h.cuts_of_stop (by simpa using hb)

/-- A byte that opens no sequence is a character of its own or an invalid part. -/
theorem cuts_of_lead_piece {q : Piece} (h : lead b = .piece q) (rest : List UInt8) :
    Cuts (b :: rest) := by
  by_cases hascii : b.toNat < 0x80
  · obtain ⟨c, hc⟩ := exists_encodeChar_one hascii
    exact Or.inl ⟨c, rest, by simp [hc]⟩
  have hq : q = .invalid [b] .start := by
    simp only [lead, if_neg hascii] at h
    (repeat' split at h) <;> cases h <;> rfl
  have hpieces : ∀ more, pieces (b :: more) = .invalid [b] .start :: pieces more := by
    intro more
    simp only [pieces, piecesFrom, h, hq]
  have hstart : ∀ start, IsStart start → ¬ start <+: b :: rest := by
    rintro start ⟨hne, c, more, hmore⟩ hfront
    obtain ⟨x, start, rfl⟩ := List.exists_cons_of_ne_nil hne
    obtain rfl := (List.cons_prefix_cons.mp hfront).1
    have hchar := pieces_encodeChar c []
    rw [List.append_nil, ← hmore, List.cons_append, hpieces] at hchar
    cases hchar
  have hpart : IsInvalidPart [b] rest :=
    { no_char := fun c => hstart _ ⟨String.utf8EncodeChar_ne_nil, c, List.prefix_refl _⟩
      longest := fun start hs hfront => absurd hfront (hstart start hs)
      shape := Or.inr rfl }
  exact Or.inr ⟨[b], rest, .start, rfl, hpart, hpieces rest⟩

theorem cuts_of_ne_nil {bytes : List UInt8} (h : bytes ≠ []) : Cuts bytes := by
  obtain ⟨b, rest, rfl⟩ := List.exists_cons_of_ne_nil h
  cases hl : lead b with
  | piece q => exact cuts_of_lead_piece hl rest
  | pending p =>
      have hcuts := (reached_of_lead hl).cuts rest
      rwa [bytes_of_lead hl] at hcuts

/-! ## Texts -/

theorem Reads.decodeLossy_eq {bytes : List UInt8} {text : List Char} (h : Reads bytes text) :
    decodeLossy bytes = text := by
  induction h with
  | nil => rfl
  | char _ ih => rw [decodeLossy, pieces_encodeChar, List.map_cons, ← decodeLossy, ih, Piece.char]
  | @invalid run rest text hpart _ ih =>
      have hne : run ++ rest ≠ [] :=
        List.append_ne_nil_of_left_ne_nil (List.length_pos_iff.mp hpart.length_pos) rest
      rcases cuts_of_ne_nil hne with ⟨c, more, heq⟩ | ⟨run', rest', reason, heq, hpart', hpieces⟩
      · exact absurd ⟨more, heq.symm⟩ (hpart.no_char c)
      · obtain ⟨rfl, rfl⟩ := hpart.unique hpart' heq
        rw [decodeLossy, hpieces, List.map_cons, ← decodeLossy, ih, Piece.char, replacement]

theorem reads_decodeLossy (bytes : List UInt8) : Reads bytes (decodeLossy bytes) := by
  induction hn : bytes.length using Nat.strongRecOn generalizing bytes with
  | _ n ih =>
  by_cases hne : bytes = []
  · subst hne
    exact .nil
  rcases cuts_of_ne_nil hne with ⟨c, rest, rfl⟩ | ⟨run, rest, reason, rfl, hpart, hpieces⟩
  · have hlt : rest.length < n := by
      have := List.length_pos_iff.mpr (String.utf8EncodeChar_ne_nil (c := c))
      simp only [List.length_append] at hn
      omega
    rw [decodeLossy, pieces_encodeChar, List.map_cons, ← decodeLossy]
    exact .char (ih _ hlt rest rfl)
  · have hlt : rest.length < n := by
      have := hpart.length_pos
      simp only [List.length_append] at hn
      omega
    rw [decodeLossy, hpieces, List.map_cons, ← decodeLossy]
    exact .invalid hpart (ih _ hlt rest rfl)

/-- **Lossy reading**: a byte string reads as the text that the machine makes of it, and as no other
one. -/
theorem reads_iff {bytes : List UInt8} {text : List Char} :
    Reads bytes text ↔ decodeLossy bytes = text :=
  ⟨Reads.decodeLossy_eq, fun h => h ▸ reads_decodeLossy bytes⟩

end EventMessages.Text.Utf8
