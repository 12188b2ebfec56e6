import EventMessages.Proofs.Text.Malformed
import EventMessages.Proofs.Text.Occurrence

/-!
# EventMessages.Proofs.Text.Seam

Where a byte string can be cut before it is read. In front of a byte that goes on with no sequence
the reader gives up the sequence that it is in the middle of, and it does the same at the end. So
the two sides of such a seam are read on their own (`decodeLossy_append`), whatever bytes that are
no text stand in front of it.

Every character starts with such a byte. A text without U+FFFD therefore stands in what is read
exactly where its bytes stand in what was written (`infix_decodeLossy_iff`).
-/

namespace EventMessages.Text.Utf8

variable {front back bytes : List UInt8} {needle text : List Char}

/-! ## Seams -/

/-- No sequence goes on with these bytes. -/
def StartsAnew (bytes : List UInt8) : Prop := ∀ b ∈ bytes.head?, isContinuation b = false

/-- A character is a byte that goes on with no sequence, and bytes that go on with one. -/
theorem exists_encodeChar (c : Char) : ∃ b more, String.utf8EncodeChar c = b :: more ∧
    isContinuation b = false ∧ ∀ x ∈ more, isContinuation x = true := by
  have hlow : ∀ n, isContinuation (UInt8.ofNat (n % 64 + 128)) = true := by
    intro n
    rw [isContinuation_iff, toNat_ofNat_of_lt (by omega)]
    omega
  have hlead : ∀ n < 256, n < 0x80 ∨ 0xbf < n → isContinuation (UInt8.ofNat n) = false := by
    intro n hn hrange
    rw [Bool.eq_false_iff, Ne, isContinuation_iff, toNat_ofNat_of_lt hn]
    omega
  have hnil : ∀ x ∈ ([] : List UInt8), isContinuation x = true := by simp
  rw [String.utf8EncodeChar]
  split
  · exact ⟨_, _, rfl, hlead _ (by omega) (by omega), hnil⟩
  split
  · exact ⟨_, _, rfl, hlead _ (by omega) (by omega), List.forall_mem_cons.mpr ⟨hlow _, hnil⟩⟩
  split
  · exact ⟨_, _, rfl, hlead _ (by omega) (by omega),
      List.forall_mem_cons.mpr ⟨hlow _, List.forall_mem_cons.mpr ⟨hlow _, hnil⟩⟩⟩
  · exact ⟨_, _, rfl, hlead _ (by omega) (by omega), List.forall_mem_cons.mpr
      ⟨hlow _, List.forall_mem_cons.mpr ⟨hlow _, List.forall_mem_cons.mpr ⟨hlow _, hnil⟩⟩⟩⟩

theorem startsAnew_encode_append (h : needle ≠ []) (rest : List UInt8) :
    StartsAnew (encode needle ++ rest) := by
  obtain ⟨c, needle, rfl⟩ := List.exists_cons_of_ne_nil h
  obtain ⟨b, more, hchar, hb, -⟩ := exists_encodeChar c
  intro x hx
  obtain rfl : b = x := by simpa [hchar] using hx
  exact hb

/-- In the middle of a sequence the reader admits nothing but bytes that go on with it. -/
theorem Pending.Reached.isContinuation_of_admits {p : Pending} {b : UInt8} (h : p.Reached)
    (hb : p.admits b = true) : isContinuation b = true := by
  have hmore : ∀ x ∈ List.replicate p.after (0x80 : UInt8), isContinuation x = true := by
    intro x hx
    rw [List.eq_of_mem_replicate hx]
    decide
  obtain ⟨c, hc⟩ := h.completes b _ hb List.length_replicate hmore
  obtain ⟨first, more, hchar, -, hrest⟩ := exists_encodeChar c
  obtain ⟨x, bytes, hbytes⟩ := List.exists_cons_of_ne_nil h.nonempty
  rw [hchar, hbytes, List.cons_append, List.cons.injEq] at hc
  exact hrest b (by simp [hc.2])

theorem Pending.Reached.not_admits {p : Pending} (h : p.Reached) (hback : StartsAnew back) :
    ∀ b ∈ back.head?, p.admits b = false := by
  intro b hb
  rw [Bool.eq_false_iff]
  intro hadmits
  have hno := hback b hb
  rw [h.isContinuation_of_admits hadmits] at hno
  cases hno

/-- The two sides of a seam are read on their own, wherever the reader is when it comes to them. -/
theorem chars_piecesFrom_append (hback : StartsAnew back) (front : List UInt8)
    (state : Option Pending) (hstate : ∀ p ∈ state, p.Reached) :
    (piecesFrom state (front ++ back)).map Piece.char =
      (piecesFrom state front).map Piece.char ++ decodeLossy back := by
  induction front generalizing state with
  | nil =>
      cases state with
      | none => rfl
      | some p =>
          -- cut short by the seam or by the end, a sequence is one U+FFFD
          obtain ⟨reason, hpieces⟩ := piecesFrom_of_stop p ((hstate p rfl).not_admits hback)
          rw [List.nil_append, hpieces]
          rfl
  | cons b front ih =>
      have hnone : ∀ p ∈ (none : Option Pending), p.Reached := by simp
      have hlead : ∀ q, lead b = .pending q → ∀ p ∈ some q, p.Reached := by
        intro q hq p hp
        obtain rfl : q = p := by simpa using hp
        exact reached_of_lead hq
      cases state with
      | none =>
          simp only [List.cons_append, piecesFrom]
          cases hl : lead b with
          | piece q => simp [ih none hnone]
          | pending q => exact ih (some q) (hlead q hl)
      | some p =>
          simp only [List.cons_append, piecesFrom]
          by_cases hb : p.admits b = true
          · simp only [hb, if_true]
            cases hq : p.push b with
            | piece q => simp [ih none hnone]
            | pending q =>
                refine ih (some q) fun p' hp' => ?_
                obtain rfl : q = p' := by simpa using hp'
                exact (hstate p rfl).push hb hq
          · simp only [hb, Bool.false_eq_true, if_false]
            cases hl : lead b with
            | piece q => simp [ih none hnone]
            | pending q => simp [ih (some q) (hlead q hl)]

/-- **Seams**: bytes in front of a byte that goes on with no sequence are read on their own. -/
theorem decodeLossy_append (hback : StartsAnew back) (front : List UInt8) :
    decodeLossy (front ++ back) = decodeLossy front ++ decodeLossy back :=
  chars_piecesFrom_append hback front none (by simp)

theorem decodeLossy_encode_append (text : List Char) (rest : List UInt8) :
    decodeLossy (encode text ++ rest) = text ++ decodeLossy rest := by
  induction text with
  | nil => rfl
  | cons c text ih =>
      rw [encode_cons, List.append_assoc, decodeLossy, pieces_encodeChar, List.map_cons,
        ← decodeLossy, ih, Piece.char, List.cons_append]

/-- Written text in the middle of any bytes is read as it is. -/
theorem decodeLossy_append_encode (h : text ≠ []) (front rest : List UInt8) :
    decodeLossy (front ++ (encode text ++ rest)) =
      decodeLossy front ++ (text ++ decodeLossy rest) := by
  rw [decodeLossy_append (startsAnew_encode_append h rest), decodeLossy_encode_append]

/-! ## Searching -/

/-- A text without U+FFFD is read only where its bytes stand. -/
theorem Reads.exists_of_append (h : Reads bytes (needle ++ text)) (hneedle : '\uFFFD' ∉ needle) :
    ∃ rest, bytes = encode needle ++ rest := by
  induction needle generalizing bytes with
  | nil => exact ⟨bytes, rfl⟩
  | cons c needle ih =>
      cases h with
      | @char _ rest _ h =>
          obtain ⟨rest', rfl⟩ := ih h fun hm => hneedle (List.mem_cons_of_mem _ hm)
          exact ⟨rest', by simp⟩
      | invalid _ _ => exact absurd List.mem_cons_self hneedle

theorem Reads.infix_encode (h : Reads bytes text) (hneedle : '\uFFFD' ∉ needle)
    (hi : needle <:+: text) : encode needle <:+: bytes := by
  induction h with
  | nil =>
      rw [List.infix_nil.mp hi]
      exact List.infix_rfl
  | @char c rest text h ih =>
      obtain ⟨more, hmore⟩ | hi := List.infix_cons_iff.mp hi
      · have hreads : Reads (String.utf8EncodeChar c ++ rest) (needle ++ more) := hmore ▸ .char h
        obtain ⟨rest', hbytes⟩ := hreads.exists_of_append hneedle
        rw [hbytes]
        exact (List.prefix_append _ _).isInfix
      · exact List.infix_append_of_infix_right (ih hi)
  | @invalid run rest text _ _ ih =>
      obtain hp | hi := List.infix_cons_iff.mp hi
      · rw [(prefix_cons_iff_of_notMem hneedle).mp hp]
        exact List.nil_infix
      · exact List.infix_append_of_infix_right (ih hi)

/-- **Searching**: a text without U+FFFD is found in what is read exactly when its bytes are found
in what was written. -/
theorem infix_decodeLossy_iff (hneedle : '\uFFFD' ∉ needle) (bytes : List UInt8) :
    needle <:+: decodeLossy bytes ↔ encode needle <:+: bytes := by
  constructor
  · exact (reads_decodeLossy bytes).infix_encode hneedle
  · rintro ⟨front, rest, rfl⟩
    by_cases hne : needle = []
    · rw [hne]
      exact List.nil_infix
    · rw [List.append_assoc, decodeLossy_append_encode hne, ← List.append_assoc]
      exact ⟨_, _, rfl⟩

end EventMessages.Text.Utf8
