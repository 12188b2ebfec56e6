import EventMessages.Text.Utf8

/-!
# EventMessages.Proofs.Text.Utf8

Reading back what was written. The bytes of a character are one piece of any byte string that
starts with them, so a written text is read as it was, without a replacement character.
-/

namespace EventMessages.Text.Utf8

/-! ## One byte at a time -/

theorem toNat_ofNat_of_lt {n : Nat} (h : n < 256) : (UInt8.ofNat n).toNat = n := by
  rw [UInt8.toNat_ofNat']
  exact Nat.mod_eq_of_lt h

theorem admits_ofNat {p : Pending} {n : Nat} (hlow : p.low.toNat ≤ n) (hhigh : n ≤ p.high.toNat) :
    p.admits (UInt8.ofNat n) = true := by
  have hlt := p.high.toNat_lt
  have hn : (UInt8.ofNat n).toNat = n := toNat_ofNat_of_lt (by omega)
  rw [Pending.admits, Bool.and_eq_true, decide_eq_true_eq, decide_eq_true_eq, UInt8.le_iff_toNat_le,
    UInt8.le_iff_toNat_le, hn]
  exact ⟨hlow, hhigh⟩

theorem piecesFrom_lead {b : UInt8} {p : Pending} (rest : List UInt8) (h : lead b = .pending p) :
    piecesFrom none (b :: rest) = piecesFrom (some p) rest := by
  rw [piecesFrom, h]

/-- The last byte of a sequence completes its character. -/
theorem piecesFrom_last {bytes : List UInt8} {bits n : Nat} {low high : UInt8} {rest : List UInt8}
    (hlow : low.toNat ≤ n) (hhigh : n ≤ high.toNat) :
    piecesFrom (some ⟨bytes, bits, 0, low, high⟩) (UInt8.ofNat n :: rest) =
      .scalar (Char.ofNat (bits * 64 + (n - 0x80))) :: piecesFrom none rest := by
  have hlt := high.toNat_lt
  have hn : (UInt8.ofNat n).toNat = n := toNat_ofNat_of_lt (by omega)
  rw [piecesFrom, if_pos (admits_ofNat hlow hhigh)]
  simp only [Pending.push, hn]

/-- A byte in the middle of a sequence adds its six bits. -/
theorem piecesFrom_more {bytes : List UInt8} {bits after n : Nat} {low high : UInt8}
    {rest : List UInt8} (hlow : low.toNat ≤ n) (hhigh : n ≤ high.toNat) :
    piecesFrom (some ⟨bytes, bits, after + 1, low, high⟩) (UInt8.ofNat n :: rest) =
      piecesFrom (some ⟨bytes ++ [UInt8.ofNat n], bits * 64 + (n - 0x80), after, 0x80, 0xbf⟩)
        rest := by
  have hlt := high.toNat_lt
  have hn : (UInt8.ofNat n).toNat = n := toNat_ofNat_of_lt (by omega)
  rw [piecesFrom, if_pos (admits_ofNat hlow hhigh)]
  simp only [Pending.push, hn]

/-! ## First bytes -/

theorem lead_two {n : Nat} (h : 2 ≤ n) (h' : n < 0x20) :
    lead (UInt8.ofNat (n + 0xc0)) = .pending ⟨[UInt8.ofNat (n + 0xc0)], n, 0, 0x80, 0xbf⟩ := by
  simp only [lead, toNat_ofNat_of_lt (show n + 0xc0 < 256 by omega)]
  rw [if_neg (by omega), if_neg (by omega), if_pos (by omega), Nat.add_sub_cancel]

theorem lead_three {n : Nat} (h : n < 0x10) :
    lead (UInt8.ofNat (n + 0xe0)) = .pending ⟨[UInt8.ofNat (n + 0xe0)], n, 1,
      if n = 0 then 0xa0 else 0x80, if n = 0xd then 0x9f else 0xbf⟩ := by
  simp only [lead, toNat_ofNat_of_lt (show n + 0xe0 < 256 by omega)]
  rw [if_neg (by omega), if_neg (by omega), if_neg (by omega), if_pos (by omega),
    Nat.add_sub_cancel]
  simp only [Nat.add_eq_right, show n + 0xe0 = 0xed ↔ n = 0xd by omega]

theorem lead_four {n : Nat} (h : n < 5) :
    lead (UInt8.ofNat (n + 0xf0)) = .pending ⟨[UInt8.ofNat (n + 0xf0)], n, 2,
      if n = 0 then 0x90 else 0x80, if n = 4 then 0x8f else 0xbf⟩ := by
  simp only [lead, toNat_ofNat_of_lt (show n + 0xf0 < 256 by omega)]
  rw [if_neg (by omega), if_neg (by omega), if_neg (by omega), if_neg (by omega),
    if_pos (by omega), Nat.add_sub_cancel]
  simp only [Nat.add_eq_right, show n + 0xf0 = 0xf4 ↔ n = 4 by omega]

/-! ## Characters -/

/-- The bytes of a character are one piece, whatever follows. -/
theorem piecesFrom_encodeChar (c : Char) (rest : List UInt8) :
    piecesFrom none (String.utf8EncodeChar c ++ rest) = .scalar c :: piecesFrom none rest := by
  have hc : Char.ofNat c.val.toNat = c := Char.ofNat_toNat c
  have hlt : c.val.toNat < 0x110000 := by rcases c.valid with h | h <;> omega
  have hns : c.val.toNat < 0xd800 ∨ 0xdfff < c.val.toNat := by rcases c.valid with h | h <;> omega
  generalize hw : c.val.toNat = v at hc hlt hns
  rw [String.utf8EncodeChar]
  simp only [hw]
  split
  · have hlead : lead (UInt8.ofNat v) = .piece (.scalar c) := by
      simp only [lead, toNat_ofNat_of_lt (show v < 256 by omega)]
      rw [if_pos (by omega), hc]
    rw [List.singleton_append, piecesFrom, hlead]
  split
  · have hv : v / 64 % 32 * 64 + (v % 64 + 128 - 128) = v := by omega
    simp only [List.cons_append, List.nil_append]
    rw [piecesFrom_lead _ (lead_two (by omega) (by omega)), piecesFrom_last, hv, hc]
    all_goals simp only [UInt8.reduceToNat]; omega
  split
  · have hv : (v / 4096 % 16 * 64 + (v / 64 % 64 + 128 - 128)) * 64 + (v % 64 + 128 - 128) = v := by
      omega
    simp only [List.cons_append, List.nil_append]
    -- the range of the second byte leaves out overlong forms and surrogates
    rw [piecesFrom_lead _ (lead_three (by omega)), piecesFrom_more, piecesFrom_last, hv, hc]
    all_goals (try split) <;> simp only [UInt8.reduceToNat] <;> omega
  · have hv : ((v / 262144 % 8 * 64 + (v / 4096 % 64 + 128 - 128)) * 64 +
        (v / 64 % 64 + 128 - 128)) * 64 + (v % 64 + 128 - 128) = v := by omega
    simp only [List.cons_append, List.nil_append]
    rw [piecesFrom_lead _ (lead_four (by omega)), piecesFrom_more, piecesFrom_more,
      piecesFrom_last, hv, hc]
    all_goals (try split) <;> simp only [UInt8.reduceToNat] <;> omega

/-! ## Texts -/

theorem pieces_encode (text : List Char) : pieces (encode text) = text.map .scalar := by
  induction text with
  | nil => rfl
  | cons c text ih =>
      rw [pieces, encode_cons, piecesFrom_encodeChar, ← pieces, ih, List.map_cons]

/-- The bytes of a string are those of its characters. -/
theorem encode_toList (s : String) : encode s.toList = s.toUTF8.data.toList := by
  obtain ⟨text, rfl⟩ : ∃ text, s = String.ofList text := ⟨s.toList, String.ofList_toList.symm⟩
  have hutf8 : (String.ofList text).toUTF8 = text.utf8Encode := rfl
  rw [hutf8, String.toList_ofList, encode]
  simp [List.utf8Encode]

/-- No character takes less than a byte. -/
theorem length_le_length_encode (text : List Char) : text.length ≤ (encode text).length := by
  induction text with
  | nil => exact Nat.le_refl 0
  | cons c text ih =>
      have hc := c.utf8Size_pos
      rw [encode_cons, List.length_cons, List.length_append, String.length_utf8EncodeChar]
      omega

/-- **Round trip**: a written text is read back. -/
theorem decodeLossy_encode (text : List Char) : decodeLossy (encode text) = text := by
  rw [decodeLossy, pieces_encode, List.map_map]
  exact List.map_id text

theorem textOfPieces_scalars (position : Nat) (text : List Char) :
    textOfPieces position (text.map .scalar) = .ok text := by
  induction text generalizing position with
  | nil => rfl
  | cons c text ih =>
      rw [List.map_cons, textOfPieces, ih]
      rfl

/-- A written text is read back by those who refuse what is no text. -/
theorem decodeStrict_encode (text : List Char) : decodeStrict (encode text) = .ok text := by
  rw [decodeStrict, pieces_encode, textOfPieces_scalars]

end EventMessages.Text.Utf8
