import EventMessages.Digest.Sha256
import Mathlib.Data.Nat.Digits.Lemmas
import Mathlib.Data.Nat.Prime.Basic

/-!
# EventMessages.Proofs.Digest.Standard

SHA-256 said without the formulas that compute it, and `Sha256.hash` as the one function that fits.

* A message is followed by a one bit, by as few zeros as fill a whole number of blocks, and by its
  length in bits as a number of 8 bytes (`IsPadding`).
* The words of a schedule are the 16 big-endian words of its block, and from there on each word is
  made of four earlier ones (`scheduleWord`). `scheduleFrom` keeps a window of 16 words instead.
* The blocks of the padded message are mixed into the chain in order (`IsHash`).
-/

namespace EventMessages.Digest.Sha256

/-! ## Big-endian numbers -/

/-- The number that bytes spell, the most significant byte first. -/
def ofBigEndian (bytes : List UInt8) : Nat := Nat.ofDigits 256 (bytes.reverse.map UInt8.toNat)

theorem ofBigEndian_inj {bytes other : List UInt8} (hlength : bytes.length = other.length)
    (h : ofBigEndian bytes = ofBigEndian other) : bytes = other := by
  have hdigits (l : List UInt8) : ∀ d ∈ l.reverse.map UInt8.toNat, d < 256 := by
    intro d hd
    obtain ⟨b, -, rfl⟩ := List.mem_map.mp hd
    exact b.toNat_lt
  have hreverse : bytes.reverse.map UInt8.toNat = other.reverse.map UInt8.toNat :=
    Nat.ofDigits_inj_of_len_eq (by decide) (by simpa using hlength) (hdigits bytes) (hdigits other)
      h
  exact List.reverse_injective (List.map_injective_iff.mpr (fun _ _ => UInt8.toNat_inj.mp) hreverse)

/-- The length field holds any length of less than 2 ^ 64 bits. -/
theorem ofBigEndian_bytesOfLength {n : Nat} (h : n < 2 ^ 64) :
    ofBigEndian (bytesOfLength n) = n := by
  simp only [ofBigEndian, bytesOfLength, List.map_cons, List.map_nil, List.reverse_cons,
    List.reverse_nil, List.nil_append, List.cons_append, Nat.ofDigits_cons, Nat.ofDigits_nil,
    UInt8.toNat_ofNat', Nat.shiftRight_eq_div_pow]
  omega

/-- Four bytes make a word. -/
theorem word_eq_ofBigEndian (a b c d : UInt8) :
    (a.toUInt32 <<< 24) ||| (b.toUInt32 <<< 16) ||| (c.toUInt32 <<< 8) ||| d.toUInt32 =
      UInt32.ofNat (ofBigEndian [a, b, c, d]) := by
  have hspell : ofBigEndian [a, b, c, d] =
      a.toNat * 2 ^ 24 + (b.toNat * 2 ^ 16 + (c.toNat * 2 ^ 8 + d.toNat)) := by
    simp only [ofBigEndian, List.map_cons, List.map_nil, List.reverse_cons, List.reverse_nil,
      List.nil_append, List.cons_append, Nat.ofDigits_cons, Nat.ofDigits_nil]
    omega
  have ha := a.toNat_lt
  have hb := b.toNat_lt
  have hc := c.toNat_lt
  have hd := d.toNat_lt
  -- The bytes stand at different bits, so one after the other the words are sums.
  have hor (x : Nat) {n y : Nat} (hy : y < 2 ^ n) : x * 2 ^ n ||| y = x * 2 ^ n + y := by
    rw [← Nat.shiftLeft_eq, Nat.shiftLeft_add_eq_or_of_lt hy]
  rw [← UInt32.toNat_inj, hspell, UInt32.toNat_ofNat']
  simp only [UInt32.toNat_or, UInt32.toNat_shiftLeft, UInt8.toNat_toUInt32, UInt32.reduceToNat,
    Nat.reduceMod, Nat.shiftLeft_eq, Nat.or_assoc]
  rw [Nat.mod_eq_of_lt (by omega), Nat.mod_eq_of_lt (by omega), Nat.mod_eq_of_lt (by omega),
    Nat.mod_eq_of_lt (by omega), hor c.toNat (by omega), hor b.toNat (by omega),
    hor a.toNat (by omega)]

theorem wordsOfBytes_eq_map {n : Nat} {block : List UInt8} (h : block.length = 4 * n) :
    wordsOfBytes block = (List.range n).map fun t =>
      UInt32.ofNat (ofBigEndian ((block.drop (4 * t)).take 4)) := by
  induction n generalizing block with
  | zero =>
      rw [List.length_eq_zero_iff.mp h]
      rfl
  | succ n ih =>
      match block, h with
      | a :: b :: c :: d :: rest, h =>
        have hrest : rest.length = 4 * n := by simpa [Nat.mul_succ] using h
        rw [wordsOfBytes, word_eq_ofBigEndian, ih hrest, List.range_succ_eq_map, List.map_cons,
          List.map_map]
        rfl

/-! ## Schedules -/

/-- The word of a block's schedule at a place. -/
def scheduleWord (block : List UInt8) (t : Nat) : UInt32 :=
  if t < 16 then UInt32.ofNat (ofBigEndian ((block.drop (4 * t)).take 4))
  else smallSigma1 (scheduleWord block (t - 2)) + scheduleWord block (t - 7) +
    smallSigma0 (scheduleWord block (t - 15)) + scheduleWord block (t - 16)
termination_by t
decreasing_by all_goals omega

theorem scheduleWord_add_sixteen (block : List UInt8) (t : Nat) :
    scheduleWord block (t + 16) = smallSigma1 (scheduleWord block (t + 14)) +
      scheduleWord block (t + 9) + smallSigma0 (scheduleWord block (t + 1)) +
      scheduleWord block t := by
  rw [scheduleWord, if_neg (by omega)]
  rfl

/-- A window of 16 words goes on as the schedule does. -/
theorem scheduleFrom_eq_map (block : List UInt8) (n t : Nat) :
    scheduleFrom n ((List.range' t 16).map (scheduleWord block)) =
      (List.range' t n).map (scheduleWord block) := by
  induction n generalizing t with
  | zero => rfl
  | succ n ih =>
      calc scheduleFrom (n + 1) ((List.range' t 16).map (scheduleWord block))
        _ = scheduleWord block t :: scheduleFrom n ((List.range' (t + 1) 15).map
              (scheduleWord block) ++ [scheduleWord block (t + 16)]) := by
            rw [scheduleWord_add_sixteen]
            rfl
        _ = scheduleWord block t ::
              scheduleFrom n ((List.range' (t + 1) 16).map (scheduleWord block)) := rfl
        _ = (List.range' t (n + 1)).map (scheduleWord block) := by
            rw [ih, List.range'_succ, List.map_cons]

/-- The schedule of a block is the words that belong to its places. -/
theorem schedule_eq_map {block : List UInt8} (h : block.length = 64) :
    scheduleFrom 64 (wordsOfBytes block) = (List.range 64).map (scheduleWord block) := by
  have hfirst : wordsOfBytes block = (List.range' 0 16).map (scheduleWord block) := by
    rw [wordsOfBytes_eq_map (n := 16) h, ← List.range_eq_range']
    refine List.map_congr_left fun t ht => ?_
    rw [scheduleWord, if_pos (List.mem_range.mp ht)]
  rw [hfirst, scheduleFrom_eq_map, List.range_eq_range']

/-! ## Constants -/

/-- The word is made of the first 32 bits behind the point of a root. -/
def IsRootFraction (degree radicand : Nat) (word : UInt32) : Prop :=
  ∃ whole < radicand, (whole * 2 ^ 32 + word.toNat) ^ degree ≤ radicand * (2 ^ 32) ^ degree ∧
    radicand * (2 ^ 32) ^ degree < (whole * 2 ^ 32 + word.toNat + 1) ^ degree

instance (degree radicand : Nat) (word : UInt32) :
    Decidable (IsRootFraction degree radicand word) := by
  unfold IsRootFraction
  infer_instance

/-- Small numbers are prime when no number below 18 divides them. -/
theorem prime_iff_of_lt {n : Nat} (h : n < 18 * 18) :
    n.Prime ↔ 2 ≤ n ∧ ∀ m < 18, 2 ≤ m → m < n → ¬ m ∣ n := by
  constructor
  · intro hprime
    obtain ⟨hn, hall⟩ := Nat.prime_def_lt'.mp hprime
    exact ⟨hn, fun m _ => hall m⟩
  · rintro ⟨hn, hall⟩
    have hsqrt : n.sqrt < 18 := Nat.sqrt_lt.mpr h
    exact Nat.prime_def_le_sqrt.mpr ⟨hn, fun m h2 hle =>
      hall m (hle.trans_lt hsqrt) h2 (hle.trans_lt (Nat.sqrt_lt_self hn))⟩

/-- The round constants come from the cube roots of the first 64 primes. -/
theorem forall₂_roundConstants :
    List.Forall₂ (IsRootFraction 3) ((List.range 312).filter Nat.Prime) roundConstants := by
  have hprimes : (List.range 312).filter Nat.Prime =
      (List.range 312).filter fun n => 2 ≤ n ∧ ∀ m < 18, 2 ≤ m → m < n → ¬ m ∣ n :=
    List.filter_congr fun n hn => by
      have hlt : n < 312 := List.mem_range.mp hn
      rw [decide_eq_decide]
      exact prime_iff_of_lt (by omega)
  rw [hprimes]
  decide +kernel

/-- The first chain comes from the square roots of the first eight primes. -/
theorem forall₂_initial : List.Forall₂ (IsRootFraction 2) [2, 3, 5, 7, 11, 13, 17, 19]
    [Chain.initial.a, Chain.initial.b, Chain.initial.c, Chain.initial.d, Chain.initial.e,
      Chain.initial.f, Chain.initial.g, Chain.initial.h] := by
  decide +kernel

/-! ## Blocks -/

/-- The sums of the words of two chains. -/
def Chain.add (s t : Chain) : Chain :=
  ⟨s.a + t.a, s.b + t.b, s.c + t.c, s.d + t.d, s.e + t.e, s.f + t.f, s.g + t.g, s.h + t.h⟩

/-- The chain after a block: 64 rounds, each with its constant and its word of the schedule, and the
sum of what they made with what they began with. -/
def Chain.next (s : Chain) (block : List UInt8) : Chain :=
  s.add ((List.range 64).foldl
    (fun v t => v.round (roundConstants.getD t 0, scheduleWord block t)) s)

theorem Chain.compress_eq_next {block : List UInt8} (h : block.length = 64) (s : Chain) :
    s.compress block = s.next block := by
  have hconstants : roundConstants = (List.range 64).map (roundConstants.getD · 0) := rfl
  have hinputs : roundConstants.zip (scheduleFrom 64 (wordsOfBytes block)) =
      (List.range 64).map fun t => (roundConstants.getD t 0, scheduleWord block t) := by
    rw [schedule_eq_map h, ← List.zip_map', ← hconstants]
  rw [compress, hinputs, List.foldl_map]
  rfl

/-- Absorbing whole blocks is a walk through them. -/
theorem Chain.absorb_flatten {blocks : List (List UInt8)} (h : ∀ block ∈ blocks, block.length = 64)
    (s : Chain) : s.absorb blocks.length blocks.flatten = blocks.foldl Chain.next s := by
  induction blocks generalizing s with
  | nil => rfl
  | cons block blocks ih =>
      have hblock : block.length = 64 := h block List.mem_cons_self
      rw [List.length_cons, List.flatten_cons, absorb, List.take_left' hblock,
        List.drop_left' hblock, ih fun other hm => h other (List.mem_cons_of_mem _ hm),
        compress_eq_next hblock, List.foldl_cons]

theorem length_flatten_of_blocks {blocks : List (List UInt8)}
    (h : ∀ block ∈ blocks, block.length = 64) : blocks.flatten.length = 64 * blocks.length := by
  have hsum : (blocks.map List.length).sum = (blocks.map List.length).length • 64 :=
    List.sum_eq_card_nsmul _ _ (by simpa using h)
  rw [List.length_flatten, hsum, List.length_map, nsmul_eq_mul, Nat.cast_id, Nat.mul_comm]

theorem exists_blocks {n : Nat} {bytes : List UInt8} (h : bytes.length = 64 * n) :
    ∃ blocks : List (List UInt8), blocks.flatten = bytes ∧ ∀ block ∈ blocks, block.length = 64 := by
  induction n generalizing bytes with
  | zero => exact ⟨[], (List.length_eq_zero_iff.mp h).symm, by simp⟩
  | succ n ih =>
      have hrest : (bytes.drop 64).length = 64 * n := by
        rw [List.length_drop]
        omega
      obtain ⟨blocks, hflatten, hblocks⟩ := ih hrest
      refine ⟨bytes.take 64 :: blocks, by simp [hflatten], ?_⟩
      simpa using ⟨by omega, hblocks⟩

/-! ## Messages -/

/-- What follows a message of the given length: a one bit, as few zeros as fill the last block, and
the length in bits as 8 bytes. -/
def IsPadding (length : Nat) (tail : List UInt8) : Prop :=
  ∃ zeros field, tail = 0x80 :: (List.replicate zeros 0 ++ field) ∧
    64 ∣ length + (1 + zeros + 8) ∧ (∀ fewer < zeros, ¬ 64 ∣ length + (1 + fewer + 8)) ∧
    field.length = 8 ∧ ofBigEndian field = 8 * length

/-- There is one way to pad a message whose length fits. -/
theorem isPadding_iff {length : Nat} (h : length < 2 ^ 61) {tail : List UInt8} :
    IsPadding length tail ↔ tail = padding length := by
  have hfield : ofBigEndian (bytesOfLength (length * 8)) = 8 * length := by
    rw [ofBigEndian_bytesOfLength (by omega), Nat.mul_comm]
  constructor
  · rintro ⟨zeros, field, rfl, hdvd, hleast, hlength, hspell⟩
    have hzeros : zeros = (119 - length % 64) % 64 := by
      have hnot : ¬ (119 - length % 64) % 64 < zeros := fun hlt => hleast _ hlt (by omega)
      omega
    rw [padding, hzeros, ofBigEndian_inj hlength (hspell.trans hfield.symm)]
  · rintro rfl
    exact ⟨_, _, rfl, by omega, fun fewer hlt => by omega, rfl, hfield⟩

/-- The hash of a message: its blocks and those of its padding are mixed into the chain. -/
def IsHash (message result : List UInt8) : Prop :=
  ∃ (tail : List UInt8) (blocks : List (List UInt8)), IsPadding message.length tail ∧ blocks.flatten = message ++ tail ∧
    (∀ block ∈ blocks, block.length = 64) ∧ result = (blocks.foldl Chain.next .initial).bytes

/-- **The hash of a message**: `hash` computes it. -/
theorem isHash_iff {message result : List UInt8} (h : message.length < 2 ^ 61) :
    IsHash message result ↔ result = hash message := by
  have hhash {blocks : List (List UInt8)} (hflatten : blocks.flatten = message ++
      padding message.length) (hblocks : ∀ block ∈ blocks, block.length = 64) :
      hash message = (blocks.foldl Chain.next .initial).bytes := by
    rw [hash, ← hflatten, length_flatten_of_blocks hblocks, Nat.mul_div_cancel_left _ (by decide),
      Chain.absorb_flatten hblocks]
  constructor
  · rintro ⟨tail, blocks, htail, hflatten, hblocks, rfl⟩
    rw [(isPadding_iff h).mp htail] at hflatten
    exact (hhash hflatten hblocks).symm
  · rintro rfl
    obtain ⟨n, hn⟩ := dvd_add_length_padding message.length
    rw [← List.length_append] at hn
    obtain ⟨blocks, hflatten, hblocks⟩ := exists_blocks hn
    exact ⟨_, blocks, (isPadding_iff h).mpr rfl, hflatten, hblocks, hhash hflatten hblocks⟩

end EventMessages.Digest.Sha256
