import EventMessages.Proofs.Build.Outcome
import EventMessages.Proofs.Digest.Standard

/-!
# EventMessages.Proofs.Digest.Streaming

The hash of a message does not depend on the portions in which it arrives.

A `Hasher` that has seen a message keeps its whole blocks in the chain, the bytes behind the last
whole block, and its length (`Hasher.Seen`). Another portion, and the padding at the end, both go on
where the whole blocks end (`Chain.absorb_append`), so what was seen is all that counts.
-/

namespace EventMessages

open Digest

namespace Digest.Sha256

/-! ## Whole blocks -/

theorem Chain.absorb_add (n m : Nat) (s : Chain) (bytes : List UInt8) :
    s.absorb (n + m) bytes = (s.absorb n bytes).absorb m (bytes.drop (64 * n)) := by
  induction n generalizing s bytes with
  | zero => rw [Nat.zero_add, Nat.mul_zero, List.drop_zero, absorb]
  | succ n ih =>
      rw [Nat.succ_add, absorb, absorb, ih, List.drop_drop, Nat.mul_succ, Nat.add_comm 64]

/-- Blocks that are there are not changed by what comes behind them. -/
theorem Chain.absorb_of_le {n : Nat} {front : List UInt8} (h : 64 * n ≤ front.length)
    (s : Chain) (back : List UInt8) : s.absorb n (front ++ back) = s.absorb n front := by
  induction n generalizing s front with
  | zero => rfl
  | succ n ih =>
      have hrest : 64 * n ≤ (front.drop 64).length := by
        rw [List.length_drop]
        omega
      rw [absorb, absorb, List.take_append_of_le_length (by omega),
        List.drop_append_of_le_length (by omega), ih hrest]

/-- The bytes behind the last whole block. -/
def remainder (bytes : List UInt8) : List UInt8 := bytes.drop (64 * (bytes.length / 64))

/-- What comes behind a message is absorbed behind its last whole block. -/
theorem Chain.absorb_append (s : Chain) (front back : List UInt8) :
    s.absorb ((front ++ back).length / 64) (front ++ back) =
      (s.absorb (front.length / 64) front).absorb ((remainder front ++ back).length / 64)
        (remainder front ++ back) := by
  have hle : 64 * (front.length / 64) ≤ front.length := by omega
  have hblocks : (front ++ back).length / 64 =
      front.length / 64 + (remainder front ++ back).length / 64 := by
    simp only [remainder, List.length_append, List.length_drop]
    omega
  rw [hblocks, absorb_add, absorb_of_le hle, List.drop_append_of_le_length hle, remainder]

theorem remainder_append (front back : List UInt8) :
    remainder (remainder front ++ back) = remainder (front ++ back) := by
  have hle : 64 * (front.length / 64) ≤ front.length := by omega
  have hrest : remainder front ++ back = (front ++ back).drop (64 * (front.length / 64)) :=
    (List.drop_append_of_le_length hle).symm
  rw [hrest, remainder, List.drop_drop, remainder, List.length_drop, List.length_append]
  congr 1
  omega

/-! ## Hashers -/

/-- The state of a hasher that has seen a message. -/
structure Hasher.Seen (s : Hasher) (message : List UInt8) : Prop where
  chain : s.chain = Chain.initial.absorb (message.length / 64) message
  partialBlock : s.partialBlock = remainder message
  length : s.length = message.length

theorem Hasher.seen_initial : initial.Seen [] := ⟨rfl, rfl, rfl⟩

variable {s last : Hasher} {message : List UInt8}

/-- A portion is seen behind what was seen before. -/
theorem Hasher.Seen.update (h : s.Seen message) (portion : List UInt8) :
    (s.update portion).Seen (message ++ portion) where
  chain := by
    rw [Chain.absorb_append, ← h.chain, ← h.partialBlock]
    rfl
  partialBlock := by
    rw [← remainder_append, ← h.partialBlock]
    rfl
  length := by
    rw [List.length_append, ← h.length]
    rfl

theorem Hasher.Seen.foldl (h : s.Seen message) (parts : List (List UInt8)) :
    (parts.foldl Hasher.update s).Seen (message ++ parts.flatten) := by
  induction parts generalizing s message with
  | nil => simpa using h
  | cons part parts ih =>
      rw [List.foldl_cons, List.flatten_cons, ← List.append_assoc]
      exact ih (h.update part)

/-- A hasher ends with the hash of what it has seen. -/
theorem Hasher.Seen.finish (h : s.Seen message) : s.finish = hash message := by
  rw [hash, Chain.absorb_append, ← h.chain, ← h.partialBlock, ← h.length]
  rfl

/-! ## Reading a file -/

/-- A loop that reads a file and hands what it reads to a hasher. Each time it gets at most `size`
bytes, and it stops when it gets none. -/
inductive Hasher.Loop (size : Nat) : List UInt8 → Hasher → Hasher → Prop
  | stop (s : Hasher) : Loop size [] s s
  | read {part rest : List UInt8} {s last : Hasher} : part ≠ [] → part.length ≤ size →
      Loop size rest (s.update part) last → Loop size (part ++ rest) s last

/-- At the end of the loop the hasher has seen the file. -/
theorem Hasher.Seen.loop {size : Nat} {bytes : List UInt8} (h : s.Seen message)
    (hloop : Loop size bytes s last) : last.Seen (message ++ bytes) := by
  induction hloop generalizing message with
  | stop s => simpa using h
  | read hpart hsize hloop ih =>
      rw [← List.append_assoc]
      exact ih (h.update _)

theorem Hasher.loop_portionsUpTo {size n : Nat} {bytes : List UInt8} (hsize : 1 ≤ size)
    (hn : bytes.length ≤ n) (s : Hasher) :
    Loop size bytes s ((portionsUpTo size n bytes).foldl Hasher.update s) := by
  induction n generalizing bytes s with
  | zero =>
      rw [List.length_eq_zero_iff.mp (Nat.le_zero.mp hn)]
      exact .stop s
  | succ n ih =>
      rw [portionsUpTo]
      split
      · next hempty =>
          rw [List.isEmpty_iff.mp hempty]
          exact .stop s
      · next hsome =>
          have hne : bytes ≠ [] := fun h => hsome (List.isEmpty_iff.mpr h)
          have hpos : 0 < bytes.length := List.length_pos_iff.mpr hne
          have hpart : bytes.take size ≠ [] :=
            List.length_pos_iff.mp (by rw [List.length_take]; omega)
          have hrest : (bytes.drop size).length ≤ n := by
            rw [List.length_drop]
            omega
          have hloop := Loop.read hpart (List.length_take_le size bytes)
            (ih hrest (s.update (bytes.take size)))
          rwa [List.take_append_drop] at hloop

/-- The portions of a file are what a loop reads. -/
theorem Hasher.loop_portions {size : Nat} (hsize : 1 ≤ size) (bytes : List UInt8) :
    Loop size bytes .initial ((portions size bytes).foldl Hasher.update .initial) :=
  loop_portionsUpTo hsize le_rfl _

theorem Hasher.Loop.finish {size : Nat} {bytes : List UInt8} (h : Loop size bytes .initial last) :
    last.finish = hash bytes :=
  (Hasher.seen_initial.loop h).finish

end Digest.Sha256

namespace Digest

open Sha256

/-- **Portions**: the digest of a message that arrives in portions is that of the message. -/
theorem ofPortions_eq (parts : List (List UInt8)) : ofPortions parts = ofBytes parts.flatten := by
  rw [ofPortions, (Hasher.seen_initial.foldl parts).finish, List.nil_append, ofBytes]

example : ofPortions [[0x61], [], [0x62, 0x63]] =
    "ba7816bf8f01cfea414140de5dae2223b00361a396177a9cb410ff61f20015ad" := by
  decide +kernel

theorem ofContent_eq (bytes : List UInt8) : ofContent bytes = ofBytes bytes := by
  rw [ofContent, ofPortions, (Hasher.loop_portions (by decide) bytes).finish, ofBytes]

theorem Sha256.Hasher.Loop.ofBytes_eq {size : Nat} {bytes : List UInt8} {last : Hasher}
    (h : Loop size bytes .initial last) : ofBytes bytes = String.ofList (hex last.finish) := by
  rw [ofBytes, h.finish]

end Digest

/-! ## Hashing a file -/

namespace Job

open Sha256

/-- **Hashing a file**: hashing a file that can be read prints its digest and changes no file. The
digest is that of the hash of the bytes in the file, in lower case, whether they are read 64 KiB at
a time or in another way: a loop that reads at most `size` bytes at a time comes to an end, and it
ends with this digest wherever the portions end. -/
theorem hashFile_streams (job : Job) (path : String) (location : Location) (bytes : List UInt8)
    (h : job.files.content path = .ok (location, bytes)) :
    ∃ digest last, job.hashFile path = (.ok digest, last) ∧
      last = job.say (digestLine path digest) ∧ last.files = job.files ∧ IsDigest digest ∧
      (bytes.length < 2 ^ 61 → (∃ result, IsHash bytes result) ∧
        ∀ result, IsHash bytes result → digest = String.ofList (hex result)) ∧
      ∀ size, 1 ≤ size → (∃ hasher, Hasher.Loop size bytes .initial hasher) ∧
        ∀ hasher, Hasher.Loop size bytes .initial hasher →
          digest = String.ofList (hex hasher.finish) := by
  have hdigest : job.files.digest path = .ok (ofContent bytes) :=
    FileSystem.digest_eq_ok_iff.mpr ⟨bytes, FileSystem.read?_of_content h, rfl⟩
  refine ⟨ofContent bytes, _, ?_, rfl, rfl, isDigest_ofContent bytes, fun hlt => ?_,
    fun size hsize => ⟨⟨_, Hasher.loop_portions hsize bytes⟩, fun hasher hloop => ?_⟩⟩
  · rw [hashFile, hdigest]
  · refine ⟨⟨hash bytes, (isHash_iff hlt).mpr rfl⟩, fun result hresult => ?_⟩
    rw [(isHash_iff hlt).mp hresult]
    exact ofContent_eq bytes
  · rw [ofContent_eq, hloop.ofBytes_eq]

/-- A job whose definition file is a block long. -/
def blockLong : Job where
  files := smallTree (String.ofList (List.replicate 64 'x'))

/-- Its digest is that of its bytes, and also that of two portions that fill the block. -/
theorem hashFile_streams_blockLong :
    (∃ result, IsHash (List.replicate 64 0x78) result ∧
      (blockLong.hashFile "res/eventmsgs.mc").1 = .ok (String.ofList (hex result))) ∧
    (blockLong.hashFile "res/eventmsgs.mc").1 = .ok (String.ofList (hex
      ((Hasher.initial.update (List.replicate 32 0x78)).update (List.replicate 32 0x78)).finish)) := by
  have hcontent : blockLong.files.content "res/eventmsgs.mc" =
      .ok (["eventmsgs.mc", "res"], List.replicate 64 0x78) := by decide +kernel
  obtain ⟨digest, last, hhash, -, -, -, hresult, hsizes⟩ :=
    hashFile_streams blockLong "res/eventmsgs.mc" _ _ hcontent
  have hloop : Hasher.Loop 32 (List.replicate 32 0x78 ++ (List.replicate 32 0x78 ++ [])) .initial
      ((Hasher.initial.update (List.replicate 32 0x78)).update (List.replicate 32 0x78)) :=
    .read (by decide) (by decide) (.read (by decide) (by decide) (.stop _))
  obtain ⟨⟨result, hexists⟩, hunique⟩ := hresult (by decide)
  rw [hhash]
  exact ⟨⟨result, hexists, congrArg Except.ok (hunique result hexists)⟩,
    congrArg Except.ok ((hsizes 32 (by decide)).2 _ hloop)⟩

end Job

end EventMessages
