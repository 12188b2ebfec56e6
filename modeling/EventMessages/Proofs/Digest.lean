import EventMessages.Digest

/-!
# EventMessages.Proofs.Digest

What a digest looks like: 64 hexadecimal digits in lower case, whatever the file holds.
-/

namespace EventMessages.Digest

/-! ## Digits -/

/-- The digits of a digest. -/
def isDigit (c : Char) : Bool := ('0' ≤ c && c ≤ '9') || ('a' ≤ c && c ≤ 'f')

theorem isDigit_hexDigit : ∀ n < 16, isDigit (hexDigit n) = true := by decide

theorem isDigit_of_mem_hex {bytes : List UInt8} {c : Char} (h : c ∈ hex bytes) :
    isDigit c = true := by
  obtain ⟨b, -, hc⟩ := List.mem_flatMap.mp h
  have hb : b.toNat < 256 := b.toNat_lt
  obtain rfl | hc := List.mem_cons.mp hc
  · exact isDigit_hexDigit _ (by omega)
  · rw [List.mem_singleton.mp hc]
    exact isDigit_hexDigit _ (by omega)

/-! ## Digests -/

/-- 64 hexadecimal digits in lower case. -/
structure IsDigest (stamp : String) : Prop where
  length : stamp.toList.length = 64
  digits : ∀ c ∈ stamp.toList, isDigit c = true

/-- **Digests**: hashing a file gives a digest. -/
theorem isDigest_ofContent (bytes : List UInt8) : IsDigest (ofContent bytes) := by
  rw [ofContent, ofPortions]
  constructor
  · rw [String.toList_ofList, length_hex, Sha256.Hasher.finish, Sha256.Chain.length_bytes]
  · rw [String.toList_ofList]
    exact fun c hc => isDigit_of_mem_hex hc

theorem IsDigest.notMem {stamp : String} (h : IsDigest stamp) {c : Char}
    (hc : isDigit c = false) : c ∉ stamp.toList := by
  intro hm
  rw [h.digits c hm] at hc
  contradiction

theorem IsDigest.ne_nil {stamp : String} (h : IsDigest stamp) : stamp.toList ≠ [] := by
  intro he
  have hl := h.length
  rw [he] at hl
  contradiction

end EventMessages.Digest
