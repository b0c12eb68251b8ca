import Retimer.PublishedHash

/-!
# The text of a digest

The hash is turned into text in a buffer of 96 bytes, two characters and
a NUL at a time. The NUL of the last step is behind the buffer, and the
copy into the digest reads it from there. What is published is the right
text all the same, as long as nothing else uses that byte.

The loop of the service works on a list that has the byte behind the
buffer as its last element, so nothing is out of bounds in it.
`sprintfWrites` says which bytes each step of the source writes;
`encodeHash_writes` has the loop be these writes, one after the other,
and so ties what is said of offsets to what is computed.
`sprintf_inside_iff` decides for each step whether it stays inside,
`strncpyReads_encodeHash` how far the copy looks. That the result is the
text of the hash (`IsTextOf`) is a round trip through `hexBytes`.
-/

namespace Retimer

open Interaction

/-! ## What is written and read -/

/-- The `sprintf` calls of the loop, from byte `i` on: the offset in `hashValue`
and what is written there, its NUL included. -/
def sprintfWrites : List UInt8 → Nat → List (Nat × List UInt8)
  | [], _ => []
  | c :: hash, i => (2 * i, hexByte c ++ [0]) :: sprintfWrites hash (i + 1)

/-- The number of bytes that `strncpy` looks at: up to the first NUL, and `n` at
most. -/
def strncpyReads (src : List UInt8) (n : Nat) : Nat :=
  min n ((src.takeWhile (· ≠ 0)).length + 1)

/-- `0` to `9` and `a` to `f` -/
def IsLowerHex (c : UInt8) : Prop := (0x30 ≤ c ∧ c ≤ 0x39) ∨ (0x61 ≤ c ∧ c ≤ 0x66)

instance : DecidablePred IsLowerHex := fun _ => inferInstanceAs (Decidable (_ ∨ _))

/-- What `hashDigest` should be: the text of the hash, ended by a NUL. -/
def IsTextOf (hash : Vector UInt8 48) (hashDigest : List UInt8) : Prop :=
  ∃ text, hashDigest = text ++ [0] ∧ text.length = 96 ∧ (∀ c ∈ text, IsLowerHex c)
    ∧ hexBytes text = some hash.toList

/-- Both loops stay inside `hashValue`, and the result is the text. `behind` is
the byte behind `hashValue` before: whatever the linker has put there. -/
structure EncodesInBounds (hash : Vector UInt8 48) (behind : UInt8) : Prop where
  writes : ∀ w ∈ sprintfWrites hash.toList 0, w.1 + w.2.length ≤ 2 * hashLength
  reads : strncpyReads (encodeHash hash.toList 0 (initialHashValue behind)) hashDigestSize
    ≤ 2 * hashLength
  text : IsTextOf hash (strncpyDigest (encodeHash hash.toList 0 (initialHashValue behind)))

section Loop

variable {hash : Vector UInt8 48} {behind : UInt8} {bytes : List UInt8}

/-- The loop makes these writes. -/
theorem encodeHash_writes {i : Nat} {hashValue : List UInt8} : encodeHash bytes i hashValue
    = (sprintfWrites bytes i).foldl (fun buf w => overwrite buf w.1 w.2) hashValue := by
  induction bytes generalizing i hashValue with
  | nil => rfl
  | cons c bytes ih => exact ih

theorem getElem?_sprintfWrites {i j : Nat} :
    (sprintfWrites bytes i)[j]? = bytes[j]?.map fun c => (2 * (i + j), hexByte c ++ [0]) := by
  induction bytes generalizing i j with
  | nil => rfl
  | cons c bytes ih =>
      cases j with
      | zero => rfl
      | succ j =>
          rw [sprintfWrites, List.getElem?_cons_succ, List.getElem?_cons_succ, ih]
          rw [Nat.add_right_comm, Nat.add_assoc]

/-- Every step but the last stays inside. A step writes two digits and a NUL,
and the NUL is overwritten by the next one, which the last does not have. -/
theorem sprintf_inside_iff {j : Nat} {w : Nat × List UInt8}
    (h : (sprintfWrites hash.toList 0)[j]? = some w) :
    w.1 + w.2.length ≤ 2 * hashLength ↔ j ≠ 47 := by
  rw [getElem?_sprintfWrites] at h
  obtain ⟨c, hc, rfl⟩ := Option.map_eq_some_iff.mp h
  have hlt : j < 48 := by
    have := (List.getElem?_eq_some_iff.mp hc).1
    rwa [Vector.length_toList] at this
  simp only [Nat.zero_add, hexByte, hashLength, List.length_append, List.length_cons,
    List.length_nil]
  omega

/-- The copy looks at the byte behind: the text fills the buffer, and its NUL is
the first byte that does not belong to it. -/
theorem strncpyReads_encodeHash :
    strncpyReads (encodeHash hash.toList 0 (initialHashValue behind)) hashDigestSize
      = 2 * hashLength + 1 := by
  rw [encodeHash_initial, strncpyReads, takeWhile_hexText, length_hexText]
  rfl

end Loop

/-! ## The text -/

section Text

variable {hash : Vector UInt8 48} {bytes : List UInt8}

theorem hexDigit_lower {n : Nat} (h : n < 16) : IsLowerHex (hexDigit n) := by
  revert n
  decide

theorem hexValue_hexDigit {n : Nat} (h : n < 16) : hexValue (hexDigit n) = some n := by
  revert n
  decide

theorem hexBytes_flatMap : hexBytes (bytes.flatMap hexByte) = some bytes := by
  induction bytes with
  | nil => rfl
  | cons c bytes ih =>
      have hc := c.toNat_lt
      have hbyte : UInt8.ofNat (16 * (c.toNat / 16) + c.toNat % 16) = c := by
        rw [Nat.div_add_mod, UInt8.ofNat_toNat]
      rw [List.flatMap_cons, hexByte, List.cons_append, List.cons_append, List.nil_append, hexBytes,
        hexValue_hexDigit (by omega), hexValue_hexDigit (by omega), ih]
      simp only [hbyte]

theorem hexText_lower : ∀ c ∈ hexText hash, IsLowerHex c := by
  intro c hc
  obtain ⟨n, hn, rfl⟩ := mem_hexText hc
  exact hexDigit_lower hn

theorem isTextOf_hexText : IsTextOf hash (hexText hash ++ [0]) :=
  ⟨hexText hash, rfl, length_hexText, hexText_lower, hexBytes_flatMap⟩

end Text

/-- **The encoding of the digest.** For no hash does it stay in its buffer: of the
writes it is made of, the last `sprintf` puts its NUL behind it, and `strncpy` reads it
there. The digest is the text of the hash nevertheless. -/
theorem encoding_outOfBounds (hash : Vector UInt8 48) (behind : UInt8) :
    ¬EncodesInBounds hash behind
      ∧ encodeHash hash.toList 0 (initialHashValue behind)
        = (sprintfWrites hash.toList 0).foldl (fun buf w => overwrite buf w.1 w.2)
          (initialHashValue behind)
      ∧ (∀ j w, (sprintfWrites hash.toList 0)[j]? = some w →
        (w.1 + w.2.length ≤ 2 * hashLength ↔ j ≠ 47))
      ∧ strncpyReads (encodeHash hash.toList 0 (initialHashValue behind)) hashDigestSize
        = 2 * hashLength + 1
      ∧ IsTextOf hash (strncpyDigest (encodeHash hash.toList 0 (initialHashValue behind))) := by
  refine ⟨fun h => ?_, encodeHash_writes, fun _ _ => sprintf_inside_iff, strncpyReads_encodeHash,
    ?_⟩
  · have hreads := h.reads
    rw [strncpyReads_encodeHash] at hreads
    omega
  · rw [encodeHash_initial, strncpyDigest_hexText]
    exact isTextOf_hexText

/-- The hash of 48 zeros, and the write of its last byte. -/
theorem zero_hash_outOfBounds :
    ¬∀ (hash : Vector UInt8 48) (behind : UInt8), EncodesInBounds hash behind := by
  intro h
  have hlast : (94, hexByte 0 ++ [0]) ∈ sprintfWrites (Vector.replicate 48 0).toList 0 := by
    decide
  exact absurd ((h (Vector.replicate 48 0) 0).writes _ hlast) (by decide)

end Retimer
