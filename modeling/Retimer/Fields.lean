import Retimer.Bytes

/-!
# Fields of a byte string

A format lays its fields out one behind the other. `Fields` is what a
reader sees of that: each field stands where the ones in front of it
end. A writer sees the concatenation of the fields, and the two are the
same: inside a longer string (`slice_flatten_iff`) and for a string that
is nothing else (`eq_flatten_iff`).

So a statement about a format can be read off at the offsets that a
parser uses and proved from the string that an encoder makes, or the
other way round. `fields_append` splits a layout where a table of
entries starts, and `Fields.unique` says that the lengths of the fields
determine them: two readings of one string with equal lengths are equal.

The last section has what is needed to have numbers as fields: a word of
`n` bytes is the little-endian value it was made from, and every string
of `n` bytes is such a word (`leBytes_leNat`, `leBytes_injective`).
-/

namespace Interaction

variable {α : Type}

/-- The fields stand in `bs` one behind the other, from `off` on. -/
def Fields (bs : List α) : Nat → List (List α) → Prop
  | _, [] => True
  | off, x :: xs => slice bs off x.length = x ∧ Fields bs (off + x.length) xs

variable {bs : List α} {off m n : Nat} {x : List α} {xs ys : List (List α)}

@[simp] theorem fields_nil : Fields bs off [] := trivial

@[simp] theorem fields_cons :
    Fields bs off (x :: xs) ↔ slice bs off x.length = x ∧ Fields bs (off + x.length) xs := Iff.rfl

theorem slice_add : slice bs off (m + n) = slice bs off m ++ slice bs (off + m) n := by
  simp only [slice, List.take_add, List.drop_drop]

theorem fields_append : Fields bs off (xs ++ ys) ↔
    Fields bs off xs ∧ Fields bs (off + xs.flatten.length) ys := by
  induction xs generalizing off with
  | nil => simp
  | cons x xs ih =>
      rw [List.cons_append, fields_cons, fields_cons, ih, and_assoc, List.flatten_cons,
        List.length_append, Nat.add_assoc]

theorem slice_flatten_iff : slice bs off xs.flatten.length = xs.flatten ↔ Fields bs off xs := by
  induction xs generalizing off with
  | nil => simp [slice]
  | cons x xs ih =>
      rw [List.flatten_cons, List.length_append, slice_add, fields_cons, ← ih]
      constructor
      · intro h
        have hlen := congrArg List.length h
        rw [List.length_append, List.length_append] at hlen
        refine List.append_inj h ?_
        have hx : (slice bs off x.length).length ≤ x.length := List.length_take_le _ _
        have hxs : (slice bs (off + x.length) xs.flatten.length).length ≤ xs.flatten.length :=
          List.length_take_le _ _
        omega
      · rintro ⟨hx, hxs⟩
        rw [hx, hxs]

theorem eq_flatten_iff : bs = xs.flatten ↔ xs.flatten.length = bs.length ∧ Fields bs 0 xs := by
  rw [← slice_flatten_iff]
  constructor
  · intro h
    rw [← h]
    exact ⟨rfl, slice_zero_length bs⟩
  · rintro ⟨hlen, h⟩
    rw [← h, hlen, slice_zero_length]

theorem Fields.unique (h : Fields bs off xs) (h' : Fields bs off ys)
    (hlen : xs.map List.length = ys.map List.length) : xs = ys := by
  induction xs generalizing off ys with
  | nil => exact (List.map_eq_nil_iff.mp hlen.symm).symm
  | cons x xs ih =>
      cases ys with
      | nil => cases hlen
      | cons y ys =>
          obtain ⟨hx, hxs⟩ := List.cons.inj hlen
          obtain rfl : x = y := by rw [← h.1, ← h'.1, hx]
          rw [ih h.2 h'.2 hxs]

/-! ## Words -/

theorem leNat_lt (bs : List UInt8) : leNat bs < 256 ^ bs.length := by
  induction bs with
  | nil => exact Nat.zero_lt_one
  | cons c bs ih =>
      have hc := c.toNat_lt
      rw [leNat, List.length_cons, Nat.pow_succ]
      omega

theorem leBytes_leNat (bs : List UInt8) : leBytes bs.length (leNat bs) = bs := by
  induction bs with
  | nil => rfl
  | cons c bs ih =>
      have hc := c.toNat_lt
      have hlow : UInt8.ofNat (c.toNat + 256 * leNat bs) = c := by
        apply UInt8.toNat_inj.mp
        rw [UInt8.toNat_ofNat']
        omega
      have hhigh : (c.toNat + 256 * leNat bs) / 256 = leNat bs := by omega
      rw [leNat, List.length_cons, leBytes, hlow, hhigh, ih]

theorem leBytes_injective {x y n : Nat} (hx : x < 256 ^ n) (hy : y < 256 ^ n)
    (h : leBytes n x = leBytes n y) : x = y := by
  rw [← Nat.mod_eq_of_lt hx, ← Nat.mod_eq_of_lt hy, ← leNat_leBytes, h, leNat_leBytes]

end Interaction
