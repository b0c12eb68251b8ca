import Mathlib.Tactic.Common
import Mathlib.Tactic.Ring
import Mathlib.Data.List.GetD

/-!
# Byte strings, little-endian words and byte memory

What a program that moves bytes to a device needs.

- A `slice` of a byte string by offset and length, as C code reads one.
  The rules are how slices lie next to each other (`slice_append_drop`),
  in a prefix or behind it (`slice_append_left`, `slice_append_right`)
  and in each other (`slice_slice`). `overwrite` is the store that goes
  with it.
- The hexadecimal digits of a number (`hexDigits`) and back
  (`hexNumber`), in ASCII and as `%X` and `std::stoi` have them. Reading
  takes both cases and writing makes capitals, so the round trip is one
  way (`hexNumber_hexDigits`), and at a fixed width the digits determine
  the number (`hexDigits_injective`).
- The little-endian value of a byte string (`leNat`) with its inverse at
  a fixed width (`leBytes`); a number that does not fit is taken modulo
  the width (`leNat_leBytes`).
- A byte-addressed memory with `load` and `store`. A store is described
  by two rules, what it puts inside its range (`load_store_same`) and
  that it is the identity outside (`store_outside`); `AgreeOutside` is
  the second alone, for a store of which nothing else is known.
-/

namespace Interaction

/-! ## Slices -/

/-- The `len` bytes from offset `off`, fewer where the string ends before:
nothing is read past the end, and whoever needs all `len` of them shows that
they are there. -/
def slice {α : Type} (bs : List α) (off len : Nat) : List α := (bs.drop off).take len

section Slice

variable {α : Type} {bs bs' : List α} {off len : Nat}

theorem length_slice (h : off + len ≤ bs.length) : (slice bs off len).length = len := by
  simp only [slice, List.length_take, List.length_drop]
  omega

@[simp] theorem slice_zero_length (bs : List α) : slice bs 0 bs.length = bs := by
  simp [slice]

theorem slice_append_drop : slice bs off len ++ bs.drop (off + len) = bs.drop off := by
  rw [slice, ← List.drop_drop, List.take_append_drop]

theorem getElem?_slice {i : Nat} :
    (slice bs off len)[i]? = if i < len then bs[off + i]? else none := by
  simp only [slice, List.getElem?_take, List.getElem?_drop]

theorem slice_append_left (h : off + len ≤ bs.length) :
    slice (bs ++ bs') off len = slice bs off len := by
  apply List.ext_getElem?
  intro i
  simp only [getElem?_slice]
  split
  · rw [List.getElem?_append_left (by omega)]
  · rfl

theorem slice_append_right (h : bs.length ≤ off) :
    slice (bs ++ bs') off len = slice bs' (off - bs.length) len := by
  apply List.ext_getElem?
  intro i
  simp only [getElem?_slice]
  split
  · rw [List.getElem?_append_right (by omega), Nat.sub_add_comm h]
  · rfl

theorem slice_mid (xs ys zs : List α) :
    slice (xs ++ ys ++ zs) xs.length ys.length = ys := by
  rw [slice_append_left (by simp), slice_append_right (Nat.le_refl _)]
  simp

theorem slice_slice {off' len' : Nat} (h : off' + len' ≤ len) :
    slice (slice bs off len) off' len' = slice bs (off + off') len' := by
  apply List.ext_getElem?
  intro i
  simp only [getElem?_slice]
  split
  · rw [if_pos (by omega), Nat.add_assoc]
  · rfl

/-- `buf` with `bs` written over it from `off` on. -/
def overwrite (buf : List α) (off : Nat) (bs : List α) : List α :=
  buf.take off ++ bs ++ buf.drop (off + bs.length)

end Slice

/-! ## Hexadecimal digits -/

def hexValue (c : UInt8) : Option Nat :=
  if 0x30 ≤ c ∧ c ≤ 0x39 then some (c.toNat - 0x30)
  else if 0x61 ≤ c ∧ c ≤ 0x66 then some (c.toNat - 0x57)
  else if 0x41 ≤ c ∧ c ≤ 0x46 then some (c.toNat - 0x37)
  else none

def hexBytes : List UInt8 → Option (List UInt8)
  | [] => some []
  | [_] => none
  | c :: d :: text =>
      match hexValue c, hexValue d, hexBytes text with
      | some x, some y, some bytes => some (UInt8.ofNat (16 * x + y) :: bytes)
      | _, _, _ => none

/-- The number that digits stand for. -/
def hexNumber : List UInt8 → Option Nat
  | [] => some 0
  | c :: text =>
      match hexValue c, hexNumber text with
      | some x, some y => some (x * 16 ^ text.length + y)
      | _, _ => none

def upperDigit (n : Nat) : UInt8 := UInt8.ofNat (if n < 10 then 0x30 + n else 0x37 + n)

/-- The `n` digits of an `x < 16 ^ n`, in upper case. -/
def hexDigits : Nat → Nat → List UInt8
  | 0, _ => []
  | n + 1, x => upperDigit (x / 16 ^ n) :: hexDigits n (x % 16 ^ n)

section Hex

variable {c : UInt8} {text : List UInt8} {x n : Nat}

theorem hexValue_eq_toNat : hexValue c =
    if 0x30 ≤ c.toNat ∧ c.toNat ≤ 0x39 then some (c.toNat - 0x30)
    else if 0x61 ≤ c.toNat ∧ c.toNat ≤ 0x66 then some (c.toNat - 0x57)
    else if 0x41 ≤ c.toNat ∧ c.toNat ≤ 0x46 then some (c.toNat - 0x37)
    else none := by
  simp only [hexValue, UInt8.le_iff_toNat_le, UInt8.reduceToNat]

theorem hexValue_lt (h : hexValue c = some x) : x < 16 := by
  rw [hexValue_eq_toNat] at h
  grind

theorem eq_zero_of_hexValue (h : hexValue c = some 0) : c = 0x30 := by
  rw [hexValue_eq_toNat] at h
  apply UInt8.toNat_inj.mp
  show c.toNat = 0x30
  grind

theorem hexValue_upperDigit (h : x < 16) : hexValue (upperDigit x) = some x := by
  revert x
  decide

theorem hexNumber_cons_iff : hexNumber (c :: text) = some x ↔
    ∃ y z, hexValue c = some y ∧ hexNumber text = some z ∧ x = y * 16 ^ text.length + z := by
  rw [hexNumber]
  cases hexValue c <;> cases hexNumber text <;> simp [eq_comm]

theorem hexNumber_lt (h : hexNumber text = some x) : x < 16 ^ text.length := by
  induction text generalizing x with
  | nil =>
      obtain rfl := Option.some.inj h
      exact Nat.zero_lt_one
  | cons c text ih =>
      obtain ⟨y, z, hy, hz, rfl⟩ := hexNumber_cons_iff.mp h
      calc y * 16 ^ text.length + z
          < y * 16 ^ text.length + 16 ^ text.length := Nat.add_lt_add_left (ih hz) _
        _ = (y + 1) * 16 ^ text.length := (Nat.succ_mul _ _).symm
        _ ≤ 16 * 16 ^ text.length := Nat.mul_le_mul_right _ (hexValue_lt hy)
        _ = 16 ^ (c :: text).length := (Nat.pow_succ' ..).symm

theorem hexNumber_isSome_iff :
    (hexNumber text).isSome ↔ ∀ c ∈ text, (hexValue c).isSome := by
  induction text with
  | nil => simp [hexNumber]
  | cons c text ih =>
      rw [List.forall_mem_cons, ← ih, hexNumber]
      cases hexValue c <;> cases hexNumber text <;> simp

theorem hexNumber_zeros : hexNumber (List.replicate n 0x30 ++ text) = hexNumber text := by
  induction n with
  | zero => rfl
  | succ n ih =>
      have hzero : hexValue 0x30 = some 0 := rfl
      rw [List.replicate_succ, List.cons_append, hexNumber, ih, hzero]
      cases hexNumber text <;> simp

@[simp] theorem length_hexDigits : (hexDigits n x).length = n := by
  induction n generalizing x with
  | zero => rfl
  | succ n ih => rw [hexDigits, List.length_cons, ih]

theorem hexNumber_hexDigits (h : x < 16 ^ n) : hexNumber (hexDigits n x) = some x := by
  induction n generalizing x with
  | zero =>
      obtain rfl : x = 0 := by omega
      rfl
  | succ n ih =>
      have hpos : 0 < 16 ^ n := Nat.pow_pos (by decide)
      have hdigit : x / 16 ^ n < 16 := Nat.div_lt_of_lt_mul (by rwa [← Nat.pow_succ])
      refine hexNumber_cons_iff.mpr
        ⟨_, _, hexValue_upperDigit hdigit, ih (Nat.mod_lt x hpos), ?_⟩
      rw [length_hexDigits, Nat.div_add_mod']

theorem hexDigits_injective {y : Nat} (hx : x < 16 ^ n) (hy : y < 16 ^ n)
    (h : hexDigits n x = hexDigits n y) : x = y := by
  have hnumber : some x = some y := by
    rw [← hexNumber_hexDigits hx, h, hexNumber_hexDigits hy]
  exact Option.some.inj hnumber

end Hex

/-! ## Little-endian values -/

/-- The little-endian value of a byte string. -/
def leNat : List UInt8 → Nat
  | [] => 0
  | b :: bs => b.toNat + 256 * leNat bs

/-- The `n` low bytes of `x`, lowest first. -/
def leBytes : Nat → Nat → List UInt8
  | 0, _ => []
  | n + 1, x => UInt8.ofNat x :: leBytes n (x / 256)

@[simp] theorem length_leBytes (n x : Nat) : (leBytes n x).length = n := by
  induction n generalizing x with
  | zero => rfl
  | succ n ih => simp only [leBytes, List.length_cons, ih]

theorem leNat_leBytes (n x : Nat) : leNat (leBytes n x) = x % 256 ^ n := by
  induction n generalizing x with
  | zero => simp [leNat, leBytes, Nat.mod_one]
  | succ n ih =>
      simp only [leBytes, leNat, ih, UInt8.toNat_ofNat', Nat.reducePow]
      rw [Nat.pow_succ, Nat.mul_comm (256 ^ n) 256, Nat.mod_mul]

/-! ## Byte memory -/

/-- A byte-addressed memory. -/
abbrev ByteMem : Type := Nat → UInt8

namespace ByteMem

def load (m : ByteMem) (a n : Nat) : List UInt8 := (List.range n).map fun i => m (a + i)

def store (m : ByteMem) (a : Nat) (bs : List UInt8) : ByteMem :=
  fun x => if a ≤ x then bs.getD (x - a) (m x) else m x

/-- `m'` is `m` up to the `n` bytes from `a`. What those have become is left
open, as by a store that was interrupted. -/
def AgreeOutside (m m' : ByteMem) (a n : Nat) : Prop :=
  ∀ x, x < a ∨ a + n ≤ x → m' x = m x

variable {m m' : ByteMem} {a b n : Nat} {bs cs : List UInt8}

@[simp] theorem length_load : (load m a n).length = n := by simp [load]

theorem getElem?_load {i : Nat} :
    (load m a n)[i]? = if i < n then some (m (a + i)) else none := by
  rw [load, List.getElem?_map]
  split
  · next h => rw [List.getElem?_range h]; rfl
  · next h => rw [List.getElem?_eq_none (by simpa using h)]; rfl

theorem load_congr (h : ∀ x, a ≤ x → x < a + n → m' x = m x) :
    load m' a n = load m a n := by
  apply List.map_congr_left
  intro i hi
  have := List.mem_range.mp hi
  exact h _ (by omega) (by omega)

theorem store_inside {i : Nat} (h : i < bs.length) : store m a bs (a + i) = bs[i] := by
  simp only [store, Nat.le_add_right, ↓reduceIte, Nat.add_sub_cancel_left]
  exact List.getD_eq_getElem _ _ h

theorem store_outside : AgreeOutside m (store m a bs) a bs.length := by
  intro x hx
  simp only [store]
  split
  · exact List.getD_eq_default _ _ (by omega)
  · rfl

theorem load_store_same : load (store m a bs) a bs.length = bs := by
  apply List.ext_getElem?
  intro i
  rw [getElem?_load]
  split
  · next h => rw [store_inside h, List.getElem?_eq_getElem h]
  · next h => exact (List.getElem?_eq_none (by omega)).symm

theorem take_load {k : Nat} (h : k ≤ n) : (load m a n).take k = load m a k := by
  rw [load, ← List.map_take, List.take_range, Nat.min_eq_left h]
  rfl

theorem load_append {k : Nat} : load m a n ++ load m (a + n) k = load m a (n + k) := by
  apply List.ext_getElem?
  intro i
  simp only [List.getElem?_append, length_load, getElem?_load]
  split
  · next h => rw [if_pos (Nat.lt_add_right k h)]
  · next h =>
      by_cases hk : i - n < k
      · rw [if_pos hk, if_pos (by omega), Nat.add_assoc, Nat.add_sub_cancel' (by omega)]
      · rw [if_neg hk, if_neg (by omega)]

end ByteMem

end Interaction
