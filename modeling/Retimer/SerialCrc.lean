import Retimer.TableCrc

/-!
# Bit-serial CRC registers

The CRC of a bit string as it is defined: the register is shifted by one
place for each bit, and the generator polynomial is subtracted where the
bit shifted out and the bit coming in differ (`shiftBit`, `serial`).
This is the specification that a table-driven register is to be compared
with.

Two facts make the comparison. Shifting is linear in register and input
together (`shiftBit_xor`, over several bits `foldl_shiftBit_xor`), and a
register that is fed its own leading bits does nothing but shift
(`foldl_shiftBit_own`). So the register after a byte is the sum of a
shift by eight and of what the table index (the byte shifted out plus
the byte coming in) would leave of zero: `serialByte_eq_step`. A table
of the latter makes a table-driven register, and `run_eq_serial` has the
two agree on every string of bytes, from every register.
-/

namespace SerialCrc

variable {w : Nat} {poly : BitVec w}

/-- One bit into the register, most significant end first: the place that
becomes free at the low end is filled by the polynomial, where it is subtracted
at all. -/
def shiftBit (poly s : BitVec w) (b : Bool) : BitVec w :=
  if s.msb ^^ b then (s <<< 1) ^^^ poly else s <<< 1

def byteBits (c : BitVec 8) : List Bool := (List.range 8).map c.getMsbD

def serialByte (poly s : BitVec w) (c : BitVec 8) : BitVec w :=
  (byteBits c).foldl (shiftBit poly) s

/-- The register after the bits of all bytes. -/
def serial (poly s : BitVec w) (bs : List (BitVec 8)) : BitVec w :=
  (bs.flatMap byteBits).foldl (shiftBit poly) s

theorem serial_cons (s : BitVec w) (b : BitVec 8) (bs : List (BitVec 8)) :
    serial poly s (b :: bs) = serial poly (serialByte poly s b) bs := by
  rw [serial, List.flatMap_cons, List.foldl_append]
  rfl

/-! ## Linearity -/

theorem shiftBit_xor (s t : BitVec w) (b c : Bool) :
    shiftBit poly (s ^^^ t) (b ^^ c) = shiftBit poly s b ^^^ shiftBit poly t c := by
  have hbit : ((s ^^^ t).msb ^^ (b ^^ c)) = ((s.msb ^^ b) ^^ (t.msb ^^ c)) := by
    rw [BitVec.msb_xor, Bool.xor_assoc, Bool.xor_assoc, Bool.xor_left_comm t.msb]
  have hcancel : (s <<< 1) ^^^ poly ^^^ ((t <<< 1) ^^^ poly) = (s <<< 1) ^^^ (t <<< 1) := by
    calc (s <<< 1) ^^^ poly ^^^ ((t <<< 1) ^^^ poly)
        = (s <<< 1) ^^^ (t <<< 1) ^^^ (poly ^^^ poly) := by ac_rfl
      _ = (s <<< 1) ^^^ (t <<< 1) := by rw [BitVec.xor_self, BitVec.xor_zero]
  simp only [shiftBit, hbit, BitVec.shiftLeft_xor_distrib]
  cases s.msb ^^ b <;> cases t.msb ^^ c
  · rfl
  · exact BitVec.xor_assoc _ _ _
  · show (s <<< 1) ^^^ (t <<< 1) ^^^ poly = (s <<< 1) ^^^ poly ^^^ (t <<< 1)
    ac_rfl
  · exact hcancel.symm

/-- The bits come in one by one on both sides. -/
theorem foldl_shiftBit_xor (bits : List Nat) (x y : Nat → Bool) (s t : BitVec w) :
    (bits.map fun i => x i ^^ y i).foldl (shiftBit poly) (s ^^^ t)
      = (bits.map x).foldl (shiftBit poly) s ^^^ (bits.map y).foldl (shiftBit poly) t := by
  induction bits generalizing s t with
  | nil => rfl
  | cons i bits ih =>
      simp only [List.map_cons, List.foldl_cons]
      rw [shiftBit_xor, ih]

theorem serialByte_xor (s t : BitVec w) (c d : BitVec 8) :
    serialByte poly (s ^^^ t) (c ^^^ d) = serialByte poly s c ^^^ serialByte poly t d := by
  have hbits : byteBits (c ^^^ d) = (List.range 8).map fun i => c.getMsbD i ^^ d.getMsbD i := by
    refine List.map_congr_left fun i _ => ?_
    exact BitVec.getMsbD_xor
  rw [serialByte, hbits, foldl_shiftBit_xor]
  rfl

/-! ## Leading bits -/

/-- The leading bits of the register cancel against themselves. -/
theorem foldl_shiftBit_own (s : BitVec w) (n : Nat) :
    ((List.range n).map s.getMsbD).foldl (shiftBit poly) s = s <<< n := by
  induction n with
  | zero => simp
  | succ n ih =>
      have hmsb : (s <<< n).msb = s.getMsbD n := by
        rw [BitVec.msb, BitVec.getMsbD_shiftLeft, Nat.zero_add]
      rw [List.range_succ, List.map_append, List.foldl_append, ih]
      show shiftBit poly (s <<< n) (s.getMsbD n) = s <<< (n + 1)
      rw [shiftBit, hmsb, Bool.xor_self, if_neg Bool.false_ne_true, BitVec.shiftLeft_add]

theorem byteBits_top (s : BitVec w) (hw : 8 ≤ w) :
    byteBits ((s >>> (w - 8)).setWidth 8) = (List.range 8).map s.getMsbD := by
  refine List.map_congr_left fun i hi => ?_
  have hlt : i < 8 := List.mem_range.mp hi
  have hidx : w - 8 + (8 - 1 - i) = w - 1 - i := by omega
  have hpos : i < w := by omega
  simp [BitVec.getMsbD_eq_getLsbD, hlt, hidx, hpos]
  omega

/-- **Eight bits are a table step.** The bits that fall out of the register
decide what is subtracted, and they are those of the table index, so the whole
byte can be looked up. -/
theorem serialByte_eq_step (hw : 8 ≤ w) (s : BitVec w) (c : BitVec 8) :
    serialByte poly s c = TableCrc.step (serialByte poly 0#w) s c := by
  have hsplit : serialByte poly s c
      = serialByte poly s ((s >>> (w - 8)).setWidth 8) ^^^ serialByte poly 0#w
        (TableCrc.index s c) := by
    rw [← serialByte_xor, BitVec.xor_zero, TableCrc.index, ← BitVec.xor_assoc, BitVec.xor_self,
      BitVec.zero_xor]
  have hshift : serialByte poly s ((s >>> (w - 8)).setWidth 8) = s <<< 8 := by
    rw [serialByte, byteBits_top s hw, foldl_shiftBit_own]
  rw [hsplit, hshift]
  rfl

/-- **Table-driven registers.** With the table of the polynomial, a
table-driven register is the bit-serial one. -/
theorem run_eq_serial {T : BitVec 8 → BitVec w} (hw : 8 ≤ w)
    (hT : ∀ i, T i = serialByte poly 0#w i) (s : BitVec w) (bs : List (BitVec 8)) :
    TableCrc.run T s bs = serial poly s bs := by
  obtain rfl : T = serialByte poly 0#w := funext hT
  induction bs generalizing s with
  | nil => rfl
  | cons b bs ih =>
      rw [TableCrc.run_cons, ih, serial_cons, serialByte_eq_step hw]

end SerialCrc
