import Retimer.Staging

/-!
# The FPGA behind the I2C controller

What the update tool can rely on: DPRAM and the registers behind it are
one byte memory, which a completed write changes at the address it names
and a failed one only there (`Fpga.step`). From the update register on
the FPGA sets the memory itself, and what it answers to reads of
registers is left open.

A transaction is a list of bytes on the wire. `addressOf` and
`payloadOf` are how the FPGA takes it apart, three bytes of address,
most significant first, and the payload behind them; the lemmas of the
second section have the source's mask-and-shift expressions come out as
the address that was meant (`addressOf_page`, `addressOf_imgSize`,
`addressOf_chksum`) and the payload as little-endian bytes
(`payload32_eq`).

What a step may change is said as a frame: `KeepsStaging` where all of
DPRAM and the two registers stay, `KeepsOutside` where a range is
excepted. The rules for both are reflexivity, transitivity, a larger
range, and a load that is not in the range.
-/

namespace Retimer

open Interaction

/-- The address in front of a payload, most significant byte first. -/
def addressOf (writeData : List UInt8) : Nat := leNat (writeData.take 3).reverse

def payloadOf (writeData : List UInt8) : List UInt8 := writeData.drop 3

/-- Where image data can be: below the registers. -/
def dpramSize : Nat := 0x040000

/-- DPRAM and the size and checksum registers are the same, up to the `n`
bytes from `a`. -/
def KeepsOutside (m m' : ByteMem) (a n : Nat) : Prop :=
  ∀ x, x < fpgaUpdateStatusReg.toNat → (x < a ∨ a + n ≤ x) → m' x = m x

/-- DPRAM and the size and checksum registers are the same. -/
def KeepsStaging (m m' : ByteMem) : Prop := ∀ x, x < fpgaUpdateStatusReg.toNat → m' x = m x

/-- One event, as it changes the memory of the FPGA. A failed write may have
been carried out in part, or not at all; of a completed one all bytes have
arrived. Nothing that is no write from the tool changes the DPRAM or the size
and checksum registers. -/
def Fpga.step (b : Build) : Env Call Answer ByteMem
  | m, ⟨.i2cWrite _ slaveId writeData, answer⟩, m' =>
      if slaveId = b.fpgaI2cCntrlAddr then
        match answer with
        | .ok _ => KeepsStaging (m.store (addressOf writeData) (payloadOf writeData)) m'
        | .failed _ => KeepsOutside m m' (addressOf writeData) (payloadOf writeData).length
      else KeepsStaging m m'
  | m, ⟨.i2cRead _ slaveId writeData n, .ok readData⟩, m' =>
      KeepsStaging m m' ∧ (slaveId = b.fpgaI2cCntrlAddr → addressOf writeData + n ≤ dpramSize →
        readData.toList = m.load (addressOf writeData) n)
  | m, _, m' => KeepsStaging m m'

/-- A write to the update register. -/
def IsTrigger (b : Build) : Call → Prop
  | .i2cWrite _ slaveId writeData =>
      slaveId = b.fpgaI2cCntrlAddr ∧ addressOf writeData = fpgaUpdateStatusReg.toNat
  | _ => False

instance (b : Build) : DecidablePred (IsTrigger b)
  | .i2cWrite _ slaveId writeData =>
      inferInstanceAs (Decidable (slaveId = b.fpgaI2cCntrlAddr ∧ addressOf writeData = _))
  | .i2cRead _ _ _ _ | .emitLogMessage _ | .performing _ | .openFile _ _ | .close _ | .fstat _
  | .ftruncate _ _ | .mmap _ _ | .calloc | .malloc _ | .segfault | .read _ _ | .write _ _
  | .lseek _ _ | .access _ | .mkdir _ | .unlink _ | .evpMdCtxNew | .evpDigestInit
  | .evpDigestUpdate _ | .evpDigestFinal | .evpMdCtxFree | .sdBusMessageRead
  | .sdBusReplyMethodReturn | .sdBusReplyInvalidArgument | .sdBusEmitPropertiesChanged _ =>
      isFalse id

/-! ## Addresses and payloads -/

theorem maskedByte {x mask shift : UInt32} (hshift : shift.toNat < 32)
    (hmask : mask.toNat >>> shift.toNat = 255) :
    ((x &&& mask) >>> shift).toUInt8 = UInt8.ofNat (x.toNat >>> shift.toNat) := by
  apply UInt8.toNat_inj.mp
  rw [UInt32.toNat_toUInt8, UInt32.toNat_shiftRight, Nat.mod_eq_of_lt hshift, UInt32.toNat_and,
    Nat.shiftRight_and_distrib, hmask, Nat.and_two_pow_sub_one_eq_mod _ 8, Nat.mod_mod,
    UInt8.toNat_ofNat']

theorem payload32_eq (x : UInt32) : payload32 x = leBytes 4 x.toNat := by
  simp only [payload32, leBytes]
  rw [maskedByte (by decide) rfl, maskedByte (by decide) rfl, maskedByte (by decide) rfl,
    maskedByte (by decide) rfl]
  simp only [UInt32.reduceToNat, Nat.shiftRight_eq_div_pow, Nat.reducePow, Nat.div_one,
    Nat.div_div_eq_div_mul, Nat.reduceMul]

theorem pageAddress_eq (i : UInt32) :
    pageAddress i = [UInt8.ofNat (i.toNat / 256), UInt8.ofNat i.toNat, 0] := by
  have hmask : (0x00FF : UInt32).toNat = 2 ^ 8 - 1 := rfl
  have hlow : (i &&& 0x00FF).toUInt8 = UInt8.ofNat i.toNat := by
    apply UInt8.toNat_inj.mp
    rw [UInt32.toNat_toUInt8, UInt32.toNat_and, hmask, Nat.and_two_pow_sub_one_eq_mod _ 8,
      Nat.mod_mod, UInt8.toNat_ofNat']
  rw [pageAddress, hlow, maskedByte (by decide) rfl, Nat.shiftRight_eq_div_pow]
  rfl

theorem addressOf_page (i : UInt32) (bs : List UInt8) :
    addressOf (pageAddress i ++ bs) = i.toNat % 2 ^ 16 * bytePerPage := by
  rw [pageAddress_eq]
  simp only [addressOf, List.cons_append, List.take_succ_cons, List.take_zero, List.reverse_cons,
    List.reverse_nil, List.nil_append, leNat, UInt8.toNat_ofNat', UInt8.toNat_zero, bytePerPage]
  omega

theorem addressOf_page_nat {i : Nat} (h : i < 2 ^ 16) (bs : List UInt8) :
    addressOf (pageAddress (UInt32.ofNat i) ++ bs) = i * bytePerPage := by
  rw [addressOf_page, UInt32.toNat_ofNat', Nat.mod_eq_of_lt (a := i) (by omega), Nat.mod_eq_of_lt h]

@[simp] theorem payloadOf_page (i : UInt32) (bs : List UInt8) :
    payloadOf (pageAddress i ++ bs) = bs := rfl

@[simp] theorem payloadOf_reg (reg : UInt32) (bs : List UInt8) :
    payloadOf (regAddress reg ++ bs) = bs := rfl

theorem addressOf_imgSize (bs : List UInt8) :
    addressOf (regAddress fpgaImgSizeReg ++ bs) = fpgaImgSizeReg.toNat := rfl

theorem addressOf_chksum (bs : List UInt8) :
    addressOf (regAddress fpgaChksumReg ++ bs) = fpgaChksumReg.toNat := rfl

theorem addressOf_readStatus_ne (bs : List UInt8) :
    addressOf (regAddress fpgaReadStatusReg ++ bs) ≠ fpgaUpdateStatusReg.toNat := by
  have hreg : addressOf (regAddress fpgaReadStatusReg ++ bs) = fpgaReadStatusReg.toNat := rfl
  rw [hreg]
  decide

theorem addressOf_updateStatus (bs : List UInt8) :
    addressOf (regAddress fpgaUpdateStatusReg ++ bs) = fpgaUpdateStatusReg.toNat := rfl

/-! ## Frames -/

section Frames

variable {m m' m'' : ByteMem} {a n c k : Nat} {bs : List UInt8}

theorem KeepsStaging.outside (h : KeepsStaging m m') : KeepsOutside m m' a n :=
  fun x hx _ => h x hx

theorem KeepsStaging.load (h : KeepsStaging m m') (hin : c + k ≤ fpgaUpdateStatusReg.toNat) :
    m'.load c k = m.load c k :=
  ByteMem.load_congr fun x _ hx => h x (by omega)

theorem KeepsStaging.trans (h : KeepsStaging m m') (h' : KeepsStaging m' m'') :
    KeepsStaging m m'' :=
  fun x hx => (h' x hx).trans (h x hx)

theorem KeepsOutside.refl : KeepsOutside m m a n := fun _ _ _ => rfl

theorem KeepsOutside.trans (h : KeepsOutside m m' a n) (h' : KeepsOutside m' m'' a n) :
    KeepsOutside m m'' a n :=
  fun x hx hout => (h' x hx hout).trans (h x hx hout)

theorem KeepsOutside.mono (h : KeepsOutside m m' c k) (hlo : a ≤ c) (hhi : c + k ≤ a + n) :
    KeepsOutside m m' a n :=
  fun x hx hout => h x hx (by omega)

theorem KeepsOutside.load (h : KeepsOutside m m' a n) (hin : c + k ≤ fpgaUpdateStatusReg.toNat)
    (hdisj : c + k ≤ a ∨ a + n ≤ c) : m'.load c k = m.load c k :=
  ByteMem.load_congr fun x _ _ => h x (by omega) (by omega)

theorem KeepsStaging.of_store (h : KeepsStaging (m.store a bs) m')
    (hin : a + bs.length ≤ fpgaUpdateStatusReg.toNat) :
    m'.load a bs.length = bs ∧ KeepsOutside m m' a bs.length :=
  ⟨(h.load hin).trans ByteMem.load_store_same,
    fun x hx hout => (h x hx).trans (ByteMem.store_outside x hout)⟩

end Frames

end Retimer
