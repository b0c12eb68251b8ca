import Mathlib.Data.List.Nodup
import Retimer.Bytes
import Retimer.TableCrc

/-!
# `crc32`

The CRC of the image headers, the images and the FPGA's checksum
register, with the table as it stands in the source. The function takes
its length as an `int` and counts it down to 0, and it is called with
lengths that are a `size_t`; `crcRounds` and `toInt32` say what becomes
of them. For lengths that fit, `crc32_eq_foldl` makes the loop a fold
over the bytes of the buffer.

The table's one property that detection of errors rests on is that its
low bytes are all different (`crc32TableLow_nodup`, by evaluation); with
it the register is an instance of `TableCrc`. `tableBits` is the table
on bit vectors, `crcStep_toBitVec` and `crcFold_toBitVec` the
translation of one round and of a whole run, and `crcFold_ne_of_burst`
is what the library then says of strings that differ in a window of four
bytes.
-/

namespace Retimer

def crc32Table : List UInt32 :=
  [ 0x00000000, 0x04c11db7, 0x09823b6e, 0x0d4326d9, 0x130476dc, 0x17c56b6b, 0x1a864db2, 0x1e475005,
    0x2608edb8, 0x22c9f00f, 0x2f8ad6d6, 0x2b4bcb61, 0x350c9b64, 0x31cd86d3, 0x3c8ea00a, 0x384fbdbd,
    0x4c11db70, 0x48d0c6c7, 0x4593e01e, 0x4152fda9, 0x5f15adac, 0x5bd4b01b, 0x569796c2, 0x52568b75,
    0x6a1936c8, 0x6ed82b7f, 0x639b0da6, 0x675a1011, 0x791d4014, 0x7ddc5da3, 0x709f7b7a, 0x745e66cd,
    0x9823b6e0, 0x9ce2ab57, 0x91a18d8e, 0x95609039, 0x8b27c03c, 0x8fe6dd8b, 0x82a5fb52, 0x8664e6e5,
    0xbe2b5b58, 0xbaea46ef, 0xb7a96036, 0xb3687d81, 0xad2f2d84, 0xa9ee3033, 0xa4ad16ea, 0xa06c0b5d,
    0xd4326d90, 0xd0f37027, 0xddb056fe, 0xd9714b49, 0xc7361b4c, 0xc3f706fb, 0xceb42022, 0xca753d95,
    0xf23a8028, 0xf6fb9d9f, 0xfbb8bb46, 0xff79a6f1, 0xe13ef6f4, 0xe5ffeb43, 0xe8bccd9a, 0xec7dd02d,
    0x34867077, 0x30476dc0, 0x3d044b19, 0x39c556ae, 0x278206ab, 0x23431b1c, 0x2e003dc5, 0x2ac12072,
    0x128e9dcf, 0x164f8078, 0x1b0ca6a1, 0x1fcdbb16, 0x018aeb13, 0x054bf6a4, 0x0808d07d, 0x0cc9cdca,
    0x7897ab07, 0x7c56b6b0, 0x71159069, 0x75d48dde, 0x6b93dddb, 0x6f52c06c, 0x6211e6b5, 0x66d0fb02,
    0x5e9f46bf, 0x5a5e5b08, 0x571d7dd1, 0x53dc6066, 0x4d9b3063, 0x495a2dd4, 0x44190b0d, 0x40d816ba,
    0xaca5c697, 0xa864db20, 0xa527fdf9, 0xa1e6e04e, 0xbfa1b04b, 0xbb60adfc, 0xb6238b25, 0xb2e29692,
    0x8aad2b2f, 0x8e6c3698, 0x832f1041, 0x87ee0df6, 0x99a95df3, 0x9d684044, 0x902b669d, 0x94ea7b2a,
    0xe0b41de7, 0xe4750050, 0xe9362689, 0xedf73b3e, 0xf3b06b3b, 0xf771768c, 0xfa325055, 0xfef34de2,
    0xc6bcf05f, 0xc27dede8, 0xcf3ecb31, 0xcbffd686, 0xd5b88683, 0xd1799b34, 0xdc3abded, 0xd8fba05a,
    0x690ce0ee, 0x6dcdfd59, 0x608edb80, 0x644fc637, 0x7a089632, 0x7ec98b85, 0x738aad5c, 0x774bb0eb,
    0x4f040d56, 0x4bc510e1, 0x46863638, 0x42472b8f, 0x5c007b8a, 0x58c1663d, 0x558240e4, 0x51435d53,
    0x251d3b9e, 0x21dc2629, 0x2c9f00f0, 0x285e1d47, 0x36194d42, 0x32d850f5, 0x3f9b762c, 0x3b5a6b9b,
    0x0315d626, 0x07d4cb91, 0x0a97ed48, 0x0e56f0ff, 0x1011a0fa, 0x14d0bd4d, 0x19939b94, 0x1d528623,
    0xf12f560e, 0xf5ee4bb9, 0xf8ad6d60, 0xfc6c70d7, 0xe22b20d2, 0xe6ea3d65, 0xeba91bbc, 0xef68060b,
    0xd727bbb6, 0xd3e6a601, 0xdea580d8, 0xda649d6f, 0xc423cd6a, 0xc0e2d0dd, 0xcda1f604, 0xc960ebb3,
    0xbd3e8d7e, 0xb9ff90c9, 0xb4bcb610, 0xb07daba7, 0xae3afba2, 0xaafbe615, 0xa7b8c0cc, 0xa379dd7b,
    0x9b3660c6, 0x9ff77d71, 0x92b45ba8, 0x9675461f, 0x8832161a, 0x8cf30bad, 0x81b02d74, 0x857130c3,
    0x5d8a9099, 0x594b8d2e, 0x5408abf7, 0x50c9b640, 0x4e8ee645, 0x4a4ffbf2, 0x470cdd2b, 0x43cdc09c,
    0x7b827d21, 0x7f436096, 0x7200464f, 0x76c15bf8, 0x68860bfd, 0x6c47164a, 0x61043093, 0x65c52d24,
    0x119b4be9, 0x155a565e, 0x18197087, 0x1cd86d30, 0x029f3d35, 0x065e2082, 0x0b1d065b, 0x0fdc1bec,
    0x3793a651, 0x3352bbe6, 0x3e119d3f, 0x3ad08088, 0x2497d08d, 0x2056cd3a, 0x2d15ebe3, 0x29d4f654,
    0xc5a92679, 0xc1683bce, 0xcc2b1d17, 0xc8ea00a0, 0xd6ad50a5, 0xd26c4d12, 0xdf2f6bcb, 0xdbee767c,
    0xe3a1cbc1, 0xe760d676, 0xea23f0af, 0xeee2ed18, 0xf0a5bd1d, 0xf464a0aa, 0xf9278673, 0xfde69bc4,
    0x89b8fd09, 0x8d79e0be, 0x803ac667, 0x84fbdbd0, 0x9abc8bd5, 0x9e7d9662, 0x933eb0bb, 0x97ffad0c,
    0xafb010b1, 0xab710d06, 0xa6322bdf, 0xa2f33668, 0xbcb4666d, 0xb8757bda, 0xb5365d03, 0xb1f740b4 ]

/-- `crc32_table[i]`; the program's indices are masked with 255. -/
def tableEntry (i : UInt32) : UInt32 := crc32Table.getD i.toNat 0

/-- One round of the loop: `(crc << 8) ^ crc32_table[((crc >> 24) ^ *cp++) & 255]`. -/
def crcStep (crc : UInt32) (c : UInt8) : UInt32 :=
  (crc <<< 8) ^^^ tableEntry (((crc >>> 24) ^^^ c.toUInt32) &&& 255)

/-- How often `while (length--)` goes round: a negative `length` counts down
through the whole of `int` before it comes to 0. -/
def crcRounds (length : Int32) : Nat := length.toUInt32.toNat

def crc32 (buf : List UInt8) (length : Int32) : UInt32 :=
  (buf.take (crcRounds length)).foldl crcStep 0xFFFFFFFF

/-- A `size_t` passed for an `int` parameter. -/
def toInt32 (n : Nat) : Int32 := Int32.ofNat n

/-! ## `int` lengths -/

theorem crcRounds_toInt32 {n : Nat} (h : n < 2 ^ 31) : crcRounds (toInt32 n) = n := by
  simp only [crcRounds, toInt32, Int32.toUInt32_ofNat', UInt32.toNat_ofNat', Nat.reducePow]
  exact Nat.mod_eq_of_lt (by omega)

/-- Below 2^31 the `int` is the length, and the CRC is that of the first
`n` bytes. -/
theorem crc32_eq_foldl {buf : List UInt8} {n : Nat} (h : n < 2 ^ 31) :
    crc32 buf (toInt32 n) = (buf.take n).foldl crcStep 0xFFFFFFFF := by
  rw [crc32, crcRounds_toInt32 h]

theorem crc32_take {buf : List UInt8} {n : Nat} (h : n < 2 ^ 31) :
    crc32 (buf.take n) (toInt32 n) = crc32 buf (toInt32 n) := by
  rw [crc32_eq_foldl h, crc32_eq_foldl h, List.take_take, Nat.min_self]

/-! ## The register as a table-driven CRC -/

def tableBits (i : BitVec 8) : BitVec 32 := (crc32Table.getD i.toNat 0).toBitVec

theorem crc32Table_length : crc32Table.length = 256 := by decide +kernel

/-- The low bytes of the table. -/
def crc32TableLow : List Nat := crc32Table.map fun entry => entry.toNat % 256

theorem crc32TableLow_nodup : crc32TableLow.Nodup := by decide +kernel

theorem crc32TableLow_length : crc32TableLow.length = 256 := by
  rw [crc32TableLow, List.length_map, crc32Table_length]

theorem tableBits_low (i : BitVec 8) :
    (tableBits i).toNat % 256 = crc32TableLow.getD i.toNat 0 :=
  (List.getD_map crc32Table 0 (fun entry : UInt32 => entry.toNat % 256)).symm

theorem tableBits_lowInjective : TableCrc.LowInjective tableBits := by
  intro i j h
  have hbits : (tableBits i).setWidth 8 = (tableBits j).setWidth 8 := by
    apply BitVec.eq_of_getLsbD_eq
    intro k hk
    simpa [hk] using h k hk
  have hlow : (tableBits i).toNat % 256 = (tableBits j).toNat % 256 := by
    simpa using congrArg BitVec.toNat hbits
  have hi : i.toNat < crc32TableLow.length := crc32TableLow_length ▸ i.isLt
  have hj : j.toNat < crc32TableLow.length := crc32TableLow_length ▸ j.isLt
  rw [tableBits_low, tableBits_low, List.getD_eq_getElem _ _ hi,
    List.getD_eq_getElem _ _ hj] at hlow
  exact BitVec.eq_of_toNat_eq ((List.Nodup.getElem_inj_iff crc32TableLow_nodup).mp hlow)

theorem and_255_toNat (x : BitVec 32) : (x &&& 255#32).toNat = (x.setWidth 8).toNat := by
  rw [BitVec.toNat_and, BitVec.toNat_setWidth]
  exact Nat.and_two_pow_sub_one_eq_mod x.toNat 8

theorem crcStep_toBitVec (crc : UInt32) (c : UInt8) :
    (crcStep crc c).toBitVec = TableCrc.step tableBits crc.toBitVec c.toBitVec := by
  have hidx : (((crc >>> 24) ^^^ c.toUInt32) &&& 255).toNat
      = (TableCrc.index crc.toBitVec c.toBitVec).toNat := by
    rw [← UInt32.toNat_toBitVec, UInt32.toBitVec_and]
    show ((((crc >>> 24) ^^^ c.toUInt32).toBitVec) &&& 255#32).toNat = _
    rw [and_255_toNat, TableCrc.index, UInt32.toBitVec_xor, BitVec.setWidth_xor]
    simp
  rw [crcStep, tableEntry, hidx, UInt32.toBitVec_xor]
  rfl

theorem crcFold_toBitVec (bs : List UInt8) (crc : UInt32) :
    (bs.foldl crcStep crc).toBitVec
      = TableCrc.run tableBits crc.toBitVec (bs.map UInt8.toBitVec) := by
  induction bs generalizing crc with
  | nil => rfl
  | cons c bs ih =>
      rw [List.foldl_cons, ih, crcStep_toBitVec, List.map_cons, TableCrc.run_cons]

/-- Strings that differ in a window of at most four bytes have different
CRCs. -/
theorem crcFold_ne_of_burst {crc : UInt32} {pre post bs bs' : List UInt8}
    (hlen : bs.length = bs'.length) (hshort : bs.length ≤ 4) (hne : bs ≠ bs') :
    (pre ++ bs ++ post).foldl crcStep crc ≠ (pre ++ bs' ++ post).foldl crcStep crc := by
  intro h
  have hbits := congrArg UInt32.toBitVec h
  simp only [crcFold_toBitVec, List.map_append] at hbits
  refine TableCrc.burst_detected tableBits_lowInjective (by decide) (by simpa using hlen)
    (by simpa using by omega) ?_ hbits
  intro hmap
  exact hne (List.map_inj_right (fun _ _ => UInt8.toBitVec_inj.mp) |>.mp hmap)

end Retimer
