import Retimer.Crc32
import Retimer.SerialCrc

/-!
# The CRC that the table computes

`crc32` against the definition of its CRC, one bit at a time
(`crc32Serial`): initial value 0xFFFFFFFF, the polynomial
`crcPolynomial`, neither input nor output reflected, and no final XOR.

The library has the comparison of a table-driven register with the
bit-serial one, for the table whose entries are their indices shifted
in. That the table of the source is this one is a fact about 256
numbers, and is evaluated (`crc32Table_eq`); `tableBits_eq` says it of
each index. The rest is the translation between the two ways to write a
word, `UInt32` in the loop and bit vectors in the definition.
-/

namespace Retimer

/-- x³² + x²⁶ + x²³ + x²² + x¹⁶ + x¹² + x¹¹ + x¹⁰ + x⁸ + x⁷ + x⁵ + x⁴ + x² + x + 1 -/
def crcPolynomial : BitVec 32 := 0x04c11db7#32

/-- The CRC-32 with initial value 0xFFFFFFFF, neither input nor output
reflected and no final XOR, bit by bit. -/
def crc32Serial (bytes : List UInt8) : UInt32 :=
  .ofBitVec (SerialCrc.serial crcPolynomial 0xFFFFFFFF#32 (bytes.map UInt8.toBitVec))

theorem crc32Table_eq : crc32Table.map UInt32.toBitVec
    = (List.range 256).map fun i => SerialCrc.serialByte crcPolynomial 0#32 (BitVec.ofNat 8 i) := by
  decide +kernel

theorem tableBits_eq (i : BitVec 8) :
    tableBits i = SerialCrc.serialByte crcPolynomial 0#32 i := by
  have hentry := congrArg (fun entries => entries.getD i.toNat 0#32) crc32Table_eq
  have hlt : i.toNat < (List.range 256).length := by
    rw [List.length_range]
    exact i.isLt
  have hlen : i.toNat < crc32Table.length := crc32Table_length ▸ i.isLt
  simp only [List.getD_eq_getElem?_getD, List.getElem?_map, List.getElem?_eq_getElem hlt,
    List.getElem?_eq_getElem hlen, List.getElem_range, Option.map_some, Option.getD_some,
    BitVec.ofNat_toNat, BitVec.setWidth_eq] at hentry
  rw [tableBits, List.getD_eq_getElem _ _ hlen, hentry]

/-- **The table CRC is the CRC.** Whatever lies behind them in memory, the CRC
of `bytes` is the bit-serial one: the register starts with ones, each byte is
shifted in with its leading bit first, and the polynomial is subtracted whenever
a one is shifted out. -/
theorem crc32_eq_serial (bytes rest : List UInt8) (hlen : bytes.length < 2 ^ 31) :
    crc32 (bytes ++ rest) (toInt32 bytes.length) = crc32Serial bytes := by
  rw [crc32_eq_foldl hlen, List.take_left' rfl]
  apply UInt32.toBitVec_inj.mp
  rw [crcFold_toBitVec, SerialCrc.run_eq_serial (by decide) tableBits_eq]
  rfl

theorem crc32_eq_serial_digits :
    crc32 ([0x31, 0x32, 0x33] ++ [0]) (toInt32 3) = crc32Serial [0x31, 0x32, 0x33] :=
  crc32_eq_serial [0x31, 0x32, 0x33] [0] (by decide)

end Retimer
