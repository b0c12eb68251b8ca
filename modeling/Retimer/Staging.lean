import Retimer.Crc32
import Retimer.Sys

/-!
# Moving images to and from the FPGA

`copyImageFromMemToFpga` writes an image page by page into the DPRAM
(`copyPages`), then its size and CRC into the registers behind it
(`writeRegister`); `copyImageFromFileToFpga` does so for a file, and
`copyImageFromFpga` reads the DPRAM back into one (`readPages`).

The three of them are what every update and every read consists of, and
they are translated with what they do not check: what a register reads
back is printed and compared with nothing, the buffer for a file comes
from `malloc` with whatever is in it, and neither `read` nor `write` has
its count looked at. `copyImageFromFpga` clears its buffer before it
compares it with `NULL`, so the program goes no further where there is
no memory for it (`segfault`).

The page loops recurse on the iterations left, with the number of the
next page; the last one has what is left of the image.
-/

namespace Retimer

open Interaction

/-- `write_buffer[0]` to `write_buffer[2]` for page `i`. -/
def pageAddress (i : UInt32) : List UInt8 :=
  [((i &&& 0xFF00) >>> 8).toUInt8, (i &&& 0x00FF).toUInt8, 0x00]

/-- The page loop, with `count` iterations left and page `i` next. The memory
from `fw_addr` on is `fwAddr`; how far it reaches beyond the image is the
caller's affair. -/
def copyPages (b : Build) (fwAddr : List UInt8) (fwSize pageCount : Nat) (fd : Int)
    (slaveId : UInt8) : Nat → Nat → Sys Int32
  | 0, _ => return 0
  | count + 1, i => do
      let bytesToTransfer := if i < pageCount then bytePerPage else fwSize - pageCount * bytePerPage
      if bytesToTransfer = 0 then
        return 0
      let ret ← sendI2cCmdWrite b fd slaveId
        (pageAddress (UInt32.ofNat i) ++ slice fwAddr (i * bytePerPage) bytesToTransfer)
      if ret ≠ 0 then
        return ret
      copyPages b fwAddr fwSize pageCount fd slaveId count (i + 1)

/-- A register written with a 32-bit value and read back. What is read is
printed and not looked at. -/
def writeRegister (b : Build) (fd : Int) (slaveId : UInt8) (reg value : UInt32) : Sys Int32 := do
  let ret ← sendI2cCmdWrite b fd slaveId (regAddress reg ++ payload32 value)
  if ret ≠ 0 then
    return ret
  let (ret, _) ← sendI2cCmdRead b fd slaveId (regAddress reg) 4
  return ret

def copyImageFromMemToFpga (b : Build) (fwAddr : List UInt8) (fwSize : Nat) (fwCrc32 : UInt32)
    (fd : Int) (slaveId : UInt8) : Sys Int32 := do
  if fwSize > b.maxFwImageSize then
    return -errorWrongFirmware
  let pageCount := fwSize / bytePerPage
  let ret ← copyPages b fwAddr fwSize pageCount fd slaveId (pageCount + 1) 0
  if ret ≠ 0 then
    return ret
  let ret ← writeRegister b fd slaveId fpgaImgSizeReg (UInt32.ofNat fwSize)
  if ret ≠ 0 then
    return ret
  writeRegister b fd slaveId fpgaChksumReg fwCrc32

/-- The buffer comes from `malloc` with whatever is in it, and `read` may fill
less of it than it was asked to. -/
def copyImageFromFileToFpga (b : Build) (fwFd fd : Int) (slaveId : UInt8) : Sys Int32 := do
  match ← Sys.fstat fwFd with
  | none => do
      Sys.close fwFd
      return -1
  | some fwSize => do
      if fwSize = 0 ∨ fwSize > b.maxFwImageSize then
        Sys.close fwFd
        return -errorWrongFirmware
      match ← Sys.malloc fwSize with
      | none => return -errorMallocFailure
      | some fwBuf => do
          match ← Sys.read fwFd fwSize with
          | none => do
              Sys.close fwFd
              return -errorOpenFirmware
          | some bytes => do
              let fwBuf := bytes.val ++ fwBuf.toList.drop bytes.val.length
              copyImageFromMemToFpga b fwBuf fwSize (crc32 fwBuf (toInt32 fwSize)) fd slaveId

/-- The page loop of `copyImageFromFpga`: the pages read, or the error. -/
def readPages (b : Build) (fd : Int) (slaveId : UInt8) :
    Nat → Nat → Sys (Except Int32 (List UInt8))
  | 0, _ => return .ok []
  | count + 1, i => do
      let (ret, readBuffer) ← sendI2cCmdRead b fd slaveId (pageAddress (UInt32.ofNat i)) bytePerPage
      if ret ≠ 0 then
        return .error ret
      match ← readPages b fd slaveId count (i + 1) with
      | .error ret => return .error ret
      | .ok pages => return .ok (readBuffer.toList ++ pages)

def copyImageFromFpga (b : Build) (fwFd fd : Int) (slaveId : UInt8) : Sys Int32 := do
  match ← Sys.fstat fwFd with
  | none => do
      Sys.close fwFd
      return -1
  | some size => do
      if size = 0 ∨ size % bytePerPage ≠ 0 then
        Sys.close fwFd
        return -errorWrongFirmware
      match ← Sys.malloc size with
      | none => do
          -- the buffer is cleared before it is compared with `NULL`
          let crash ← Sys.request .segfault
          nomatch crash
      | some _ => do
          let pageCount := size % 2 ^ 32 / bytePerPage
          match ← readPages b fd slaveId pageCount 0 with
          | .error ret => return ret
          | .ok pages => do
              let _ ← Sys.request (.lseek fwFd 0)
              match ← Sys.write fwFd (pages ++ List.replicate (size - pages.length) 0) with
              | none => do
                  Sys.close fwFd
                  return -errorOpenFirmware
              | some _ => return 0

end Retimer
