import Mathlib.Tactic.Common

/-!
# Build options, constants and error codes

What `meson_options.txt` leaves open, together with the two functions of
the C library whose results the program uses (`Build`), and the macros
and error codes of `updateRetimerFwOverI2C.h`. The bounds on the image
size are the option's own `min` and `max`, and stand in `Build` as
fields, so that every configuration the build system admits is a value
and no other one is.

Everything downstream takes a `Build` and holds for each: a result about
the default configuration alone would say nothing of the platforms the
options are for. `defaultBuild` and `smallestBuild` are the two that
runs on fixed inputs are played in.

An error code is an `Int32`, as the functions of the source return it;
the constants of one byte and of 32 bits have the width of the variable
they are compared with.
-/

namespace Retimer

/-- One configuration of the repository: the options of the build, the width of
`size_t`, `atoi` and `strerror` of the C library it runs on, and what the linker
has put behind the 64 characters of `buf` in `maperrnoToI2CError`, as it is read
after `sprintf` has written a longer text there. -/
structure Build where
  maxFwImageSize : Nat
  fpgaI2cCntrlAddr : UInt8
  fpgaI2cBus : Int
  platformType : Int
  sizeBits : Nat
  atoi : List UInt8 → Int32
  strerror : Int32 → String
  behindBuf : String → String
  maxFwImageSize_ge : 0x100 ≤ maxFwImageSize
  maxFwImageSize_le : maxFwImageSize ≤ 0x40000
  sizeBits_eq : sizeBits = 32 ∨ sizeBits = 64

/-- `atoi` on a string of digits. -/
def decimal (str : List UInt8) : Int32 :=
  Int32.ofNat ((str.takeWhile fun c => 0x30 ≤ c && c ≤ 0x39).foldl
    (fun n c => 10 * n + (c.toNat - 0x30)) 0)

/-- The options left as they are, with a `size_t` of 64 bits. -/
def defaultBuild : Build where
  maxFwImageSize := 0x40000
  fpgaI2cCntrlAddr := 0x62
  fpgaI2cBus := 3
  platformType := 0
  sizeBits := 64
  atoi := decimal
  strerror errno := "Unknown error " ++ toString errno
  behindBuf _ := ""
  maxFwImageSize_ge := by decide
  maxFwImageSize_le := by decide
  sizeBits_eq := Or.inr rfl

/-- The same with the smallest `fw_image_size` the options allow. -/
def smallestBuild : Build :=
  { defaultBuild with
    maxFwImageSize := 0x100
    maxFwImageSize_ge := by decide
    maxFwImageSize_le := by decide }

def bytePerPage : Nat := 256
def retimerMaxNum : Nat := 8
def maxNameSize : Nat := 255
def initUint8 : UInt8 := 0xFF
def retimerAll : UInt32 := 0xFF
def maxUpdateRetryCount : Nat := 2
def maxTimeoutSec : Nat := 60
def fwUpdateCompleteFlag : UInt8 := 0x00

/-- `RETIMER0` .. `RETIMER7`, and `RETIMERALL` at index 8. -/
def maskRetimer : List UInt8 := [0x01, 0x02, 0x04, 0x08, 0x10, 0x20, 0x40, 0x80, 0xFF]

/-! ## FPGA registers -/

def fpgaImgSizeReg : UInt32 := 0x040000
def fpgaChksumReg : UInt32 := 0x040004
def fpgaUpdateStatusReg : UInt32 := 0x040008
def fpgaReadStatusReg : UInt32 := 0x04000C

def fwReadStatusMask : UInt8 := 0x1
def fwReadNackMask : UInt8 := 0x1
def setRetimerFwRead : UInt8 := 0x1
def nibble : UInt8 := 0xF

/-! ## The secondary register table -/

def hmcI2cbusFpgaSecRegtbl : Int := 0x2
def fpgaSecondaryRegtbl : UInt8 := 0x31
def fpgaSecRegtblFwcontrollerOffset : Nat := 0x4B
def extendedErrMaxPageSz : Nat := 256
def noErr : UInt8 := 0x0
def globalWpLMask : UInt8 := 0x10
def retMuxSelMask : UInt8 := 0x0F

/-! ## Error codes -/

def errorInputArguments : Int32 := 100
def errorInputI2cArgument : Int32 := 101
def errorOpenFirmware : Int32 := 105
def errorWrongFirmware : Int32 := 106
def errorWrongCrc32Chksm : Int32 := 107
def errorMallocFailure : Int32 := 108
def errorOpenI2cDevice : Int32 := 109
def errorIoctlI2cRdwrFailure : Int32 := 110
def errorWriteNack : Int32 := 0x200
def errorReadNack : Int32 := 0x300
def errorChecksum : Int32 := 0x400
def errorCompositeImageHeaderCorrupt : Int32 := 0x500
def errorCompositeImageTruncated : Int32 := 0x501
def errorCompositeImageTooManyComps : Int32 := 0x502
def errorCompositeImageTooShortForHeaders : Int32 := 0x503
def errorCompositeUnsupportedVersion : Int32 := 0x504
def errorCompositeRtTargetedMultipleTimes : Int32 := 0x505
def errorCompositeImageDataOutOfBounds : Int32 := 0x506
def errorCompositeUnsupportedPlatformType : Int32 := 0x507
def errorCompositeTargetedIndexOutOfRange : Int32 := 0x508
def errorUnknown : Int32 := 0xff

end Retimer
