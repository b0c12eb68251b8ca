import Retimer.Scan
import Retimer.Sys
import Retimer.Crc32

/-!
# `parseCompositeImage`

The parser of firmware files, a composite image (a
`CompositeImageHeader`, its `ComponentHeader`s, the images in order) or
a bare image. It is a scan of the mapped file: every read is logged with
its extent (`Access`), every `goto exit` stops the scan with the code
and the message it leaves (`ParseExit`). The outcome of its one `calloc`
is an argument.

The offsets of the packed structures are definitions under the names of
their fields, and the readers `readBytes`, `readU32`, `readU8` and
`readCrc32` make one access each. The order of the checks is the one of
the source, and so is their arithmetic: sums of lengths are taken in
`size_t` and may wrap, as on a machine of the width that the build has.

The two loops are `verifyComponents` (headers, in file order) and
`verifyImages` (their images, once all headers have been found valid).
`parseBare` is the branch for files that do not start with the UUID.
`parseCompositeImage` is what the caller sees: the return code, the two
out-parameters and the message.
-/

namespace Retimer

open Interaction

@[ext] structure UpdateOperation where
  startOffset : Nat
  imageLength : Nat
  applyBitmap : UInt32
  imageCrc : UInt32
  versionString : List UInt8
deriving DecidableEq

/-! ## Layout of the packed headers -/

def compositeImageHeaderUuid : List UInt8 :=
  [0x8c, 0x28, 0xd7, 0x7a, 0x97, 0x07, 0x43, 0xd7, 0xbc, 0x13, 0xc1, 0x2b, 0x3a, 0xbb, 0x4b, 0x87]

/-- `"RTIH"` -/
def componentHeaderMagic : List UInt8 := [0x52, 0x54, 0x49, 0x48]

namespace CompositeImageHeader

def uuid : Nat := 0
def majorVersion : Nat := 16
def componentCount : Nat := 18
def platformType : Nat := 19
def fileLength : Nat := 20
def sku : Nat := 24
def headerCrc : Nat := 36
def size : Nat := 40

end CompositeImageHeader

namespace ComponentHeader

def magic : Nat := 0
def imageLength : Nat := 4
def applyBitmap : Nat := 8
def versionString : Nat := 12
def imageCrc : Nat := 56
def componentHeaderCrc : Nat := 60
def size : Nat := 64

end ComponentHeader

def componentHeaderAt (comp : Nat) : Nat :=
  CompositeImageHeader.size + comp * ComponentHeader.size

/-! ## Reading the mapped file -/

/-- One read of the mapped file. A CRC run reads from `off` on for as long as
the `int` it was given lasts. -/
inductive Access where
  | bytes (off len : Nat)
  | crc32 (off : Nat) (length : Int32)
deriving DecidableEq

/-- What `goto exit` leaves: `ret`, and `msg` with its resolution. -/
structure ParseExit where
  ret : Int32
  message : Option (String × String)

abbrev Parse (α : Type) : Type := Scan Access ParseExit α

def bytesAt (image : List UInt8) (off n : Nat) : List UInt8 := slice image off n

/-- The little-endian `uint32_t` field at `off`. -/
def u32At (image : List UInt8) (off : Nat) : UInt32 := UInt32.ofNat (leNat (slice image off 4))

def u8At (image : List UInt8) (off : Nat) : UInt8 := image.getD off 0

def crcAt (image : List UInt8) (off len : Nat) : UInt32 := crc32 (image.drop off) (toInt32 len)

def readBytes (image : List UInt8) (off n : Nat) : Parse (List UInt8) := do
  Scan.note (.bytes off n)
  return bytesAt image off n

def readU32 (image : List UInt8) (off : Nat) : Parse UInt32 := do
  Scan.note (.bytes off 4)
  return u32At image off

def readU8 (image : List UInt8) (off : Nat) : Parse UInt8 := do
  Scan.note (.bytes off 1)
  return u8At image off

def readCrc32 (image : List UInt8) (off len : Nat) : Parse UInt32 := do
  Scan.note (.crc32 off (toInt32 len))
  return crcAt image off len

/-- `strncpy` into a zeroed `versionString[36]`, of at most 35 characters. -/
def versionField (src : List UInt8) : List UInt8 :=
  let s := (src.takeWhile (· ≠ 0)).take 35
  s ++ List.replicate (36 - s.length) 0

/-! ## The parser -/

def contactSupport (error : Int32) (msg : String) : ParseExit :=
  ⟨-error, some (msg, "Contact NVIDIA support.")⟩

def allocationFailed : ParseExit :=
  ⟨-errorMallocFailure, some ("Failed to allocate memory for update_ops!",
    "Retry firmware update")⟩

/-- The first loop: `count` headers from `comp` on, with the running image
offset and the bitmap covered so far. The fields of the operation are filled in
but for the CRC, which is the second loop's. -/
def verifyComponents (b : Build) (image : List UInt8) (fwSize : Nat) :
    Nat → Nat → Nat → UInt32 → Parse (UInt32 × List UpdateOperation)
  | 0, _, _, coveredRetimerBitmap => pure (coveredRetimerBitmap, [])
  | count + 1, comp, nextImageOffset, coveredRetimerBitmap => do
      let header := componentHeaderAt comp
      let magic ← readBytes image (header + ComponentHeader.magic) 4
      Scan.stopIf (magic ≠ componentHeaderMagic)
        (contactSupport errorCompositeImageHeaderCorrupt "ComponentHeader is invalid")
      let crc ← readCrc32 image header 60
      let componentHeaderCrc ← readU32 image (header + ComponentHeader.componentHeaderCrc)
      Scan.stopIf (crc ≠ componentHeaderCrc)
        (contactSupport errorWrongCrc32Chksm
          ("ComponentHeader " ++ toString comp ++ " componentHeaderCrc mismatch"))
      let imageLength ← readU32 image (header + ComponentHeader.imageLength)
      let imageEnd := (nextImageOffset + imageLength.toNat) % 2 ^ b.sizeBits
      Scan.stopIf (nextImageOffset > fwSize ∨ imageEnd > fwSize ∨ imageEnd < nextImageOffset)
        (contactSupport errorCompositeImageDataOutOfBounds "Image data out of bounds")
      let applyBitmap ← readU32 image (header + ComponentHeader.applyBitmap)
      Scan.stopIf (coveredRetimerBitmap &&& applyBitmap ≠ 0)
        (contactSupport errorCompositeRtTargetedMultipleTimes
          "retimer already updated by previous component")
      let versionString ← readBytes image (header + ComponentHeader.versionString) 35
      let (covered, ops) ← verifyComponents b image fwSize count (comp + 1) imageEnd
        (coveredRetimerBitmap ||| applyBitmap)
      return (covered, ⟨nextImageOffset, imageLength.toNat, applyBitmap, 0,
        versionField versionString⟩ :: ops)

/-- The second loop: the image CRCs, from component `comp` on. -/
def verifyImages (image : List UInt8) :
    Nat → List UpdateOperation → Parse (List UpdateOperation)
  | _, [] => pure []
  | comp, op :: ops => do
      let crc ← readCrc32 image op.startOffset op.imageLength
      let imageCrc ← readU32 image (componentHeaderAt comp + ComponentHeader.imageCrc)
      Scan.stopIf (crc ≠ imageCrc)
        (contactSupport errorWrongCrc32Chksm ("Image " ++ toString comp ++ " CRC mismatch"))
      let ops ← verifyImages image (comp + 1) ops
      return { op with imageCrc := imageCrc } :: ops

/-- The branch for a file that does not start with a `CompositeImageHeader`. -/
def parseBare (image : List UInt8) (fwSize : Nat) (pldmVersionStr : List UInt8)
    (calloc : Bool) : Parse (Nat × List UpdateOperation) := do
  Scan.stopIf (calloc = false) allocationFailed
  let imageCrc ← readCrc32 image 0 fwSize
  return (1, [⟨0, fwSize, retimerAll, imageCrc, versionField pldmVersionStr⟩])

def parseComposite (b : Build) (image : List UInt8) (fwSize : Nat) (calloc : Bool) :
    Parse (Nat × List UpdateOperation) := do
  let crc ← readCrc32 image 0 36
  let headerCrc ← readU32 image CompositeImageHeader.headerCrc
  Scan.stopIf (crc ≠ headerCrc)
    (contactSupport errorWrongCrc32Chksm "CompositeImageHeader.headerCrc mismatch")
  let majorVersion ← readU8 image CompositeImageHeader.majorVersion
  Scan.stopIf (majorVersion ≠ 1)
    (contactSupport errorCompositeUnsupportedVersion
      ("CompositeImageHeader: unrecognized version " ++ toString majorVersion))
  let platformType ← readU8 image CompositeImageHeader.platformType
  Scan.stopIf ((platformType.toNat : Int) ≠ b.platformType)
    (contactSupport errorCompositeUnsupportedPlatformType
      ("CompositeImageHeader: incorrect platformType " ++ toString platformType))
  let componentCount ← readU8 image CompositeImageHeader.componentCount
  Scan.stopIf (componentCount.toNat > retimerMaxNum)
    (contactSupport errorCompositeImageTooManyComps
      ("CompositeImageHeader: too many components " ++ toString componentCount))
  let fileLength ← readU32 image CompositeImageHeader.fileLength
  Scan.stopIf (fileLength.toNat ≠ fwSize)
    (contactSupport errorCompositeImageTruncated
      ("CompositeImageHeader: file length " ++ toString fwSize ++
        " does not match header " ++ toString fileLength))
  let _sku ← readU32 image CompositeImageHeader.sku
  let nextImageOffset := componentHeaderAt componentCount.toNat
  Scan.stopIf (fwSize < nextImageOffset)
    (contactSupport errorCompositeImageTooShortForHeaders
      "File is too short for all ComponentHeaders")
  -- nothing to do: `goto exit` with `ret` still 0
  Scan.stopIf (componentCount = 0) ⟨0, none⟩
  Scan.stopIf (calloc = false) allocationFailed
  let (covered, ops) ← verifyComponents b image fwSize componentCount.toNat 0 nextImageOffset 0
  Scan.stopIf (covered > retimerAll)
    (contactSupport errorCompositeTargetedIndexOutOfRange
      ("Targeting a retimer that does not exist on this platform, bitmap 0x" ++ hex covered.toNat))
  let ops ← verifyImages image 0 ops
  return (componentCount.toNat, ops)

def parseImage (b : Build) (image : List UInt8) (fwSize : Nat) (pldmVersionStr : List UInt8)
    (calloc : Bool) : Parse (Nat × List UpdateOperation) :=
  if fwSize < CompositeImageHeader.size then parseBare image fwSize pldmVersionStr calloc
  else do
    let uuid ← readBytes image CompositeImageHeader.uuid 16
    if uuid ≠ compositeImageHeaderUuid then parseBare image fwSize pldmVersionStr calloc
    else parseComposite b image fwSize calloc

/-- The return code, the two out-parameters (`NULL` is `none`), the message of
a failed parse and the reads made. -/
structure ParseResult where
  ret : Int32
  updateOps : Option (List UpdateOperation)
  updateOpsCount : Nat
  message : Option (String × String)
  accesses : List Access

def parseCompositeImage (b : Build) (imageMappedAddr : List UInt8) (fwSize : Nat)
    (pldmVersionStr : List UInt8) (calloc : Bool) : ParseResult :=
  let scan := parseImage b imageMappedAddr fwSize pldmVersionStr calloc
  match scan.outcome with
  | .ok (count, ops) => ⟨0, some ops, count, none, scan.log⟩
  | .error exit => ⟨exit.ret, none, 0, exit.message, scan.log⟩

end Retimer
