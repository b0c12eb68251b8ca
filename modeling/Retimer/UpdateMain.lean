import Retimer.Composite
import Retimer.Staging
import Retimer.FwUpdate

/-!
# `updateRetimerFw`

`main` of the command line tool: the argument checks (`checkArguments`),
the update command (`updateCommand`) with its two loops over the
operations of the image, and the read command (`readCommand`). Prints
other than the start of an operation are left out, and so are the
`munmap` and `free` at the end.

The first loop cuts the bitmaps down to the retimers asked for and
announces the targets (`filterTargets`). The second performs the
operations (`updateLoop`, `performUpdate`) and carries three variables
from one to the next (`LoopState`): the `ret` of the last call, the
first error, and the bitmap that `startRetimerFwUpdate` leaves. They
live outside of the loop in the source, so an iteration that does not
set one of them goes on with the value of an iteration before; `loopRet`
is the return code that the loop makes of them.

A command returns the descriptors it has left open as well as `ret`,
since `main` closes them at its end. `exitStatus` is the byte of `ret`
that the parent process sees, and the last section has its arithmetic.
-/

namespace Retimer

open Interaction

/-! ## Arguments -/

def isDigit (c : UInt8) : Bool := 0x30 ≤ c && c ≤ 0x39

/-- The loop over the characters, with its counter of type `uint8_t`: 0 for
only digits, 1 for any other character, `none` when it is still running after
`fuel` turns. -/
def digitLoop (str : List UInt8) : Nat → UInt8 → Option Int32
  | 0, _ => none
  | fuel + 1, i =>
      if i.toNat < str.length then
        if isDigit (str.getD i.toNat 0) then digitLoop str fuel (i + 1) else some 1
      else some 0

def checkDigitI2c (b : Build) (fuel : Nat) (str : List UInt8) : Option Int32 :=
  if b.atoi str ≥ 1 ∧ b.atoi str ≤ 12 then digitLoop str fuel 0 else some 1

def checkDigitRetimer (b : Build) (fuel : Nat) (str : List UInt8) : Option Int32 :=
  if b.atoi str > 255 then some 1 else digitLoop str fuel 0

/-- An `int` stored in a `uint8_t`. -/
def toUint8 (n : Int32) : UInt8 := n.toUInt32.toUInt8

def defaultVersion : List UInt8 := bytesOf "Unknown"

structure Arguments where
  bus : Int32
  retimerBitmap : UInt8
  imageFilename : List UInt8
  command : UInt8
  versionStr : List UInt8

/-- The checks before the device is opened: the arguments, or the `ret` of
their failure. -/
def checkArguments (b : Build) (fuel : Nat) (argv : List (List UInt8)) :
    Option (Except Int32 Arguments) :=
  if argv.length < 5 then some (.error (-errorInputArguments))
  else do
    let i2c ← checkDigitI2c b fuel (argv.getD 1 [])
    if i2c ≠ 0 then some (.error (-errorInputI2cArgument))
    else do
      let retimer ← checkDigitRetimer b fuel (argv.getD 2 [])
      if retimer ≠ 0 then some (.error (-errorInputI2cArgument))
      else if (argv.getD 3 []).length ≥ maxNameSize then some (.error (-errorInputArguments))
      else some (.ok {
        bus := b.atoi (argv.getD 1 [])
        retimerBitmap := toUint8 (b.atoi (argv.getD 2 []))
        imageFilename := argv.getD 3 []
        command := toUint8 (b.atoi (argv.getD 4 []))
        versionStr := if argv.length > 5 then argv.getD 5 [] else defaultVersion })

/-! ## The update command -/

/-- The first loop over the operations: the bitmaps cut down to the retimers
asked for. -/
def filterTargets (retimerToUpdate : UInt8) : List UpdateOperation → Sys (List UpdateOperation)
  | [] => return []
  | op :: ops => do
      let op := { op with applyBitmap := op.applyBitmap &&& retimerToUpdate.toUInt32 }
      prepareMessageRegistry op.applyBitmap.toUInt8 "TargetDetermined" op.versionString
        msgRegDevFollowedByVer informational none false
      let ops ← filterTargets retimerToUpdate ops
      return op :: ops

/-- The variables that live across the iterations of the update loop: the source
declares them in front of it and resets none of them. -/
structure LoopState where
  ret : Int32
  updateFirstErrRet : Int32
  retimerNotUpdated : UInt8
deriving DecidableEq

/-- The messages after a failed `startRetimerFwUpdate`. -/
def reportApplyFailed (op : UpdateOperation) (retimerNotUpdated : UInt8) : Sys Unit := do
  prepareMessageRegistry retimerNotUpdated "ApplyFailed" op.versionString
    msgRegVerFollowedByDev critical none false
  let updated := op.applyBitmap ^^^ retimerNotUpdated.toUInt32
  if updated ≠ 0 then
    prepareMessageRegistry updated.toUInt8 "UpdateSuccessful" op.versionString
      msgRegDevFollowedByVer informational none false
    prepareMessageRegistry updated.toUInt8 "AwaitToActivate" op.versionString
      msgRegVerFollowedByDev informational (some "AC power cycle") false
  else pure ()

def reportUpdateSuccessful (op : UpdateOperation) : Sys Unit := do
  prepareMessageRegistry op.applyBitmap.toUInt8 "UpdateSuccessful" op.versionString
    msgRegDevFollowedByVer informational none false
  prepareMessageRegistry op.applyBitmap.toUInt8 "AwaitToActivate" op.versionString
    msgRegVerFollowedByDev informational (some "AC power cycle") false

/-- The body of the update loop behind its first line. An operation for no
retimer is passed over, and one whose copy fails is not started. -/
def performUpdate (b : Build) (fd : Int) (image : List UInt8) (op : UpdateOperation)
    (st : LoopState) : Sys LoopState := do
  if op.applyBitmap = 0 then
    return st
  prepareMessageRegistry op.applyBitmap.toUInt8 "TransferringToComponent" op.versionString
    msgRegVerFollowedByDev informational none false
  let ret ← copyImageFromMemToFpga b (image.drop op.startOffset) op.imageLength op.imageCrc fd
    b.fpgaI2cCntrlAddr
  if ret ≠ 0 then
    prepareMessageRegistry op.applyBitmap.toUInt8 "TransferFailed" op.versionString
      msgRegVerFollowedByDev critical none false
    return { st with ret := ret, updateFirstErrRet := ret }
  let (ret, retimerNotUpdated) ← startRetimerFwUpdate b fd op.applyBitmap.toUInt8 op.versionString
    st.retimerNotUpdated
  if ret ≠ 0 then
    reportApplyFailed op retimerNotUpdated
    return ⟨ret, ret, retimerNotUpdated⟩
  reportUpdateSuccessful op
  return { st with ret := ret, retimerNotUpdated := retimerNotUpdated }

/-- The update loop, from operation `uo` on. The number of the operation is what
the first line of the body prints. -/
def updateLoop (b : Build) (fd : Int) (image : List UInt8) :
    Nat → List UpdateOperation → LoopState → Sys LoopState
  | _, [], st => return st
  | uo, op :: ops, st => do
      Sys.request (.performing uo)
      let st ← performUpdate b fd image op st
      updateLoop b fd image (uo + 1) ops st

def initialLoopState : LoopState := ⟨0, 0, initUint8⟩

/-- `if (!ret && updateFirstErrRet)` -/
def loopRet (st : LoopState) : Int32 :=
  if st.ret = 0 ∧ st.updateFirstErrRet ≠ 0 then st.updateFirstErrRet else st.ret

/-- The update command for an image that was parsed into `ops`. -/
def updateOperations (b : Build) (fd : Int) (image : List UInt8) (retimerToUpdate : UInt8)
    (ops : List UpdateOperation) : Sys Int32 := do
  let ops ← filterTargets retimerToUpdate ops
  let st ← updateLoop b fd image 0 ops initialLoopState
  return loopRet st

/-- The message `parseCompositeImage` sends when it fails. -/
def parseMessage : Option (String × String) → Sys Unit
  | none => pure ()
  | some (msg, resolution) =>
      genericMessageRegistry resourceErrorsDetected "HGX_PCIeRetimer Update Service" msg critical
        (some resolution)

/-- The update command once the file is mapped. The one `calloc` of the parser
is asked for up front; where the parser does not get to it its outcome has no
effect. -/
def updateImage (b : Build) (fd : Int) (image : List UInt8) (fwSize : Nat)
    (versionStr : List UInt8) (retimerToUpdate : UInt8) : Sys Int32 := do
  let calloc ← Sys.request .calloc
  let parsed := parseCompositeImage b image fwSize versionStr calloc
  parseMessage parsed.message
  if parsed.ret ≠ 0 then
    prepareMessageRegistry retimerToUpdate "VerificationFailed" versionStr
      msgRegVerFollowedByDev critical none false
    return parsed.ret
  match parsed.updateOps with
  | none => do
      if parsed.updateOpsCount > 0 then
        prepareMessageRegistry retimerToUpdate "VerificationFailed" versionStr
          msgRegVerFollowedByDev critical none false
        return -errorUnknown
      updateOperations b fd image retimerToUpdate []
  | some ops => updateOperations b fd image retimerToUpdate ops

/-- The messages of an update command that cannot get at the file. -/
def fileUnavailable (retimerToUpdate : UInt8) (message : String) (versionStr : List UInt8) :
    Sys Unit :=
  prepareMessageRegistry retimerToUpdate message versionStr msgRegVerFollowedByDev critical none
    false

/-- Returns `ret` and the `imagefd` left open. Where the file cannot be had,
`ret` is still the 0 it was declared with. -/
def updateCommand (b : Build) (fd : Int) (args : Arguments) : Sys (Int32 × Int) := do
  let imagefd ← Sys.openFile (textOf args.imageFilename) .rdonly
  if imagefd < 0 then
    fileUnavailable args.retimerBitmap "VerificationFailed" args.versionStr
    return (0, imagefd)
  match ← Sys.fstat imagefd with
  | none => do
      fileUnavailable args.retimerBitmap "TransferFailed" args.versionStr
      return (0, imagefd)
  | some fwSize => do
      match ← Sys.request (.mmap imagefd fwSize) with
      | none => do
          fileUnavailable args.retimerBitmap "TransferFailed" args.versionStr
          return (0, imagefd)
      | some image => do
          Sys.close imagefd
          let ret ← updateImage b fd image.toList fwSize args.versionStr args.retimerBitmap
          return (ret, -1)

/-! ## The read command -/

/-- Returns `ret` and the `dummyfd` left open. -/
def readCommand (b : Build) (fd : Int) (args : Arguments) : Sys (Int32 × Int) := do
  let dummyfd ← Sys.openFile "/tmp/Dummyfile" .rdwrCreat
  if dummyfd < 0 then
    return (0, dummyfd)
  let truncated ← Sys.request (.ftruncate dummyfd b.maxFwImageSize)
  if truncated = false then
    Sys.close dummyfd
    return (0, -1)
  let ret ← copyImageFromFileToFpga b dummyfd fd b.fpgaI2cCntrlAddr
  if ret ≠ 0 then
    return (ret, dummyfd)
  let ret ← readRetimerfw b fd args.retimerBitmap
  if ret ≠ 0 then
    return (ret, dummyfd)
  let _ ← Sys.request (.lseek dummyfd 0)
  let ret ← copyImageFromFpga b dummyfd fd b.fpgaI2cCntrlAddr
  if ret ≠ 0 then
    return (ret, dummyfd)
  Sys.close dummyfd
  return (ret, -1)

/-! ## `main` -/

def retimerFwUpdate : UInt8 := 0
def retimerFwRead : UInt8 := 1

/-- The `switch`: `ret`, `imagefd` and `dummyfd`. -/
def runCommand (b : Build) (fd : Int) (args : Arguments) : Sys (Int32 × Int × Int) :=
  if args.command = retimerFwUpdate then do
    let (ret, imagefd) ← updateCommand b fd args
    return (ret, imagefd, -1)
  else if args.command = retimerFwRead then do
    let (ret, dummyfd) ← readCommand b fd args
    return (ret, -1, dummyfd)
  else return (-errorInputArguments, -1, -1)

def closeUnless (fd : Int) : Sys Unit :=
  if fd ≠ -1 then Sys.close fd else pure ()

/-- What `main` returns, `none` when an argument check does not come to an end
in `fuel` turns. -/
def main (b : Build) (fuel : Nat) (argv : List (List UInt8)) : Sys (Option Int32) :=
  match checkArguments b fuel argv with
  | none => return none
  | some (.error ret) => return some ret
  | some (.ok args) => do
      let fd ← Sys.openFile ("/dev/i2c-" ++ toString args.bus) .rdwrNonblock
      if fd < 0 then
        closeUnless fd
        return some (-errorOpenI2cDevice)
      let (ret, imagefd, dummyfd) ← runCommand b fd args
      closeUnless fd
      closeUnless imagefd
      closeUnless dummyfd
      return some ret

/-- The exit status the parent process sees. -/
def exitStatus (ret : Int32) : UInt8 := toUint8 ret

def smallArgv : List (List UInt8) := [[], [0x33], [0x31], [0x66], [0x30]]

def smallArguments : Arguments := ⟨3, 1, [0x66], 0, defaultVersion⟩

example : checkArguments defaultBuild 10 smallArgv = some (.ok smallArguments) := rfl

/-! ## The byte of an `int` -/

section Byte

theorem toUint8_emod (n : Int32) : ((toUint8 n).toNat : Int) = n.toInt % 256 := by
  have hbyte : (toUint8 n).toNat = n.toUInt32.toNat % 256 := by
    simp [toUint8, UInt32.toNat_toUInt8]
  have hint : n.toInt = n.toBitVec.toInt := rfl
  have hnat : n.toUInt32.toNat = n.toBitVec.toNat := rfl
  rw [hbyte, hint, hnat, BitVec.toInt_eq_toNat_cond]
  omega

theorem toUint8_toNat {a : Int32} {v : Nat} (hv : v < 256) (h : a.toInt = v) :
    (toUint8 a).toNat = v := by
  have hbyte := toUint8_emod a
  rw [h] at hbyte
  omega

theorem ne_zero_of_toUint8 {ret : Int32} (h : toUint8 ret ≠ 0) : ret ≠ 0 := by
  rintro rfl
  exact h rfl

theorem toUint8_or (x y : Int32) : toUint8 (x ||| y) = toUint8 x ||| toUint8 y := by
  simp [toUint8]

theorem toUint8_ofNat (x : UInt8) : toUint8 (Int32.ofNat x.toNat) = x := by
  simp [toUint8]

end Byte

end Retimer
