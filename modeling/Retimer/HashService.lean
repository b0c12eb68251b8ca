import Retimer.Staging
import Retimer.FwUpdate

/-!
# `dbus-service-retimer`

The service that reads a retimer's firmware back and publishes its
SHA-384: `readFWImagenComputeHash`, the `GetHash` method
(`methodComputeHash`) and the sequence of requests that the bus loop
serves one after the other (`serveRequests`). The state between requests
is the array of digests (`Digests`), which `GetHash` clears for its
retimer once it has replied.

The body of the first function is cut up as its error paths are:
`hashDirectory`, `readFirmware`, `computeSha384` with the loop
`hashBlocks`, `hashFirmware`, and `deleteFile` at its exit. The loop
ends when a read delivers nothing or fails, so it need not end at all;
it has fuel, and what is still running is `none`. The digest is encoded
into a buffer one byte too short for its last NUL (`encodeHash`), which
is given with the byte behind it.

`HashRun` and `RequestRun` list the ways through the first two
functions, with the events of each and the digests it leaves;
`hashRun_of_run` and `requestRun_of_run` have every run in the list.
What is said of the service elsewhere is a case analysis of these and
not of the code.
-/

namespace Retimer

open Interaction

def maxRetimers : Nat := 8
def hashLength : Nat := 48
def blockSize : Nat := 64 * 1024
def exitFailure : Int32 := 1

/-- `sizeof(g_retimerHash[retimerId].hashDigest)` -/
def hashDigestSize : Nat := 97

/-- `hashDigest` of every entry of `g_retimerHash`. -/
abbrev Digests : Type := Nat → List UInt8

/-- The value of the `Digest` property: the digest as a C string. -/
def Digests.property (digests : Digests) (retimerId : Nat) : List UInt8 :=
  (digests retimerId).takeWhile (· ≠ 0)

/-- `strncpy` into `hashDigest`. -/
def strncpyDigest (src : List UInt8) : List UInt8 :=
  let s := (src.takeWhile (· ≠ 0)).take hashDigestSize
  s ++ List.replicate (hashDigestSize - s.length) 0

def Digests.store (digests : Digests) (retimerId : Nat) (src : List UInt8) : Digests :=
  fun r => if r = retimerId then strncpyDigest src else digests r

/-! ## The digest as text -/

def hexDigit (n : Nat) : UInt8 := UInt8.ofNat (if n < 10 then 0x30 + n else 0x57 + n)

/-- `%02x` -/
def hexByte (c : UInt8) : List UInt8 := [hexDigit (c.toNat / 16), hexDigit (c.toNat % 16)]

/-- The encoding loop, from byte `i` on. Every `sprintf` ends with a NUL, the
last one behind the 96 bytes of `hashValue`; the buffer is given with the byte
that follows it. -/
def encodeHash : List UInt8 → Nat → List UInt8 → List UInt8
  | [], _, hashValue => hashValue
  | c :: hash, i, hashValue =>
      encodeHash hash (i + 1) (overwrite hashValue (2 * i) (hexByte c ++ [0]))

/-- `hashValue` as declared, and the byte behind it. -/
def initialHashValue (behind : UInt8) : List UInt8 := List.replicate (2 * hashLength) 0 ++ [behind]

/-! ## `readFWImagenComputeHash` -/

/-- Why the reading of the file stopped. -/
inductive BlocksEnd where
  | endOfFile
  | readFailed
  | updateFailed
deriving DecidableEq

/-- The loop over the blocks of the file, `none` when it is still running
after `fuel` turns. -/
def hashBlocks (dummyfd : Int) : Nat → Sys (Option BlocksEnd)
  | 0 => return none
  | fuel + 1 => do
      match ← Sys.read dummyfd blockSize with
      | none => return some .readFailed
      | some block => do
          if block.val = [] then
            return some .endOfFile
          let updated ← Sys.request (.evpDigestUpdate block.val)
          if updated = false then
            return some .updateFailed
          hashBlocks dummyfd fuel

/-- The hashing part: `ret`, and the hash where there is one. A failed read
leaves the context behind. -/
def computeSha384 (fuel : Nat) (dummyfd : Int) : Sys (Option (Except Int32 (Vector UInt8 48))) := do
  let ctx ← Sys.request .evpMdCtxNew
  if ctx = false then
    return some (.error exitFailure)
  let init ← Sys.request .evpDigestInit
  if init = false then
    Sys.request .evpMdCtxFree
    return some (.error exitFailure)
  match ← hashBlocks dummyfd fuel with
  | none => return none
  | some .updateFailed => do
      Sys.request .evpMdCtxFree
      return some (.error exitFailure)
  | some .readFailed => return some (.error exitFailure)
  | some .endOfFile => do
      match ← Sys.request .evpDigestFinal with
      | none => do
          Sys.request .evpMdCtxFree
          return some (.error exitFailure)
      | some hash => do
          Sys.request .evpMdCtxFree
          return some (.ok hash)

/-- Reading the firmware of `retimerId` into the open file: 0, or 1 for any
failure. -/
def readFirmware (b : Build) (fd dummyfd : Int) (retimerId : Nat) : Sys Int32 := do
  let truncated ← Sys.request (.ftruncate dummyfd b.maxFwImageSize)
  if truncated = false then
    return exitFailure
  let ret ← copyImageFromFileToFpga b dummyfd fd b.fpgaI2cCntrlAddr
  if ret ≠ 0 then
    return exitFailure
  let ret ← readRetimerfw b fd (UInt8.ofNat retimerId)
  if ret ≠ 0 then
    return exitFailure
  let sought ← Sys.request (.lseek dummyfd 0)
  if sought = false then
    return exitFailure
  let ret ← copyImageFromFpga b dummyfd fd b.fpgaI2cCntrlAddr
  if ret ≠ 0 then
    return exitFailure
  let sought ← Sys.request (.lseek dummyfd 0)
  if sought = false then
    return exitFailure
  return 0

/-- `/tmp/hash` exists or could be created. -/
def hashDirectory : Sys Bool := do
  let found ← Sys.request (.access "/tmp/hash")
  if found then
    return true
  Sys.request (.mkdir "/tmp/hash")

/-- What happens at `exit` when the file was opened: `ret`, unless the file
cannot be deleted. -/
def deleteFile (dummyfd : Int) (ret : Int32) : Sys Int32 := do
  let deleted ← Sys.request (.unlink "/tmp/hash/RetimerFW.dat")
  Sys.close dummyfd
  return if deleted then ret else exitFailure

/-- The file is read and hashed, and `hashDigest` set. `behind` is the byte
behind `hashValue`. -/
def hashFirmware (b : Build) (fuel : Nat) (behind : UInt8) (fd dummyfd : Int) (retimerId : Nat)
    (digests : Digests) : Sys (Option (Int32 × Digests)) := do
  let ret ← readFirmware b fd dummyfd retimerId
  if ret ≠ 0 then
    return some (ret, digests)
  match ← computeSha384 fuel dummyfd with
  | none => return none
  | some (.error ret) => return some (ret, digests)
  | some (.ok hash) =>
      return some (0, digests.store retimerId (encodeHash hash.toList 0 (initialHashValue behind)))

def readFWImagenComputeHash (b : Build) (fuel : Nat) (behind : UInt8) (retimerId : Nat)
    (digests : Digests) : Sys (Option (Int32 × Digests)) := do
  let fd ← Sys.openFile ("/dev/i2c-" ++ toString b.fpgaI2cBus) .rdwrNonblock
  if fd < 0 then
    Sys.close fd
    return some (-errorOpenI2cDevice, digests)
  let directory ← hashDirectory
  if directory = false then
    Sys.close fd
    return some (exitFailure, digests)
  let dummyfd ← Sys.openFile "/tmp/hash/RetimerFW.dat" .rdwrCreat
  if dummyfd < 0 then
    if dummyfd ≠ -1 then
      let ret ← deleteFile dummyfd exitFailure
      Sys.close fd
      return some (ret, digests)
    Sys.close fd
    return some (exitFailure, digests)
  match ← hashFirmware b fuel behind fd dummyfd retimerId digests with
  | none => return none
  | some (ret, digests) => do
      let ret ← deleteFile dummyfd ret
      Sys.close fd
      return some (ret, digests)

/-! ## `GetHash` -/

/-- `method_computeHash`: what it returns and the digests it leaves. -/
def methodComputeHash (b : Build) (fuel : Nat) (behind : UInt8) (digests : Digests) :
    Sys (Option (Int32 × Digests)) := do
  match ← Sys.request .sdBusMessageRead with
  | none => return some (exitFailure, digests)
  | some retimerId => do
      if retimerId.toNat ≥ maxRetimers then
        let ret ← Sys.request .sdBusReplyInvalidArgument
        return some (ret, digests)
      let replied ← Sys.request .sdBusReplyMethodReturn
      if replied = false then
        return some (exitFailure, digests)
      let digests := digests.store retimerId.toNat []
      match ← readFWImagenComputeHash b fuel behind retimerId.toNat digests with
      | none => return none
      | some (ret, digests) => do
          Sys.request (.sdBusEmitPropertiesChanged retimerId.toNat)
          return some (ret, digests)

/-- `g_retimerHash` when the service starts. -/
def initialDigests : Digests := fun _ => List.replicate hashDigestSize 0

/-- `count` requests, one after the other. -/
def serveRequests (b : Build) (fuel : Nat) (behind : UInt8) : Nat → Digests → Sys (Option Digests)
  | 0, digests => return some digests
  | count + 1, digests => do
      match ← methodComputeHash b fuel behind digests with
      | none => return none
      | some (_, digests) => serveRequests b fuel behind count digests

/-! ## The ways through a request -/

def hashFile : String := "/tmp/hash/RetimerFW.dat"

section Ways

open Interaction.Prog

variable {b : Build} {dummyfd : Int} {fuel r : Nat} {behind : UInt8} {digests digests' : Digests}
  {tr : List SysEvent} {ret ret' : Int32}

theorem run_deleteFile (h : Run (deleteFile dummyfd ret) tr ret') :
    ∃ deleted, tr = [⟨.unlink hashFile, deleted⟩, ⟨.close dummyfd, ()⟩]
      ∧ ret' = if deleted then ret else exitFailure := by
  obtain ⟨deleted, tr₁, rfl, h₁⟩ := run_perform_bind.mp h
  obtain ⟨_, tr₂, rfl, h₂⟩ := run_perform_bind.mp h₁
  obtain ⟨rfl, rfl⟩ := run_ret.mp h₂
  exact ⟨deleted, rfl, rfl⟩

/-- Opening the device. -/
def openDevice (b : Build) (fd : Int) : SysEvent :=
  ⟨.openFile ("/dev/i2c-" ++ toString b.fpgaI2cBus) .rdwrNonblock, fd⟩

/-- Deleting the file, and closing what was opened. -/
def cleanUp (fd dummyfd : Int) (deleted : Bool) : List SysEvent :=
  [⟨.unlink hashFile, deleted⟩, ⟨.close dummyfd, ()⟩, ⟨.close fd, ()⟩]

/-- The ways out of a request, each with its events: the device cannot be
opened, nor the directory made, nor the file opened, or the file was opened and
is deleted at the end, with the firmware read and hashed or not. -/
inductive HashRun (b : Build) (fuel : Nat) (behind : UInt8) (r : Nat) (digests : Digests) :
    List SysEvent → Int32 → Digests → Prop where
  | noDevice {fd : Int} (hfd : fd < 0) :
      HashRun b fuel behind r digests [openDevice b fd, ⟨.close fd, ()⟩]
        (-errorOpenI2cDevice) digests
  | noDirectory {fd : Int} {dir : List SysEvent} (hfd : ¬fd < 0)
      (hdir : Run hashDirectory dir false) :
      HashRun b fuel behind r digests (openDevice b fd :: (dir ++ [⟨.close fd, ()⟩])) exitFailure
        digests
  | noFile {fd dummyfd : Int} {dir rest : List SysEvent} (hfd : ¬fd < 0)
      (hdir : Run hashDirectory dir true) (hdummyfd : dummyfd < 0)
      (hrest : rest = [⟨.close fd, ()⟩] ∨ ∃ deleted, rest = cleanUp fd dummyfd deleted) :
      HashRun b fuel behind r digests
        (openDevice b fd :: (dir ++ ⟨.openFile hashFile .rdwrCreat, dummyfd⟩ :: rest)) exitFailure
        digests
  | opened {fd dummyfd : Int} {dir seg : List SysEvent} {ret : Int32} {deleted : Bool}
      {digests' : Digests} (hfd : ¬fd < 0) (hdir : Run hashDirectory dir true)
      (hdummyfd : ¬dummyfd < 0)
      (hhash : Run (hashFirmware b fuel behind fd dummyfd r digests) seg (some (ret, digests'))) :
      HashRun b fuel behind r digests
        (openDevice b fd :: (dir ++ ⟨.openFile hashFile .rdwrCreat, dummyfd⟩
          :: (seg ++ cleanUp fd dummyfd deleted)))
        (if deleted then ret else exitFailure) digests'

theorem hashRun_of_run
    (h : Run (readFWImagenComputeHash b fuel behind r digests) tr (some (ret, digests'))) :
    HashRun b fuel behind r digests tr ret digests' := by
  obtain ⟨fd, tr₁, rfl, h₁⟩ := run_perform_bind.mp h
  split at h₁
  · next hfd =>
      obtain ⟨_, tr₂, rfl, h₂⟩ := run_perform_bind.mp h₁
      obtain ⟨rfl, heq⟩ := run_ret.mp h₂
      cases heq
      exact .noDevice hfd
  · next hfd =>
      obtain ⟨tr₂, directory, tr₃, rfl, hdir, h₂⟩ := run_bind.mp h₁
      split at h₂
      · next hmissing =>
          obtain ⟨_, tr₄, rfl, h₃⟩ := run_perform_bind.mp h₂
          obtain ⟨rfl, heq⟩ := run_ret.mp h₃
          cases heq
          exact .noDirectory hfd (hmissing ▸ hdir)
      · next hfound =>
          obtain rfl := Bool.of_not_eq_false hfound
          obtain ⟨dummyfd, tr₄, rfl, h₃⟩ := run_perform_bind.mp h₂
          split at h₃
          · next hdummyfd =>
              split at h₃
              · obtain ⟨tr₅, ret', tr₆, rfl, hdelete, h₄⟩ := run_bind.mp h₃
                obtain ⟨_, tr₇, rfl, h₅⟩ := run_perform_bind.mp h₄
                obtain ⟨rfl, heq⟩ := run_ret.mp h₅
                cases heq
                obtain ⟨deleted, rfl, rfl⟩ := run_deleteFile hdelete
                rw [ite_self]
                exact .noFile hfd hdir hdummyfd (Or.inr ⟨deleted, rfl⟩)
              · obtain ⟨_, tr₅, rfl, h₄⟩ := run_perform_bind.mp h₃
                obtain ⟨rfl, heq⟩ := run_ret.mp h₄
                cases heq
                exact .noFile hfd hdir hdummyfd (Or.inl rfl)
          · next hdummyfd =>
              obtain ⟨tr₅, res, tr₆, rfl, hhash, h₄⟩ := run_bind.mp h₃
              rcases res with _ | ⟨ret', digests''⟩
              · cases (run_ret.mp h₄).2
              · obtain ⟨tr₇, ret'', tr₈, rfl, hdelete, h₅⟩ := run_bind.mp h₄
                obtain ⟨_, tr₉, rfl, h₆⟩ := run_perform_bind.mp h₅
                obtain ⟨rfl, heq⟩ := run_ret.mp h₆
                cases heq
                obtain ⟨deleted, rfl, rfl⟩ := run_deleteFile hdelete
                exact .opened hfd hdir hdummyfd hhash

/-- The ways through `method_computeHash`. -/
inductive RequestRun (b : Build) (fuel : Nat) (behind : UInt8) (digests : Digests) :
    List SysEvent → Int32 → Digests → Prop where
  | unread : RequestRun b fuel behind digests [⟨.sdBusMessageRead, none⟩] exitFailure digests
  | invalid {retimerId : UInt32} {ret : Int32} (hinvalid : maxRetimers ≤ retimerId.toNat) :
      RequestRun b fuel behind digests
        [⟨.sdBusMessageRead, some retimerId⟩, ⟨.sdBusReplyInvalidArgument, ret⟩] ret digests
  | unreplied {retimerId : UInt32} (hvalid : retimerId.toNat < maxRetimers) :
      RequestRun b fuel behind digests
        [⟨.sdBusMessageRead, some retimerId⟩, ⟨.sdBusReplyMethodReturn, false⟩] exitFailure digests
  | served {retimerId : UInt32} {seg : List SysEvent} {ret : Int32} {digests' : Digests}
      (hvalid : retimerId.toNat < maxRetimers)
      (hread : Run (readFWImagenComputeHash b fuel behind retimerId.toNat
        (digests.store retimerId.toNat [])) seg (some (ret, digests'))) :
      RequestRun b fuel behind digests
        (⟨.sdBusMessageRead, some retimerId⟩ :: ⟨.sdBusReplyMethodReturn, true⟩
          :: (seg ++ [⟨.sdBusEmitPropertiesChanged retimerId.toNat, ()⟩])) ret digests'

theorem requestRun_of_run
    (h : Run (methodComputeHash b fuel behind digests) tr (some (ret, digests'))) :
    RequestRun b fuel behind digests tr ret digests' := by
  obtain ⟨retimerId, tr₁, rfl, h₁⟩ := run_perform_bind.mp h
  rcases retimerId with _ | retimerId
  · obtain ⟨rfl, heq⟩ := run_ret.mp h₁
    cases heq
    exact .unread
  · dsimp only at h₁
    split at h₁
    · next hinvalid =>
        obtain ⟨answer, tr₂, rfl, h₂⟩ := run_perform_bind.mp h₁
        obtain ⟨rfl, heq⟩ := run_ret.mp h₂
        cases heq
        exact .invalid hinvalid
    · next hvalid =>
        obtain ⟨replied, tr₂, rfl, h₂⟩ := run_perform_bind.mp h₁
        split at h₂
        · next hreplied =>
            obtain rfl := hreplied
            obtain ⟨rfl, heq⟩ := run_ret.mp h₂
            cases heq
            exact .unreplied (Nat.not_le.mp hvalid)
        · next hreplied =>
            obtain rfl := Bool.of_not_eq_false hreplied
            obtain ⟨seg, res, tr₃, rfl, hread, h₃⟩ := run_bind.mp h₂
            rcases res with _ | ⟨ret', digests''⟩
            · cases (run_ret.mp h₃).2
            · obtain ⟨_, tr₄, rfl, h₄⟩ := run_perform_bind.mp h₃
              obtain ⟨rfl, heq⟩ := run_ret.mp h₄
              cases heq
              exact .served (Nat.not_le.mp hvalid) hread

end Ways

end Retimer
