import Retimer.Sys

/-!
# `startRetimerFwUpdate` and `readRetimerfw`

The two operations the FPGA carries out on request, each a trigger and a
polling loop of at most a minute (`pollStatus`), tried at most twice. An
update reports its errors in the bytes of the status word, which are
turned into a return code, messages and the bitmap of the retry.

The definitions follow the C functions part by part: `updateAttempts` is
the retry loop, with `ret` and `*retimerNotupdated` as the attempts
before have left them; `checkStatusWord` is the body between the poll
and the next attempt; `checkWriteNackError`, `checkReadNackError` and
`checkChecksumError` are three copies of one function in the source and
one definition (`checkStatusError`) with three sets of arguments here.
`checkExtenedErrorReg` opens a device of its own and reads another
register table; its result counts for the update only where it is
negative.

A loop of the source with a counter is a function by recursion on what
is left of it, so that everything said about it is an induction on that
number.

The last section gives names to what a status word says: `Busy`,
`Clear`, and the bits that are `flagged` in one of the error bytes.
-/

namespace Retimer

open Interaction

/-! ## Polling -/

/-- The polling loop with `turns` left before the timeout, on the status
register `reg`; `busy` is the condition of the `while`. The word last read is
left in `readBuffer`, also when the loop gives up: the caller cannot tell from
the return code alone whether it has come to an end. -/
def pollStatus (b : Build) (fd : Int) (reg : UInt32) (busy : UInt8 → Bool) :
    Nat → Vector UInt8 4 → Sys (Int32 × Vector UInt8 4)
  | 0, readBuffer => return (0, readBuffer)
  | turns + 1, _ => do
      let (ret, readBuffer) ← sendI2cCmdRead b fd b.fpgaI2cCntrlAddr (regAddress reg) 4
      if ret ≠ 0 then
        return (ret, readBuffer)
      if busy readBuffer[0] then
        pollStatus b fd reg busy turns readBuffer
      else
        return (0, readBuffer)

def clearedBuffer : Vector UInt8 4 := Vector.replicate 4 0

/-! ## Status bytes -/

/-- The loop of the three status checks, down from `i = n - 1`. At `i` = 8 the
byte is compared with the mask of all retimers. -/
def statusErrorLoop (status : UInt8) (allRetimers oneRetimer resolution : String) :
    Nat → UInt8 → Sys UInt8
  | 0, retimer => return retimer
  | i + 1, retimer => do
      let mask := maskRetimer.getD i 0
      if i = 8 ∧ status &&& mask = 0xFF then
        genericMessageRegistry resourceErrorsDetected (retimerName i) allRetimers critical
          (some resolution)
        return retimer ||| mask
      if (status &&& mask).toNat >>> i = 1 then
        genericMessageRegistry resourceErrorsDetected (retimerName i) oneRetimer critical
          (some resolution)
        statusErrorLoop status allRetimers oneRetimer resolution i (retimer ||| mask)
      else
        statusErrorLoop status allRetimers oneRetimer resolution i retimer

/-- A check of one status byte: the code ORed with the retimers found so far,
and these. -/
def checkStatusError (error : Int32) (allRetimers oneRetimer resolution : String)
    (status retimer : UInt8) : Sys (Int32 × UInt8) := do
  let retimer ← statusErrorLoop status allRetimers oneRetimer resolution 9 retimer
  return (-error ||| Int32.ofNat retimer.toNat, retimer)

def checkWriteNackError : UInt8 → UInt8 → Sys (Int32 × UInt8) :=
  checkStatusError errorWriteNack "Write Nack Error" "Write Nack ERROR"
    "Perform Power Cycle of HGX baseboard and retry the firmware update"

def checkReadNackError : UInt8 → UInt8 → Sys (Int32 × UInt8) :=
  checkStatusError errorReadNack "Read NACK Error" "Read NACK Error"
    "Perform Power Cycle of HGX baseboard and retry the firmware update"

def checkChecksumError : UInt8 → UInt8 → Sys (Int32 × UInt8) :=
  checkStatusError errorChecksum "CheckSum mismatch" "CheckSum mismatch"
    "Retry the Retimer FW update"

/-! ## The extended error register -/

def errorCodeMapTable : List (UInt8 × String) :=
  [(0x00, "NO_ERR"),
    (0x05, "ERR_I2C_CONTROLLER_FSM_TIMEOUT "),
    (0x06, "ERR_I2C_DOWNSTREAM_TIMEOUT "),
    (0x07, "ERR_I2C_NACK_FROM_DEV_ADDR "),
    (0x08, "ERR_I2C_NACK_FROM_DEV_CMD_DATA"),
    (0x09, "ERR_I2C_NACK_FROM_DEV_ADDR_RS "),
    (0x15, "ERR_PCIE_TIMEOUT_STOPPED_RT_EEPROM_UPDATE ")]

def parseExI2CErrorCode (errorCode : UInt8) : String :=
  (errorCodeMapTable.lookup errorCode).getD "Unknown Error"

/-- The loop over the pairs of error address and code, with `count` left. -/
def extendedErrorLoop (dump : List UInt8) : Nat → Nat → Sys Unit
  | 0, _ => return ()
  | count + 1, index => do
      let errorAddr := dump.getD (2 * index) 0
      let errorCode := dump.getD (2 * index + 1) 0
      if errorAddr ≠ noErr ∧ errorCode ≠ noErr then
        genericMessageRegistry resourceErrorsDetected (retimerName index)
          (parseExI2CErrorCode errorCode) critical none
        extendedErrorLoop dump count (index + 1)
      else
        extendedErrorLoop dump count (index + 1)

def checkGlobalWp (globalWp : UInt8) : Sys Unit :=
  if globalWp &&& globalWpLMask = 0x00 then
    genericMessageRegistry resourceErrorsDetected "HGX_FW_PCIeRetimer update service"
      "Global Write Protect Enabled" critical
      (some "Disable write protect on the device and retry the firmware update operation.")
  else pure ()

def muxSelName (retimerEEPROMmuxSel : UInt8) : String :=
  if retimerEEPROMmuxSel = 1 then "RET_0123_MUX_SEL_HW"
  else if retimerEEPROMmuxSel = 2 then "RET_4567_MUX_SEL_HW"
  else if retimerEEPROMmuxSel = 4 then "oRET_0123_MUX_SEL"
  else if retimerEEPROMmuxSel = 8 then "oRET_4567_MUX_SEL"
  else ""

def checkMuxSel (retimerEEPROMmuxSel : UInt8) : Sys Unit :=
  if retimerEEPROMmuxSel &&& retMuxSelMask ≠ 0x00 then
    genericMessageRegistry resourceErrorsDetected "retimerEEPROMmuxSel"
      (muxSelName retimerEEPROMmuxSel) critical
      (some "Reach out to the nNvidia support team for further action")
  else pure ()

/-- An `open` that fails leaves a positive code, which the caller takes for
success. -/
def checkExtenedErrorReg (b : Build) : Sys Int32 := do
  let exfd ← Sys.openFile ("/dev/i2c-" ++ toString hmcI2cbusFpgaSecRegtbl) .rdwrNonblock
  if exfd < 0 then
    return errorOpenI2cDevice
  let (ret, readBuffer) ←
    sendI2cCmdRead b exfd fpgaSecondaryRegtbl [0x0, 0x1] extendedErrMaxPageSz
  if ret ≠ 0 then
    Sys.close exfd
    return -1
  let dump := readBuffer.toList.drop fpgaSecRegtblFwcontrollerOffset
  extendedErrorLoop dump retimerMaxNum 0
  checkGlobalWp (dump.getD 16 0)
  checkMuxSel (dump.getD 17 0)
  Sys.close exfd
  return 0

/-! ## Updating -/

/-- A nonzero status byte is checked and `message` logged for the retimers
found so far. -/
def checkStatusByte (check : UInt8 → UInt8 → Sys (Int32 × UInt8)) (message : String)
    (versionStr : List UInt8) (status retryUpdate4Retimer : UInt8) : Sys (Int32 × UInt8) := do
  if status = 0 then
    return (0, retryUpdate4Retimer)
  let (ret, retryUpdate4Retimer) ← check status retryUpdate4Retimer
  prepareMessageRegistry retryUpdate4Retimer message versionStr msgRegVerFollowedByDev critical
    (some "Reach out to the NVIDIA support team for further action") false
  return (ret, retryUpdate4Retimer)

/-- The three error bytes of a status word: the codes ORed into the `ret` of 0
that the polling loop left, and the bitmap for the retry. -/
def checkStatusWord (versionStr : List UInt8) (word : Vector UInt8 4) : Sys (Int32 × UInt8) := do
  let (writeNack, retry) ←
    checkStatusByte checkWriteNackError "TransferFailed" versionStr word[1] 0
  let (readNack, retry) ←
    checkStatusByte checkReadNackError "VerificationFailed" versionStr word[2] retry
  let (checksum, retry) ←
    checkStatusByte checkChecksumError "VerificationFailed" versionStr word[3] retry
  return (writeNack ||| readNack ||| checksum, retry)

/-- The attempts that are left, with `ret` and `*retimerNotupdated` as they
stand. The bitmap of an attempt is the one that the status word of the attempt
before has left. -/
def updateAttempts (b : Build) (fd : Int) (versionStr : List UInt8) :
    Nat → UInt8 → Int32 → UInt8 → Sys (Int32 × UInt8)
  | 0, _, ret, retimerNotUpdated => return (ret, retimerNotUpdated)
  | attempts + 1, retimerNumber, _, retimerNotUpdated => do
      let ret ← sendI2cCmdWrite b fd b.fpgaI2cCntrlAddr
        (regAddress fpgaUpdateStatusReg ++ [retimerNumber, 0x00, 0x00, 0x00])
      if ret ≠ 0 then
        return (ret, retimerNotUpdated)
      let (ret, word) ← pollStatus b fd fpgaUpdateStatusReg (· ≠ fwUpdateCompleteFlag)
        maxTimeoutSec clearedBuffer
      if ret ≠ 0 then
        return (ret, retimerNotUpdated)
      if word[0] = 0 ∧ word[1] = 0 ∧ word[2] = 0 ∧ word[3] = 0 then
        return (ret, retimerNotUpdated)
      let (ret, retryUpdate4Retimer) ← checkStatusWord versionStr word
      let extended ← checkExtenedErrorReg b
      if extended < 0 then
        return (-errorOpenFirmware, retimerNotUpdated)
      updateAttempts b fd versionStr attempts retryUpdate4Retimer ret retryUpdate4Retimer

/-- Returns `ret` and what `*retimerNotupdated` is left as. -/
def startRetimerFwUpdate (b : Build) (fd : Int) (retimerNumber : UInt8) (versionStr : List UInt8)
    (retimerNotUpdated : UInt8) : Sys (Int32 × UInt8) :=
  updateAttempts b fd versionStr maxUpdateRetryCount retimerNumber 0 retimerNotUpdated

/-! ## Reading -/

def readAttempts (b : Build) (fd : Int) (retimerNumber : UInt8) : Nat → Int32 → Sys Int32
  | 0, ret => return ret
  | attempts + 1, _ => do
      let ret ← sendI2cCmdWrite b fd b.fpgaI2cCntrlAddr (regAddress fpgaReadStatusReg ++
        [((retimerNumber &&& nibble) <<< 4) ||| setRetimerFwRead, 0x0, 0x0, 0x0])
      if ret ≠ 0 then
        return ret
      let (ret, word) ← pollStatus b fd fpgaReadStatusReg (· &&& fwReadStatusMask ≠ 0x0)
        maxTimeoutSec clearedBuffer
      if ret ≠ 0 then
        return ret
      if word[0] &&& fwReadStatusMask = 0x0 then
        if word[1] &&& fwReadNackMask ≠ 0 then
          -- `continue`
          readAttempts b fd retimerNumber attempts ret
        else
          return ret
      else
        readAttempts b fd retimerNumber attempts ret

def readRetimerfw (b : Build) (fd : Int) (retimerNumber : UInt8) : Sys Int32 :=
  readAttempts b fd retimerNumber maxUpdateRetryCount 0

/-! ## What a status word says -/

def Busy (w : Vector UInt8 4) : Prop := w[0] ≠ 0

def Clear (w : Vector UInt8 4) : Prop := w[0] = 0 ∧ w[1] = 0 ∧ w[2] = 0 ∧ w[3] = 0

instance (w : Vector UInt8 4) : Decidable (Clear w) := inferInstanceAs (Decidable (_ ∧ _))

/-- The retimers in one of the three error bytes. -/
def flagged (w : Vector UInt8 4) : UInt8 := w[1] ||| w[2] ||| w[3]

/-! The error bytes one by one: `status_writeNack`, `status_readNack` and
`status_checksum`. -/

def statusWriteNack (w : Vector UInt8 4) : UInt8 := w[1]

def statusReadNack (w : Vector UInt8 4) : UInt8 := w[2]

def statusChecksum (w : Vector UInt8 4) : UInt8 := w[3]

theorem flagged_eq (w : Vector UInt8 4) :
    flagged w = statusWriteNack w ||| statusReadNack w ||| statusChecksum w := rfl

theorem getD_toList_zero (w : Vector UInt8 4) : w.toList.getD 0 0 = w[0] := by simp

theorem getD_toList_one (w : Vector UInt8 4) : w.toList.getD 1 0 = w[1] := by simp

theorem or_eq_zero {x y : UInt8} : x ||| y = 0 ↔ x = 0 ∧ y = 0 := by
  simp only [← UInt8.toNat_inj, UInt8.toNat_or, UInt8.toNat_zero, Nat.or_eq_zero_iff]

theorem flagged_eq_zero {w : Vector UInt8 4} :
    flagged w = 0 ↔ w[1] = 0 ∧ w[2] = 0 ∧ w[3] = 0 := by
  rw [flagged, or_eq_zero, or_eq_zero, and_assoc]

theorem clear_iff {w : Vector UInt8 4} : Clear w ↔ ¬Busy w ∧ flagged w = 0 := by
  rw [flagged_eq_zero, Busy, not_not, Clear]

end Retimer
