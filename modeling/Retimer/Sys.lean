import Retimer.Prog
import Retimer.Bytes
import Retimer.Build

/-!
# System calls, I2C transactions and log messages

Everything the programs of the repository ask of their surroundings, as
the requests of an interaction program (`Call`, answered in `Answer`),
and the three wrappers the rest is written with:
`sendI2cCmdWrite`/`sendI2cCmdRead` (`send_i2c_cmd` with `isRead` 0 and
1), `genericMessageRegistry` and `prepareMessageRegistry`.

An answer has the type of what can come back: a `read` delivers at most
as many bytes as were asked for, a `write` takes at most what it was
given, an `ioctl` has been carried out or has failed with an errno
(`I2cResult`). Nothing else is assumed of the kernel here. Which answers
a machine gives is the business of the environments further up, and a
function is translated without knowing them. `Call.succeed` has the
answers of a machine on which nothing fails, for runs on fixed inputs.

A message is a request too (`LogMessage`, all six arguments of
`emitLogMessage`), since what is logged is part of what the program
promises. The messages of a failed transaction come from
`maperrnoToI2CError`, with its buffer of 64 bytes (`inBuf`).

Progress output and `usleep` are left out, but for the one stderr line
by which `main` announces an update operation (`performing`): it is what
a reader of the output tells the operations apart by.
-/

namespace Retimer

open Interaction

/-- The arguments of `emitLogMessage`; `NULL` is `none`. -/
structure LogMessage where
  message : String
  arg0 : String
  arg1 : String
  severity : String
  resolution : Option String
  genericMessage : Bool
deriving DecidableEq

/-- The outcome of one `ioctl(I2C_RDWR)`. -/
inductive I2cResult (n : Nat) where
  | ok (readData : Vector UInt8 n)
  | failed (errno : Int32)
deriving DecidableEq

inductive OpenFlags where
  | rdwrNonblock
  | rdonly
  | rdwrCreat
deriving DecidableEq

/-- A request to the kernel, the C library, OpenSSL or D-Bus, with the arguments
it is made with. Two of them are no calls: `performing` is the line that
announces an operation, and `segfault` stands where the program would not go on. -/
inductive Call where
  | i2cWrite (fd : Int) (slaveId : UInt8) (writeData : List UInt8)
  | i2cRead (fd : Int) (slaveId : UInt8) (writeData : List UInt8) (readCount : Nat)
  | emitLogMessage (m : LogMessage)
  | performing (uo : Nat)
  | openFile (path : String) (flags : OpenFlags)
  | close (fd : Int)
  | fstat (fd : Int)
  | ftruncate (fd : Int) (length : Nat)
  | mmap (fd : Int) (length : Nat)
  | calloc
  | malloc (size : Nat)
  | segfault
  | read (fd : Int) (count : Nat)
  | write (fd : Int) (buf : List UInt8)
  | lseek (fd : Int) (offset : Nat)
  | access (path : String)
  | mkdir (path : String)
  | unlink (path : String)
  | evpMdCtxNew
  | evpDigestInit
  | evpDigestUpdate (block : List UInt8)
  | evpDigestFinal
  | evpMdCtxFree
  | sdBusMessageRead
  | sdBusReplyMethodReturn
  | sdBusReplyInvalidArgument
  | sdBusEmitPropertiesChanged (retimerId : Nat)
deriving DecidableEq

/-- What can come back: a status (`false` for failure), a descriptor or -1, a
size, bytes. A read delivers at most what was asked for, a write takes at most
what it was given, and nothing comes back from a crash. -/
@[reducible] def Answer : Call → Type
  | .i2cWrite _ _ _ => I2cResult 0
  | .i2cRead _ _ _ n => I2cResult n
  | .openFile _ _ => Int
  | .fstat _ => Option Nat
  | .mmap _ n => Option (Vector UInt8 n)
  | .malloc n => Option (Vector UInt8 n)
  | .segfault => Empty
  | .read _ n => Option {bs : List UInt8 // bs.length ≤ n}
  | .write _ bs => Option (Fin (bs.length + 1))
  | .evpDigestFinal => Option (Vector UInt8 48)
  | .sdBusMessageRead => Option UInt32
  | .ftruncate _ _ | .calloc | .lseek _ _ | .access _ | .mkdir _ | .unlink _
  | .evpMdCtxNew | .evpDigestInit | .evpDigestUpdate _ | .sdBusReplyMethodReturn => Bool
  | .sdBusReplyInvalidArgument => Int32
  | .emitLogMessage _ | .performing _ | .close _ | .evpMdCtxFree
  | .sdBusEmitPropertiesChanged _ => Unit

/-- The answers of a machine on which nothing fails: every file has the
contents `file`, and the FPGA is never busy. -/
def Call.succeed (file : List UInt8) : (c : Call) → Option (Answer c)
  | .i2cWrite _ _ _ => some (.ok (Vector.replicate 0 0))
  | .i2cRead _ _ _ n => some (.ok (Vector.replicate n 0))
  | .openFile _ _ => some 3
  | .fstat _ => some (some file.length)
  | .mmap _ n => some (if h : file.length = n then some ⟨file.toArray, h⟩ else none)
  | .malloc n => some (some (Vector.replicate n 0))
  | .segfault => none
  | .read _ n => some (some ⟨file.take n, List.length_take_le n file⟩)
  | .write _ bs => some (some (Fin.last bs.length))
  | .evpDigestFinal => some (some (Vector.replicate 48 0))
  | .sdBusMessageRead => some (some 0)
  | .ftruncate _ _ | .calloc | .lseek _ _ | .access _ | .mkdir _ | .unlink _
  | .evpMdCtxNew | .evpDigestInit | .evpDigestUpdate _ | .sdBusReplyMethodReturn => some true
  | .sdBusReplyInvalidArgument => some 0
  | .emitLogMessage _ | .performing _ | .close _ | .evpMdCtxFree
  | .sdBusEmitPropertiesChanged _ => some ()

/-- A program of the repository. -/
abbrev Sys (α : Type) : Type := Prog Call Answer α

abbrev SysEvent : Type := Event Call Answer

namespace Sys

abbrev request (c : Call) : Sys (Answer c) := Prog.perform c

def i2cWrite (fd : Int) (slaveId : UInt8) (writeData : List UInt8) : Sys (I2cResult 0) :=
  request (.i2cWrite fd slaveId writeData)

def i2cRead (fd : Int) (slaveId : UInt8) (writeData : List UInt8) (readCount : Nat) :
    Sys (I2cResult readCount) :=
  request (.i2cRead fd slaveId writeData readCount)

def emitLogMessage (m : LogMessage) : Sys Unit := request (.emitLogMessage m)

def openFile (path : String) (flags : OpenFlags) : Sys Int := request (.openFile path flags)

def close (fd : Int) : Sys Unit := request (.close fd)

def fstat (fd : Int) : Sys (Option Nat) := request (.fstat fd)

def malloc (size : Nat) : Sys (Option (Vector UInt8 size)) := request (.malloc size)

def read (fd : Int) (count : Nat) : Sys (Option {bs : List UInt8 // bs.length ≤ count}) :=
  request (.read fd count)

def write (fd : Int) (buf : List UInt8) : Sys (Option (Fin (buf.length + 1))) :=
  request (.write fd buf)

end Sys

/-! ## Messages -/

def critical : String := "xyz.openbmc_project.Logging.Entry.Level.Critical"
def informational : String := "xyz.openbmc_project.Logging.Entry.Level.Informational"
def resourceErrorsDetected : String := "ResourceEvent.1.0.ResourceErrorsDetected"

/-- The text of a C string: its bytes up to the first NUL. -/
def textOf (bs : List UInt8) : String :=
  String.ofList ((bs.takeWhile (· ≠ 0)).map fun c => Char.ofNat c.toNat)

def bytesOf (s : String) : List UInt8 := s.toList.map fun c => UInt8.ofNat c.toNat

/-- `"HGX_FW_PCIeRetimer_%d"`; `arrRetimer` has the names of 0 to 7. -/
def retimerName (index : Nat) : String := "HGX_FW_PCIeRetimer_" ++ toString index

def genericMessageRegistry (message arg0 arg1 severity : String)
    (resolution : Option String) : Sys Unit :=
  Sys.emitLogMessage ⟨message, arg0, arg1, severity, resolution, true⟩

/-- The loop of `prepareMessageRegistry`: `count` iterations from `index` on,
with `retimer` already shifted. -/
def registryLoop (message versionStr : String) (verBeforeDevice : Bool)
    (severity : String) (resolution : Option String) (genericMessage : Bool) :
    Nat → Nat → UInt8 → Sys Unit
  | 0, _, _ => pure ()
  | count + 1, index, retimer => do
      if retimer &&& 1 ≠ 0 then
        if verBeforeDevice then
          Sys.emitLogMessage ⟨message, versionStr, retimerName index, severity, resolution,
            genericMessage⟩
        else
          Sys.emitLogMessage ⟨message, retimerName index, versionStr, severity, resolution,
            genericMessage⟩
      registryLoop message versionStr verBeforeDevice severity resolution genericMessage
        count (index + 1) (retimer >>> 1)

def prepareMessageRegistry (retimer : UInt8) (message : String) (versionStr : List UInt8)
    (verBeforeDevice : Bool) (severity : String) (resolution : Option String)
    (genericMessage : Bool) : Sys Unit :=
  if retimer ≠ 0 then
    registryLoop message (textOf versionStr) verBeforeDevice severity resolution
      genericMessage 8 0 retimer
  else pure ()

def msgRegDevFollowedByVer : Bool := false
def msgRegVerFollowedByDev : Bool := true

/-! ## I2C transactions -/

/-- `%x` -/
def hex (n : Nat) : String := String.ofList (Nat.toDigits 16 n)

/-- A text that `sprintf` has written to `static char buf[64]`, read up to its NUL.
The bound is not looked at: what is longer than 63 characters, as the texts of
`strerror` can make it, runs on into the memory behind the buffer. -/
def inBuf (b : Build) (text : String) : String :=
  if text.length < 64 then text else String.ofList (text.toList.take 64) ++ b.behindBuf text

/-- The message and the resolution for an errno of the I2C driver
(`ENODEV` 19, `EAGAIN` 11, `ETIMEDOUT` 110, `ENXIO` 6, `EBUSY` 16). -/
def maperrnoToI2CError (b : Build) (errnoval : Int32) (slaveId : UInt8) : String × String :=
  let slave := ", slave address 0x" ++ hex slaveId.toNat
  let powerCycle := "Perform Power Cycle of HGX baseboard and retry the firmware update"
  let support := "Reach out to the Nvidia support team for further action"
  if errnoval = 19 then (inBuf b ("Slave not found" ++ slave), support)
  else if errnoval = 11 then
    (inBuf b ("ARB_LOST:ASPEED_I2CD_INTR_ARBIT_LOSS" ++ slave), "Retry the firmware update")
  else if errnoval = 110 then (inBuf b ("SCL Clock stretching too far" ++ slave), powerCycle)
  else if errnoval = 6 then
    (inBuf b ("Address phase NACK:ASPEED_I2CD_INTR_TX_NAK" ++ slave), powerCycle)
  else if errnoval = 16 then (inBuf b ("BUS BUSY:SDA/SCL Timeout" ++ slave), powerCycle)
  else (inBuf b ("Error " ++ b.strerror errnoval ++ slave), support)

/-- The failure branch of `send_i2c_cmd`. -/
def sendI2cCmdFailed (b : Build) (errno : Int32) (slaveId : UInt8) : Sys Int32 := do
  let (message, resolution) := maperrnoToI2CError b errno slaveId
  genericMessageRegistry resourceErrorsDetected "HGX_PCIeRetimer Update Service" message
    critical (some resolution)
  return -errorIoctlI2cRdwrFailure

/-- `send_i2c_cmd` with `isRead` 0: one message. -/
def sendI2cCmdWrite (b : Build) (fd : Int) (slaveId : UInt8) (writeData : List UInt8) :
    Sys Int32 := do
  match ← Sys.i2cWrite fd slaveId writeData with
  | .ok _ => return 0
  | .failed errno => sendI2cCmdFailed b errno slaveId

/-- `send_i2c_cmd` with `isRead` 1: a write and a read message in one
transaction. The read buffer was cleared by the caller. -/
def sendI2cCmdRead (b : Build) (fd : Int) (slaveId : UInt8) (writeData : List UInt8)
    (readCount : Nat) : Sys (Int32 × Vector UInt8 readCount) := do
  match ← Sys.i2cRead fd slaveId writeData readCount with
  | .ok readData => return (0, readData)
  | .failed errno => do
      let ret ← sendI2cCmdFailed b errno slaveId
      return (ret, Vector.replicate readCount 0)

/-- The three address bytes of a register, most significant first:
`(reg & BYTE2) >> 16`, `(reg & BYTE1) >> 8`, `reg & BYTE0`. -/
def regAddress (reg : UInt32) : List UInt8 :=
  [((reg &&& 0x00FF0000) >>> 16).toUInt8, ((reg &&& 0x0000FF00) >>> 8).toUInt8,
    ((reg &&& 0x000000FF) >>> 0).toUInt8]

/-- A 32-bit payload, least significant byte first. -/
def payload32 (x : UInt32) : List UInt8 :=
  [((x &&& 0x000000FF) >>> 0).toUInt8, ((x &&& 0x0000FF00) >>> 8).toUInt8,
    ((x &&& 0x00FF0000) >>> 16).toUInt8, ((x &&& 0xFF000000) >>> 24).toUInt8]

end Retimer
