import Retimer.Fpga
import Retimer.FwUpdate

/-!
# Which function makes which requests

For the functions below `main` and the hash service, what they can ask
for at all. Three classes are enough for most purposes: log messages,
requests that have nothing to do with an update of their own
(`IsPlain`), and those of an update attempt (`IsUpdating`). None of the
three announces an operation. For the functions the commands are made
of, `IsStaging`, `IsLoading`, `IsFetching` and `IsTrying` say more:
which addresses they write to, and which messages they can send.

There is one lemma `only_f` for each function `f`, found by going
through its statements; `only_generic`, `only_sendI2cCmdWrite` and
`only_sendI2cCmdRead` are stated for any class that has the messages and
the transaction in it, and the rest uses them with its own. The classes
are ordered (`IsStaging.isLoading`, `IsLoading.isPlain` and so on), so
that the strongest one is proved and the others follow.

These bounds are what the run lemmas of other modules stand on: they
tell the part of a trace in which something happened from the parts in
which it cannot have.
-/

namespace Retimer

open Interaction Interaction.Prog

def IsMessage : Call → Prop
  | .emitLogMessage _ => True
  | _ => False

instance : DecidablePred IsMessage
  | .emitLogMessage _ => isTrue trivial
  | .i2cWrite _ _ _ | .i2cRead _ _ _ _ | .performing _ | .openFile _ _ | .close _ | .fstat _
  | .ftruncate _ _ | .mmap _ _ | .calloc | .malloc _ | .segfault | .read _ _ | .write _ _
  | .lseek _ _ | .access _ | .mkdir _ | .unlink _ | .evpMdCtxNew | .evpDigestInit
  | .evpDigestUpdate _ | .evpDigestFinal | .evpMdCtxFree | .sdBusMessageRead
  | .sdBusReplyMethodReturn | .sdBusReplyInvalidArgument | .sdBusEmitPropertiesChanged _ =>
      isFalse id

def IsTransaction : Call → Prop
  | .i2cWrite _ _ _ | .i2cRead _ _ _ _ => True
  | _ => False

instance : DecidablePred IsTransaction
  | .i2cWrite _ _ _ | .i2cRead _ _ _ _ => isTrue trivial
  | .emitLogMessage _ | .performing _ | .openFile _ _ | .close _ | .fstat _
  | .ftruncate _ _ | .mmap _ _ | .calloc | .malloc _ | .segfault | .read _ _ | .write _ _
  | .lseek _ _ | .access _ | .mkdir _ | .unlink _ | .evpMdCtxNew | .evpDigestInit
  | .evpDigestUpdate _ | .evpDigestFinal | .evpMdCtxFree | .sdBusMessageRead
  | .sdBusReplyMethodReturn | .sdBusReplyInvalidArgument | .sdBusEmitPropertiesChanged _ =>
      isFalse id

/-- A message of the generic kind. -/
def IsGeneric : Call → Prop
  | .emitLogMessage m => m.message = resourceErrorsDetected
  | _ => False

/-- Neither a write to the update register nor the start of an operation. -/
def IsPlain : Call → Prop
  | .i2cWrite _ _ writeData => addressOf writeData ≠ fpgaUpdateStatusReg.toNat
  | .performing _ => False
  | _ => True

/-- No write but to the update register, and not the start of an operation. -/
def IsUpdating : Call → Prop
  | .i2cWrite _ _ writeData => addressOf writeData = fpgaUpdateStatusReg.toNat
  | .performing _ => False
  | _ => True

/-- What moving an image into the FPGA takes. -/
def IsStaging : Call → Prop
  | .i2cWrite _ _ writeData => addressOf writeData ≠ fpgaUpdateStatusReg.toNat
      ∧ addressOf writeData ≠ fpgaReadStatusReg.toNat
  | .i2cRead _ _ _ _ => True
  | c => IsGeneric c

/-- The same for a file. -/
def IsLoading : Call → Prop
  | .fstat _ | .malloc _ | .read _ _ | .close _ => True
  | c => IsStaging c

/-- What reading the DPRAM into a file takes. -/
def IsFetching : Call → Prop
  | .i2cRead _ _ writeData _ => addressOf writeData ≠ fpgaReadStatusReg.toNat
  | .fstat _ | .malloc _ | .segfault | .lseek _ _ | .write _ _ | .close _ => True
  | c => IsGeneric c

/-- A message of the status checks: one that is not generic is about a failure,
and has a resolution. -/
def IsReport : Call → Prop
  | .emitLogMessage m =>
      m.message = resourceErrorsDetected
        ∨ (m.message ≠ "UpdateSuccessful" ∧ m.resolution.isSome = true)
  | _ => False

/-- What `startRetimerFwUpdate` takes: its trigger and its polls, the extended
error register on a device of its own, and the messages of the status checks. -/
def IsTrying : Call → Prop
  | .i2cWrite _ _ writeData => addressOf writeData = fpgaUpdateStatusReg.toNat
  | .i2cRead _ _ _ _ | .openFile _ _ | .close _ => True
  | c => IsReport c

/-- The start of an operation. -/
def IsPerforming : Call → Prop
  | .performing _ => True
  | _ => False

theorem IsGeneric.isMessage {c : Call} (h : IsGeneric c) : IsMessage c := by
  cases c with
  | emitLogMessage m => trivial
  | _ => exact h.elim

theorem IsGeneric.isStaging {c : Call} (h : IsGeneric c) : IsStaging c := by
  cases c with
  | emitLogMessage m => exact h
  | _ => exact h.elim

theorem IsGeneric.isReport {c : Call} (h : IsGeneric c) : IsReport c := by
  cases c with
  | emitLogMessage m => exact Or.inl h
  | _ => exact h.elim

theorem IsReport.isMessage {c : Call} (h : IsReport c) : IsMessage c := by
  cases c with
  | emitLogMessage m => trivial
  | _ => exact h.elim

theorem IsReport.isTrying {c : Call} (h : IsReport c) : IsTrying c := by
  cases c with
  | emitLogMessage m => exact h
  | _ => exact h.elim

theorem IsStaging.isPlain {c : Call} (h : IsStaging c) : IsPlain c := by
  cases c with
  | i2cWrite fd slaveId writeData => exact h.1
  | i2cRead fd slaveId writeData n => trivial
  | emitLogMessage m => trivial
  | _ => exact h.elim

theorem IsStaging.isLoading {c : Call} (h : IsStaging c) : IsLoading c := by
  cases c with
  | i2cWrite fd slaveId writeData => exact h
  | i2cRead fd slaveId writeData n => trivial
  | emitLogMessage m => exact h
  | _ => exact h.elim

theorem IsLoading.isPlain {c : Call} (h : IsLoading c) : IsPlain c := by
  cases c with
  | i2cWrite fd slaveId writeData => exact h.1
  | performing uo => exact h
  | _ => trivial

theorem IsGeneric.isFetching {c : Call} (h : IsGeneric c) : IsFetching c := by
  cases c with
  | emitLogMessage m => exact h
  | _ => exact h.elim

theorem IsFetching.isPlain {c : Call} (h : IsFetching c) : IsPlain c := by
  cases c with
  | i2cWrite fd slaveId writeData => exact h.elim
  | performing uo => exact h
  | _ => trivial

theorem IsTrying.isUpdating {c : Call} (h : IsTrying c) : IsUpdating c := by
  cases c with
  | i2cWrite fd slaveId writeData => exact h
  | performing uo => exact h
  | _ => trivial

theorem IsMessage.not_transaction {c : Call} (h : IsMessage c) : ¬IsTransaction c := by
  cases c with
  | emitLogMessage m => exact id
  | _ => exact h.elim

theorem IsMessage.isPlain {c : Call} (h : IsMessage c) : IsPlain c := by
  cases c <;> trivial

theorem IsPlain.not_trigger (b : Build) {c : Call} (h : IsPlain c) : ¬IsTrigger b c := by
  cases c with
  | i2cWrite fd slaveId writeData => exact fun htrig => h htrig.2
  | _ => exact id

theorem IsTrigger.not_performing {b : Build} {c : Call} (h : IsTrigger b c) :
    ¬IsPerforming c := by
  cases c with
  | performing uo => exact h.elim
  | _ => exact id

theorem IsPlain.not_performing {c : Call} (h : IsPlain c) : ¬IsPerforming c := by
  cases c with
  | performing uo => exact h.elim
  | _ => exact id

theorem IsUpdating.not_performing {c : Call} (h : IsUpdating c) : ¬IsPerforming c := by
  cases c with
  | performing uo => exact h.elim
  | _ => exact id

/-! ## Messages and transactions -/

section Messages

variable {P : Call → Prop} {retimer : UInt8} {message severity : String}
  {verBeforeDevice : Bool} {resolution : Option String} {genericMessage : Bool}

theorem only_registryLoop {versionStr : String} {count index : Nat}
    (hP : ∀ arg0 arg1, P (.emitLogMessage ⟨message, arg0, arg1, severity, resolution,
      genericMessage⟩)) :
    Only P (registryLoop message versionStr verBeforeDevice severity resolution
      genericMessage count index retimer) := by
  induction count generalizing index retimer with
  | zero => trivial
  | succ count ih =>
      unfold registryLoop
      split
      · split
        · exact (only_perform.mpr (hP _ _)).bind fun _ => ih
        · exact (only_perform.mpr (hP _ _)).bind fun _ => ih
      · exact ih

theorem only_prepare {versionStr : List UInt8}
    (hP : ∀ arg0 arg1, P (.emitLogMessage ⟨message, arg0, arg1, severity, resolution,
      genericMessage⟩)) :
    Only P (prepareMessageRegistry retimer message versionStr verBeforeDevice severity
      resolution genericMessage) := by
  unfold prepareMessageRegistry
  exact (only_registryLoop hP).ite trivial

theorem only_prepareMessageRegistry {versionStr : List UInt8} :
    Only IsMessage (prepareMessageRegistry retimer message versionStr verBeforeDevice severity
      resolution genericMessage) :=
  only_prepare fun _ _ => trivial

end Messages

theorem only_generic {message arg0 arg1 severity : String} {resolution : Option String}
    (h : message = resourceErrorsDetected) :
    Only IsGeneric (genericMessageRegistry message arg0 arg1 severity resolution) :=
  only_perform.mpr h

theorem only_genericMessageRegistry {message arg0 arg1 severity : String}
    {resolution : Option String} :
    Only IsMessage (genericMessageRegistry message arg0 arg1 severity resolution) :=
  only_perform.mpr trivial

section Transactions

variable {P : Call → Prop} {b : Build} {fd : Int} {slaveId : UInt8} {writeData : List UInt8}

theorem only_sendI2cCmdFailed {errno : Int32} (hmsg : ∀ c, IsGeneric c → P c) :
    Only P (sendI2cCmdFailed b errno slaveId) := by
  unfold sendI2cCmdFailed
  exact ((only_generic rfl).mono hmsg).bind fun _ => trivial

theorem only_sendI2cCmdWrite (hmsg : ∀ c, IsGeneric c → P c)
    (hwrite : P (.i2cWrite fd slaveId writeData)) :
    Only P (sendI2cCmdWrite b fd slaveId writeData) := by
  unfold sendI2cCmdWrite
  refine (only_perform.mpr hwrite).bind fun answer => ?_
  cases answer with
  | ok readData => trivial
  | failed errno => exact only_sendI2cCmdFailed hmsg

theorem only_sendI2cCmdRead {n : Nat} (hmsg : ∀ c, IsGeneric c → P c)
    (hread : P (.i2cRead fd slaveId writeData n)) :
    Only P (sendI2cCmdRead b fd slaveId writeData n) := by
  unfold sendI2cCmdRead
  refine (only_perform.mpr hread).bind fun answer => ?_
  cases answer with
  | ok readData => trivial
  | failed errno => exact (only_sendI2cCmdFailed hmsg).bind fun _ => trivial

end Transactions

/-! ## Staging -/

section Staging

variable {b : Build} {fwAddr : List UInt8} {fwSize pageCount : Nat} {fwFd fd : Int}
  {slaveId : UInt8}

theorem isStaging_page (i : UInt32) (bs : List UInt8) :
    IsStaging (.i2cWrite fd slaveId (pageAddress i ++ bs)) := by
  have hupdate : fpgaUpdateStatusReg.toNat = 0x040008 := rfl
  have hread : fpgaReadStatusReg.toNat = 0x04000C := rfl
  simp only [IsStaging, addressOf_page, bytePerPage, hupdate, hread]
  omega

theorem only_copyPages {count i : Nat} :
    Only IsStaging (copyPages b fwAddr fwSize pageCount fd slaveId count i) := by
  induction count generalizing i with
  | zero => trivial
  | succ count ih =>
      unfold copyPages
      refine Only.ite trivial ?_
      refine (only_sendI2cCmdWrite (fun _ => IsGeneric.isStaging) (isStaging_page _ _)).bind
        fun ret => ?_
      exact Only.ite trivial ih

theorem only_writeRegister {reg value : UInt32}
    (hreg : IsStaging (.i2cWrite fd slaveId (regAddress reg ++ payload32 value))) :
    Only IsStaging (writeRegister b fd slaveId reg value) := by
  unfold writeRegister
  refine (only_sendI2cCmdWrite (fun _ => IsGeneric.isStaging) hreg).bind fun ret => ?_
  refine Only.ite trivial ?_
  exact (only_sendI2cCmdRead (fun _ => IsGeneric.isStaging) trivial).bind fun _ => trivial

theorem only_staging {fwCrc32 : UInt32} :
    Only IsStaging (copyImageFromMemToFpga b fwAddr fwSize fwCrc32 fd slaveId) := by
  unfold copyImageFromMemToFpga
  refine Only.ite trivial (only_copyPages.bind fun ret => Only.ite trivial ?_)
  refine (only_writeRegister ?_).bind fun ret => Only.ite trivial (only_writeRegister ?_)
  · rw [IsStaging, addressOf_imgSize]
    decide
  · rw [IsStaging, addressOf_chksum]
    decide

theorem only_copyImageFromMemToFpga {fwCrc32 : UInt32} :
    Only IsPlain (copyImageFromMemToFpga b fwAddr fwSize fwCrc32 fd slaveId) :=
  only_staging.mono fun _ => IsStaging.isPlain

theorem only_loading : Only IsLoading (copyImageFromFileToFpga b fwFd fd slaveId) := by
  unfold copyImageFromFileToFpga
  refine (only_perform.mpr trivial).bind fun size => ?_
  cases size with
  | none => exact (only_perform.mpr trivial).bind fun _ => trivial
  | some fwSize =>
      refine Only.ite ((only_perform.mpr trivial).bind fun _ => trivial) ?_
      refine (only_perform.mpr trivial).bind fun fwBuf => ?_
      cases fwBuf with
      | none => trivial
      | some fwBuf =>
          refine (only_perform.mpr trivial).bind fun bytes => ?_
          cases bytes with
          | none => exact (only_perform.mpr trivial).bind fun _ => trivial
          | some bytes => exact only_staging.mono fun _ => IsStaging.isLoading

theorem only_readPages {count i : Nat} : Only IsFetching (readPages b fd slaveId count i) := by
  have hpage : ∀ i : UInt32, addressOf (pageAddress i) ≠ fpgaReadStatusReg.toNat := by
    intro i
    have haddr : addressOf (pageAddress i) = i.toNat % 2 ^ 16 * bytePerPage := addressOf_page i []
    have hreg : fpgaReadStatusReg.toNat = 0x04000C := rfl
    rw [haddr, hreg, bytePerPage]
    omega
  induction count generalizing i with
  | zero => trivial
  | succ count ih =>
      unfold readPages
      refine (only_sendI2cCmdRead (fun _ => IsGeneric.isFetching) (hpage _)).bind fun _ => ?_
      refine Only.ite trivial (ih.bind fun res => ?_)
      cases res <;> trivial

theorem only_fetching : Only IsFetching (copyImageFromFpga b fwFd fd slaveId) := by
  unfold copyImageFromFpga
  refine (only_perform.mpr trivial).bind fun size => ?_
  cases size with
  | none => exact (only_perform.mpr trivial).bind fun _ => trivial
  | some size =>
      refine Only.ite ((only_perform.mpr trivial).bind fun _ => trivial) ?_
      refine (only_perform.mpr trivial).bind fun fwBuf => ?_
      cases fwBuf with
      | none => exact (only_perform.mpr trivial).bind fun crash => nomatch crash
      | some fwBuf =>
          refine only_readPages.bind fun res => ?_
          cases res with
          | error ret => trivial
          | ok pages =>
              refine (only_perform.mpr trivial).bind fun _ => ?_
              refine (only_perform.mpr trivial).bind fun written => ?_
              cases written with
              | none => exact (only_perform.mpr trivial).bind fun _ => trivial
              | some n => trivial

end Staging

/-! ## Update and read -/

section Update

variable {P : Call → Prop} {b : Build} {fd : Int}

theorem only_pollStatus {reg : UInt32} {busy : UInt8 → Bool} {turns : Nat}
    {word : Vector UInt8 4} (hmsg : ∀ c, IsGeneric c → P c)
    (hread : P (.i2cRead fd b.fpgaI2cCntrlAddr (regAddress reg) 4)) :
    Only P (pollStatus b fd reg busy turns word) := by
  induction turns generalizing word with
  | zero => trivial
  | succ turns ih =>
      unfold pollStatus
      refine (only_sendI2cCmdRead hmsg hread).bind fun _ => ?_
      exact Only.ite trivial (Only.ite ih trivial)

theorem only_statusErrorLoop {status retimer : UInt8} {allRetimers oneRetimer resolution : String}
    {n : Nat} : Only IsGeneric
      (statusErrorLoop status allRetimers oneRetimer resolution n retimer) := by
  induction n generalizing retimer with
  | zero => trivial
  | succ i ih =>
      unfold statusErrorLoop
      refine Only.ite ((only_generic rfl).bind fun _ => trivial) ?_
      exact Only.ite ((only_generic rfl).bind fun _ => ih) ih

theorem only_checkStatusError {error : Int32} {allRetimers oneRetimer resolution : String}
    {status retimer : UInt8} : Only IsReport
      (checkStatusError error allRetimers oneRetimer resolution status retimer) :=
  (only_statusErrorLoop.mono fun _ => IsGeneric.isReport).bind fun _ => trivial

theorem only_checkStatusByte {check : UInt8 → UInt8 → Sys (Int32 × UInt8)} {message : String}
    {versionStr : List UInt8} {status retry : UInt8}
    (hcheck : ∀ status retry, Only IsReport (check status retry))
    (hmessage : message ≠ "UpdateSuccessful") :
    Only IsReport (checkStatusByte check message versionStr status retry) := by
  unfold checkStatusByte
  refine Only.ite trivial ((hcheck _ _).bind fun _ => ?_)
  exact (only_prepare fun _ _ => Or.inr ⟨hmessage, rfl⟩).bind fun _ => trivial

theorem only_checkStatusWord {versionStr : List UInt8} {word : Vector UInt8 4} :
    Only IsReport (checkStatusWord versionStr word) := by
  unfold checkStatusWord
  refine (only_checkStatusByte (fun _ _ => only_checkStatusError) (by decide)).bind fun _ => ?_
  refine (only_checkStatusByte (fun _ _ => only_checkStatusError) (by decide)).bind fun _ => ?_
  exact (only_checkStatusByte (fun _ _ => only_checkStatusError) (by decide)).bind fun _ => trivial

theorem only_extendedErrorLoop {dump : List UInt8} {count index : Nat} :
    Only IsGeneric (extendedErrorLoop dump count index) := by
  induction count generalizing index with
  | zero => trivial
  | succ count ih =>
      unfold extendedErrorLoop
      exact Only.ite ((only_generic rfl).bind fun _ => ih) ih

theorem only_checkGlobalWp {globalWp : UInt8} : Only IsGeneric (checkGlobalWp globalWp) :=
  (only_generic rfl).ite trivial

theorem only_checkMuxSel {retimerEEPROMmuxSel : UInt8} :
    Only IsGeneric (checkMuxSel retimerEEPROMmuxSel) :=
  (only_generic rfl).ite trivial

theorem only_checkExtenedErrorReg : Only IsTrying (checkExtenedErrorReg b) := by
  have hmsg : ∀ c, IsGeneric c → IsTrying c := fun _ h => h.isReport.isTrying
  unfold checkExtenedErrorReg
  refine (only_perform.mpr trivial).bind fun exfd => Only.ite trivial ?_
  refine (only_sendI2cCmdRead hmsg trivial).bind fun _ => ?_
  refine Only.ite ((only_perform.mpr trivial).bind fun _ => trivial) ?_
  refine (only_extendedErrorLoop.mono hmsg).bind fun _ => ?_
  refine (only_checkGlobalWp.mono hmsg).bind fun _ => ?_
  refine (only_checkMuxSel.mono hmsg).bind fun _ => ?_
  exact (only_perform.mpr trivial).bind fun _ => trivial

theorem only_updateAttempts {versionStr : List UInt8} {attempts : Nat}
    {retimerNumber retimerNotUpdated : UInt8} {ret : Int32} :
    Only IsTrying (updateAttempts b fd versionStr attempts retimerNumber ret
      retimerNotUpdated) := by
  have hmsg : ∀ c, IsGeneric c → IsTrying c := fun _ h => h.isReport.isTrying
  induction attempts generalizing retimerNumber ret retimerNotUpdated with
  | zero => trivial
  | succ attempts ih =>
      unfold updateAttempts
      refine (only_sendI2cCmdWrite hmsg (addressOf_updateStatus _)).bind fun _ => ?_
      refine Only.ite trivial ((only_pollStatus hmsg trivial).bind fun _ => ?_)
      refine Only.ite trivial (Only.ite trivial ?_)
      refine (only_checkStatusWord.mono fun _ => IsReport.isTrying).bind fun _ => ?_
      exact only_checkExtenedErrorReg.bind fun _ => Only.ite trivial ih

theorem only_trying {versionStr : List UInt8} {retimerNumber retimerNotUpdated : UInt8} :
    Only IsTrying (startRetimerFwUpdate b fd retimerNumber versionStr retimerNotUpdated) :=
  only_updateAttempts

theorem only_startRetimerFwUpdate {versionStr : List UInt8}
    {retimerNumber retimerNotUpdated : UInt8} :
    Only IsUpdating (startRetimerFwUpdate b fd retimerNumber versionStr retimerNotUpdated) :=
  only_trying.mono fun _ => IsTrying.isUpdating

theorem only_readAttempts {retimerNumber : UInt8} {attempts : Nat} {ret : Int32}
    (hmsg : ∀ c, IsGeneric c → P c)
    (hwrite : ∀ payload,
      P (.i2cWrite fd b.fpgaI2cCntrlAddr (regAddress fpgaReadStatusReg ++ payload)))
    (hread : P (.i2cRead fd b.fpgaI2cCntrlAddr (regAddress fpgaReadStatusReg) 4)) :
    Only P (readAttempts b fd retimerNumber attempts ret) := by
  induction attempts generalizing ret with
  | zero => trivial
  | succ attempts ih =>
      unfold readAttempts
      refine (only_sendI2cCmdWrite hmsg (hwrite _)).bind fun _ => ?_
      refine Only.ite trivial ((only_pollStatus hmsg hread).bind fun _ => ?_)
      exact Only.ite trivial (Only.ite (Only.ite ih trivial) ih)

theorem only_readRetimerfw {retimerNumber : UInt8} :
    Only IsPlain (readRetimerfw b fd retimerNumber) :=
  only_readAttempts (fun _ h => h.isMessage.isPlain) (fun _ => addressOf_readStatus_ne _) trivial

end Update

end Retimer
