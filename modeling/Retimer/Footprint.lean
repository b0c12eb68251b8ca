import Retimer.Isolation
import Retimer.WorkingService

/-!
# What the programs touch

Whatever the bus and the files do, the update tool and the hash service
write to nothing but the FPGA, and there only to the pages of the DPRAM,
the size and the checksum register and the one register that starts what
was asked for. The update tool touches the FPGA for an update only once
it has accepted the file.

`Confined` is the property of a single request: a transaction is on the
descriptor of the device, and a write is to a page, to one of the two
registers, or one of those by which the program starts something. What
these are is a parameter, as are the other devices that are read, so
that the lemmas `confined_f` for the functions `f` serve both programs;
they are bounds on what a function can ask for (`Only`), whatever it is
answered. `confined_copyImageFromMemToFpga` is where the size of an
image comes in: none larger than the DPRAM is begun.

For the tool there is one thing more than a bound. In front of the first
transaction of an update stands an accepted file with an operation for a
retimer that was asked for (`Admitted`, `admitted_of_transaction`). For
the service, a transaction belongs to a request (`ConfinedFor`), and the
induction is over the requests.
-/

namespace Retimer

open Interaction Interaction.Prog

/-! ## Writes -/

/-- A page of the DPRAM, or the first part of one. -/
def WritesPage (writeData : List UInt8) : Prop :=
  addressOf writeData % bytePerPage = 0 ∧ (payloadOf writeData).length ≤ bytePerPage
    ∧ addressOf writeData + (payloadOf writeData).length ≤ dpramSize

def WritesRegister (reg : UInt32) (writeData : List UInt8) : Prop :=
  addressOf writeData = reg.toNat ∧ (payloadOf writeData).length = 4

def StartsUpdate (writeData : List UInt8) : Prop :=
  ∃ targets : UInt8, writeData = regAddress fpgaUpdateStatusReg ++ [targets, 0x00, 0x00, 0x00]

/-- A transaction that stays where it may. `starts` are the writes by which the
program starts something, and `others` the devices beside the FPGA that it
reads. -/
def Confined (b : Build) (fd : Int) (starts : List UInt8 → Prop) (others : UInt8 → Prop) :
    Call → Prop
  | .i2cWrite fd' slaveId writeData => fd' = fd ∧ slaveId = b.fpgaI2cCntrlAddr
      ∧ (WritesPage writeData ∨ WritesRegister fpgaImgSizeReg writeData
        ∨ WritesRegister fpgaChksumReg writeData ∨ starts writeData)
  | .i2cRead fd' slaveId _ _ => (fd' = fd ∧ slaveId = b.fpgaI2cCntrlAddr) ∨ others slaveId
  | _ => True

theorem writesPage_page {i : Nat} {bs : List UInt8} (hbs : bs.length ≤ bytePerPage)
    (hin : i * bytePerPage + bs.length ≤ dpramSize) (hi : i * bytePerPage < dpramSize) :
    WritesPage (pageAddress (UInt32.ofNat i) ++ bs) := by
  have hpages : i < 2 ^ 16 := by
    simp only [bytePerPage, dpramSize] at hi
    omega
  have haddr : addressOf (pageAddress (UInt32.ofNat i) ++ bs) = i * bytePerPage :=
    addressOf_page_nat hpages bs
  rw [WritesPage, haddr, payloadOf_page]
  exact ⟨Nat.mul_mod_left i bytePerPage, hbs, hin⟩

section Calls

variable {b : Build} {fd : Int} {starts : List UInt8 → Prop} {others : UInt8 → Prop} {c : Call}

theorem confined_of_not_transaction (h : ¬IsTransaction c) : Confined b fd starts others c := by
  cases c with
  | i2cWrite fd slaveId writeData => exact absurd trivial h
  | i2cRead fd slaveId writeData n => exact absurd trivial h
  | _ => trivial

theorem confined_of_generic (h : IsGeneric c) : Confined b fd starts others c :=
  confined_of_not_transaction h.isMessage.not_transaction

end Calls

/-! ## The functions -/

section Functions

variable {b : Build} {fd fwFd : Int} {starts : List UInt8 → Prop} {others : UInt8 → Prop}
  {fwAddr : List UInt8} {fwSize : Nat}

theorem confined_copyPages (hsize : fwSize ≤ dpramSize) {count i : Nat}
    (hi : i + count = fwSize / bytePerPage + 1) :
    Only (Confined b fd starts others) (copyPages b fwAddr fwSize (fwSize / bytePerPage) fd
      b.fpgaI2cCntrlAddr count i) := by
  induction count generalizing i with
  | zero => trivial
  | succ count ih =>
      unfold copyPages
      obtain ⟨k, hk⟩ : ∃ k, k = if i < fwSize / bytePerPage then bytePerPage
        else fwSize - fwSize / bytePerPage * bytePerPage := ⟨_, rfl⟩
      have hle : i ≤ fwSize / bytePerPage := by omega
      have hnext := pages_next hle hk
      simp only [← hk]
      by_cases hzero : k = 0
      · rw [if_pos hzero]
        trivial
      · rw [if_neg hzero]
        have hshort : (slice fwAddr (i * bytePerPage) k).length ≤ k := by
          rw [slice, List.length_take]
          exact Nat.min_le_left _ _
        have hpage : k ≤ bytePerPage := by
          have := Nat.lt_div_mul_add (a := fwSize) (b := bytePerPage) (by decide)
          split at hk <;> omega
        have hend : i * bytePerPage + k ≤ fwSize := by omega
        have hwrite : WritesPage (pageAddress (UInt32.ofNat i)
            ++ slice fwAddr (i * bytePerPage) k) :=
          writesPage_page (hshort.trans hpage) (by omega) (by omega)
        have hrest : i + 1 + count = fwSize / bytePerPage + 1 := by omega
        exact (only_sendI2cCmdWrite (fun _ => confined_of_generic) ⟨rfl, rfl, Or.inl hwrite⟩).bind
          fun ret => Only.ite trivial (ih hrest)

theorem confined_writeRegister {reg value : UInt32}
    (hreg : WritesRegister reg (regAddress reg ++ payload32 value)
      ∧ (reg = fpgaImgSizeReg ∨ reg = fpgaChksumReg)) :
    Only (Confined b fd starts others) (writeRegister b fd b.fpgaI2cCntrlAddr reg value) := by
  obtain ⟨hwrite, rfl | rfl⟩ := hreg
  · refine (only_sendI2cCmdWrite (fun _ => confined_of_generic)
      ⟨rfl, rfl, Or.inr (Or.inl hwrite)⟩).bind fun ret => Only.ite trivial ?_
    exact (only_sendI2cCmdRead (fun _ => confined_of_generic) (Or.inl ⟨rfl, rfl⟩)).bind
      fun _ => trivial
  · refine (only_sendI2cCmdWrite (fun _ => confined_of_generic)
      ⟨rfl, rfl, Or.inr (Or.inr (Or.inl hwrite))⟩).bind fun ret => Only.ite trivial ?_
    exact (only_sendI2cCmdRead (fun _ => confined_of_generic) (Or.inl ⟨rfl, rfl⟩)).bind
      fun _ => trivial

/-- No image larger than the DPRAM is begun, so the pages stay below the
registers, and the two that are written are those of the size and the CRC. -/
theorem confined_copyImageFromMemToFpga {fwCrc32 : UInt32} :
    Only (Confined b fd starts others)
      (copyImageFromMemToFpga b fwAddr fwSize fwCrc32 fd b.fpgaI2cCntrlAddr) := by
  unfold copyImageFromMemToFpga
  by_cases hmax : fwSize > b.maxFwImageSize
  · rw [if_pos hmax]
    trivial
  · rw [if_neg hmax]
    have hsize : fwSize ≤ dpramSize := Nat.le_trans (Nat.not_lt.mp hmax) b.maxFwImageSize_le
    refine (confined_copyPages hsize (Nat.zero_add _)).bind fun ret => Only.ite trivial ?_
    refine (confined_writeRegister ⟨⟨addressOf_imgSize _, rfl⟩, Or.inl rfl⟩).bind fun ret =>
      Only.ite trivial ?_
    exact confined_writeRegister ⟨⟨addressOf_chksum _, rfl⟩, Or.inr rfl⟩

theorem confined_copyImageFromFileToFpga :
    Only (Confined b fd starts others) (copyImageFromFileToFpga b fwFd fd b.fpgaI2cCntrlAddr) := by
  unfold copyImageFromFileToFpga
  refine (only_perform.mpr trivial).bind fun size => ?_
  cases size with
  | none => exact (only_perform.mpr trivial).bind fun _ => trivial
  | some fwSize =>
      refine Only.ite ((only_perform.mpr trivial).bind fun _ => trivial) ?_
      refine (only_perform.mpr trivial).bind fun fwBuf => ?_
      cases fwBuf with
      | none => trivial
      | some fwBuf =>
          refine (only_perform.mpr trivial).bind fun bytes => ?_
          cases bytes with
          | none => exact (only_perform.mpr trivial).bind fun _ => trivial
          | some bytes => exact confined_copyImageFromMemToFpga

theorem confined_readPages {count i : Nat} :
    Only (Confined b fd starts others) (readPages b fd b.fpgaI2cCntrlAddr count i) := by
  induction count generalizing i with
  | zero => trivial
  | succ count ih =>
      unfold readPages
      refine (only_sendI2cCmdRead (fun _ => confined_of_generic) (Or.inl ⟨rfl, rfl⟩)).bind
        fun _ => Only.ite trivial (ih.bind fun res => ?_)
      cases res <;> trivial

theorem confined_copyImageFromFpga :
    Only (Confined b fd starts others) (copyImageFromFpga b fwFd fd b.fpgaI2cCntrlAddr) := by
  unfold copyImageFromFpga
  refine (only_perform.mpr trivial).bind fun size => ?_
  cases size with
  | none => exact (only_perform.mpr trivial).bind fun _ => trivial
  | some size =>
      refine Only.ite ((only_perform.mpr trivial).bind fun _ => trivial) ?_
      refine (only_perform.mpr trivial).bind fun fwBuf => ?_
      cases fwBuf with
      | none => exact (only_perform.mpr trivial).bind fun crash => nomatch crash
      | some fwBuf =>
          refine confined_readPages.bind fun res => ?_
          cases res with
          | error ret => trivial
          | ok pages =>
              refine (only_perform.mpr trivial).bind fun _ => ?_
              refine (only_perform.mpr trivial).bind fun written => ?_
              cases written with
              | none => exact (only_perform.mpr trivial).bind fun _ => trivial
              | some n => trivial

theorem confined_readRetimerfw {retimerNumber : UInt8}
    (hstart : starts (readTrigger retimerNumber)) :
    Only (Confined b fd starts others) (readRetimerfw b fd retimerNumber) := by
  have hattempts : ∀ (attempts : Nat) (ret : Int32),
      Only (Confined b fd starts others) (readAttempts b fd retimerNumber attempts ret) := by
    intro attempts
    induction attempts with
    | zero => exact fun _ => trivial
    | succ attempts ih =>
        intro ret
        unfold readAttempts
        refine (only_sendI2cCmdWrite (fun _ => confined_of_generic)
          ⟨rfl, rfl, Or.inr (Or.inr (Or.inr hstart))⟩).bind fun _ => Only.ite trivial ?_
        refine (only_pollStatus (fun _ => confined_of_generic) (Or.inl ⟨rfl, rfl⟩)).bind fun _ => ?_
        exact Only.ite trivial (Only.ite (Only.ite (ih _) trivial) (ih _))
  exact hattempts maxUpdateRetryCount 0

theorem confined_checkExtenedErrorReg (hothers : others fpgaSecondaryRegtbl) :
    Only (Confined b fd starts others) (checkExtenedErrorReg b) := by
  unfold checkExtenedErrorReg
  refine (only_perform.mpr trivial).bind fun exfd => Only.ite trivial ?_
  refine (only_sendI2cCmdRead (fun _ => confined_of_generic) (Or.inr hothers)).bind fun _ => ?_
  refine Only.ite ((only_perform.mpr trivial).bind fun _ => trivial) ?_
  refine (only_extendedErrorLoop.mono fun _ => confined_of_generic).bind fun _ => ?_
  refine (only_checkGlobalWp.mono fun _ => confined_of_generic).bind fun _ => ?_
  refine (only_checkMuxSel.mono fun _ => confined_of_generic).bind fun _ => ?_
  exact (only_perform.mpr trivial).bind fun _ => trivial

theorem confined_startRetimerFwUpdate {versionStr : List UInt8}
    {retimerNumber retimerNotUpdated : UInt8} (hstart : ∀ writeData, StartsUpdate writeData →
      starts writeData) (hothers : others fpgaSecondaryRegtbl) :
    Only (Confined b fd starts others)
      (startRetimerFwUpdate b fd retimerNumber versionStr retimerNotUpdated) := by
  have hattempts : ∀ (attempts : Nat) (retimerNumber : UInt8) (ret : Int32)
      (retimerNotUpdated : UInt8), Only (Confined b fd starts others)
        (updateAttempts b fd versionStr attempts retimerNumber ret retimerNotUpdated) := by
    intro attempts
    induction attempts with
    | zero => exact fun _ _ _ => trivial
    | succ attempts ih =>
        intro retimerNumber ret retimerNotUpdated
        unfold updateAttempts
        refine (only_sendI2cCmdWrite (fun _ => confined_of_generic)
          ⟨rfl, rfl, Or.inr (Or.inr (Or.inr (hstart _ ⟨retimerNumber, rfl⟩)))⟩).bind fun _ => ?_
        refine Only.ite trivial ((only_pollStatus (fun _ => confined_of_generic)
          (Or.inl ⟨rfl, rfl⟩)).bind fun _ => ?_)
        refine Only.ite trivial (Only.ite trivial ?_)
        refine (only_checkStatusWord.mono fun _ h =>
          confined_of_not_transaction h.isMessage.not_transaction).bind fun _ => ?_
        exact (confined_checkExtenedErrorReg hothers).bind fun _ => Only.ite trivial (ih _ _ _)
  exact hattempts maxUpdateRetryCount retimerNumber 0 retimerNotUpdated

end Functions

/-! ## The update tool -/

/-- What the command of a call starts. -/
def StartsCommand (args : Arguments) (writeData : List UInt8) : Prop :=
  (args.command = retimerFwUpdate ∧ StartsUpdate writeData)
    ∨ (args.command = retimerFwRead ∧ writeData = readTrigger args.retimerBitmap)

/-- Only an update looks at the register with the extended errors. -/
def ReadsCommand (args : Arguments) (slaveId : UInt8) : Prop :=
  args.command = retimerFwUpdate ∧ slaveId = fpgaSecondaryRegtbl

/-- The parser has accepted the file, and one of its operations names a retimer
that was asked for. -/
def Admitted (b : Build) (args : Arguments) {fwSize : Nat} (image : Vector UInt8 fwSize)
    (calloc : Bool) : Prop :=
  (parseMapped b args image calloc).ret = 0
    ∧ ∃ ops, (parseMapped b args image calloc).updateOps = some ops
      ∧ ∃ op ∈ ops, (op.targeted args.retimerBitmap).applyBitmap ≠ 0

section Commands

variable {b : Build} {fd : Int} {args : Arguments} {tr : List SysEvent} {ev : SysEvent}

theorem confined_of_message {c : Call} (h : IsMessage c) :
    Confined b fd (StartsCommand args) (ReadsCommand args) c :=
  confined_of_not_transaction h.not_transaction

theorem confined_updateOperations {image : List UInt8} {retimerToUpdate : UInt8}
    {ops : List UpdateOperation} (hcommand : args.command = retimerFwUpdate) :
    Only (Confined b fd (StartsCommand args) (ReadsCommand args))
      (updateOperations b fd image retimerToUpdate ops) := by
  have hperform : ∀ (op : UpdateOperation) (st : LoopState),
      Only (Confined b fd (StartsCommand args) (ReadsCommand args))
        (performUpdate b fd image op st) := by
    intro op st
    unfold performUpdate
    refine Only.ite trivial
      ((only_prepareMessageRegistry.mono fun _ => confined_of_message).bind fun _ => ?_)
    refine confined_copyImageFromMemToFpga.bind fun ret => ?_
    refine Only.ite ((only_prepareMessageRegistry.mono fun _ => confined_of_message).bind
      fun _ => trivial) ?_
    refine (confined_startRetimerFwUpdate (fun _ h => Or.inl ⟨hcommand, h⟩)
      ⟨hcommand, rfl⟩).bind fun res => ?_
    refine Only.ite ((only_reportApplyFailed.mono fun _ => confined_of_message).bind
      fun _ => trivial) ?_
    exact (only_reportUpdateSuccessful.mono fun _ => confined_of_message).bind fun _ => trivial
  have hloop : ∀ (ops : List UpdateOperation) (uo : Nat) (st : LoopState),
      Only (Confined b fd (StartsCommand args) (ReadsCommand args))
        (updateLoop b fd image uo ops st) := by
    intro ops
    induction ops with
    | nil => exact fun _ _ => trivial
    | cons op ops ih =>
        intro uo st
        rw [updateLoop]
        exact (only_perform.mpr trivial).bind fun _ => (hperform op st).bind fun _ => ih _ _
  rw [updateOperations]
  refine (only_filterTargets.mono fun _ => confined_of_message).bind fun ops => ?_
  exact (hloop ops 0 initialLoopState).bind fun _ => trivial

theorem confined_updateCommand (hcommand : args.command = retimerFwUpdate) :
    Only (Confined b fd (StartsCommand args) (ReadsCommand args)) (updateCommand b fd args) := by
  have hmessages : ∀ {α : Type} (message : String) (res : α),
      Only (Confined b fd (StartsCommand args) (ReadsCommand args)) (prepareMessageRegistry
        args.retimerBitmap message args.versionStr msgRegVerFollowedByDev critical none false
        >>= fun _ => Prog.ret res) := fun _ _ =>
    (only_prepareMessageRegistry.mono fun _ => confined_of_message).bind fun _ => trivial
  unfold updateCommand
  refine (only_perform.mpr trivial).bind fun imagefd => Only.ite (hmessages _ _) ?_
  refine (only_perform.mpr trivial).bind fun size => ?_
  cases size with
  | none => exact hmessages _ _
  | some fwSize =>
      refine (only_perform.mpr trivial).bind fun image => ?_
      cases image with
      | none => exact hmessages _ _
      | some image =>
          refine (only_perform.mpr trivial).bind fun _ => Only.bind ?_ fun _ => trivial
          unfold updateImage
          refine (only_perform.mpr trivial).bind fun calloc => ?_
          refine (only_parseMessage.mono fun _ => confined_of_message).bind fun _ => ?_
          refine Only.ite (hmessages _ _) ?_
          split
          · exact Only.ite (hmessages _ _) (confined_updateOperations hcommand)
          · exact confined_updateOperations hcommand

theorem confined_readCommand (hcommand : args.command = retimerFwRead) :
    Only (Confined b fd (StartsCommand args) (ReadsCommand args)) (readCommand b fd args) := by
  unfold readCommand
  refine (only_perform.mpr trivial).bind fun dummyfd => Only.ite trivial ?_
  refine (only_perform.mpr trivial).bind fun truncated => ?_
  refine Only.ite ((only_perform.mpr trivial).bind fun _ => trivial) ?_
  refine confined_copyImageFromFileToFpga.bind fun ret => Only.ite trivial ?_
  refine (confined_readRetimerfw (Or.inr ⟨hcommand, rfl⟩)).bind fun ret => Only.ite trivial ?_
  refine (only_perform.mpr trivial).bind fun _ => ?_
  refine confined_copyImageFromFpga.bind fun ret => Only.ite trivial ?_
  exact (only_perform.mpr trivial).bind fun _ => trivial

theorem confined_runCommand :
    Only (Confined b fd (StartsCommand args) (ReadsCommand args)) (runCommand b fd args) := by
  unfold runCommand
  by_cases hupdate : args.command = retimerFwUpdate
  · rw [if_pos hupdate]
    exact (confined_updateCommand hupdate).bind fun _ => trivial
  · rw [if_neg hupdate]
    by_cases hread : args.command = retimerFwRead
    · rw [if_pos hread]
      exact (confined_readCommand hread).bind fun _ => trivial
    · rw [if_neg hread]
      trivial

/-! ## Nothing before the file is accepted -/

theorem targeted_of_transaction {image : List UInt8} {retimerToUpdate : UInt8}
    {ops : List UpdateOperation} {q : Sys Int32}
    (h : Trace (updateOperations b fd image retimerToUpdate ops) (tr ++ [ev]) q)
    (hev : IsTransaction ev.1) : ∃ op ∈ ops, (op.targeted retimerToUpdate).applyBitmap ≠ 0 := by
  have hmark : ¬¬IsTransaction ev.1 := not_not.mpr hev
  obtain ⟨pre₁, ops', pre₂, rfl, hfilter, h₁⟩ :=
    trace_bind_marked (only_filterTargets.mono fun _ => IsMessage.not_transaction) hmark h
  obtain rfl := run_filterTargets hfilter
  obtain ⟨p', h₂⟩ := trace_bind_unmarked (P := fun c => ¬IsTransaction c) (fun _ => only_ret) hmark
    h₁
  have hperforming : ¬IsPerforming ev.1 := by
    obtain ⟨c, a⟩ := ev
    cases c with
    | performing uo => exact hev.elim
    | _ => exact id
  obtain ⟨i, op, st, seg, q', -, hop, hbody⟩ := updateLoop_trace h₂ hperforming
  obtain ⟨op', hmem, rfl⟩ := List.mem_map.mp (List.mem_of_getElem? hop)
  refine ⟨op', hmem, fun hempty => ?_⟩
  unfold performUpdate at hbody
  rw [if_pos hempty] at hbody
  exact absurd (trace_ret.mp hbody).1 (by simp)

theorem admitted_of_transaction {q : Sys (Int32 × Int)}
    (h : Trace (updateCommand b fd args) (tr ++ [ev]) q) (hev : IsTransaction ev.1) :
    ∃ (imagefd : Int) (fwSize : Nat) (image : Vector UInt8 fwSize) (calloc : Bool)
      (rest : List SysEvent), tr = mapEvents args imagefd fwSize image calloc ++ rest
        ∧ Admitted b args image calloc := by
  have hmark : ¬¬IsTransaction ev.1 := not_not.mpr hev
  have hmessages : ∀ {α : Type} {message : String} {res : α} {tr : List SysEvent} {q : Sys α},
      ¬Trace (prepareMessageRegistry args.retimerBitmap message args.versionStr
        msgRegVerFollowedByDev critical none false >>= fun _ => pure res) (tr ++ [ev]) q := by
    intro α message res tr q h
    exact hmark (((only_prepareMessageRegistry.mono fun _ => IsMessage.not_transaction).bind
      fun _ => only_ret).last h)
  obtain ⟨pre₁, imagefd, pre₂, rfl, hopen, h₁⟩ :=
    trace_bind_marked (P := fun c => ¬IsTransaction c) (only_perform.mpr id) hmark h
  obtain rfl := run_perform.mp hopen
  split at h₁
  · exact absurd h₁ hmessages
  obtain ⟨pre₃, size, pre₄, rfl, hstat, h₂⟩ :=
    trace_bind_marked (P := fun c => ¬IsTransaction c) (only_perform.mpr id) hmark h₁
  obtain rfl := run_perform.mp hstat
  cases size with
  | none => exact absurd h₂ hmessages
  | some fwSize =>
      obtain ⟨pre₅, image, pre₆, rfl, hmap, h₃⟩ :=
        trace_bind_marked (P := fun c => ¬IsTransaction c) (only_perform.mpr id) hmark h₂
      obtain rfl := run_perform.mp hmap
      cases image with
      | none => exact absurd h₃ hmessages
      | some image =>
          obtain ⟨pre₇, _, pre₈, rfl, hclose, h₄⟩ :=
            trace_bind_marked (P := fun c => ¬IsTransaction c) (only_perform.mpr id) hmark h₃
          obtain rfl := run_perform.mp hclose
          obtain ⟨p', h₅⟩ := trace_bind_unmarked (P := fun c => ¬IsTransaction c)
            (fun _ => only_ret) hmark h₄
          obtain ⟨pre₉, calloc, rest, rfl, hcalloc, h₆⟩ :=
            trace_bind_marked (P := fun c => ¬IsTransaction c) (only_perform.mpr id) hmark h₅
          obtain rfl := run_perform.mp hcalloc
          refine ⟨imagefd, fwSize, image, calloc, rest, rfl, ?_⟩
          obtain ⟨msgs, _, rest', rfl, -, h₇⟩ := trace_bind_marked
            (only_parseMessage.mono fun _ => IsMessage.not_transaction) hmark h₆
          split at h₇
          · exact absurd h₇ hmessages
          · next hret =>
              split at h₇
              · split at h₇
                · exact absurd h₇ hmessages
                · obtain ⟨op, hmem, -⟩ := targeted_of_transaction h₇ hev
                  exact absurd hmem List.not_mem_nil
              · next ops hops =>
                  exact ⟨not_not.mp hret, ops, hops, targeted_of_transaction h₇ hev⟩

end Commands

/-! ## Whole runs -/

/-- **The update tool.** It makes transactions only for a command line that is
in order, on the bus that it names, and writes to nothing but the pages of
the DPRAM, the two registers, and the one that starts its command. For an
update, the parser has accepted the file before the first of them. -/
theorem main_confined (b : Build) (fuel : Nat) (argv : List (List UInt8)) (tr : List SysEvent)
    (q : Sys (Option Int32)) (h : Trace (main b fuel argv) tr q) :
    (∀ ev ∈ tr, ¬IsTransaction ev.1)
      ∨ ∃ (args : Arguments) (fd : Int) (rest : List SysEvent),
        checkArguments b fuel argv = some (.ok args)
        ∧ tr = ⟨.openFile ("/dev/i2c-" ++ toString args.bus) .rdwrNonblock, fd⟩ :: rest
        ∧ (∀ ev ∈ rest, Confined b fd (StartsCommand args) (ReadsCommand args) ev.1)
        ∧ (args.command = retimerFwUpdate →
          ∃ (imagefd : Int) (fwSize : Nat) (image : Vector UInt8 fwSize) (calloc : Bool)
            (rest' : List SysEvent), rest = mapEvents args imagefd fwSize image calloc ++ rest'
              ∧ Admitted b args image calloc) := by
  by_cases hnone : ∀ ev ∈ tr, ¬IsTransaction ev.1
  · exact Or.inl hnone
  refine Or.inr ?_
  obtain ⟨ev, hmem, hev⟩ : ∃ ev ∈ tr, IsTransaction ev.1 := by
    simpa only [not_forall, not_not, exists_prop] using hnone
  have hmark : ¬¬IsTransaction ev.1 := not_not.mpr hev
  unfold main at h
  split at h
  · obtain ⟨rfl, -⟩ := trace_ret.mp h
    cases hmem
  · obtain ⟨rfl, -⟩ := trace_ret.mp h
    cases hmem
  · next args hargs =>
      rcases trace_perform_bind.mp h with ⟨rfl, -⟩ | ⟨fd, rest, rfl, h₁⟩
      · cases hmem
      have hrest : ev ∈ rest := by
        rcases List.mem_cons.mp hmem with rfl | hmem
        · exact hev.elim
        · exact hmem
      have hclosed : ∀ {fd' : Int} {c : Call}, IsClose c →
          Confined b fd' (StartsCommand args) (ReadsCommand args) c := fun h =>
        confined_of_not_transaction h.not_transaction
      have hclosing : ∀ res : Int32 × Int × Int, Only IsClose (closeUnless fd >>= fun _ =>
          closeUnless res.2.1 >>= fun _ => closeUnless res.2.2 >>= fun _ =>
            Prog.ret (some res.1)) := fun _ =>
        closes_closeUnless.bind fun _ => closes_closeUnless.bind fun _ =>
          closes_closeUnless.bind fun _ => only_ret
      split at h₁
      · have hclose := (closes_closeUnless.bind fun _ => only_ret).trace h₁
        exact absurd hev (hclose.1 ev hrest).not_transaction
      · refine ⟨args, fd, rest, hargs, rfl, ?_, fun hcommand => ?_⟩
        · have hrun : Only (Confined b fd (StartsCommand args) (ReadsCommand args))
              (runCommand b fd args) := confined_runCommand
          exact ((hrun.bind fun res => (hclosing res).mono fun _ => hclosed).trace h₁).1
        · obtain ⟨pre, post, rfl⟩ := List.append_of_mem hrest
          rw [List.append_cons] at h₁
          obtain ⟨q', h₂, -⟩ := trace_append.mp h₁
          obtain ⟨p', h₃⟩ := trace_bind_unmarked
            (fun res => (hclosing res).mono fun _ => IsClose.not_transaction) hmark h₂
          rw [runCommand, if_pos hcommand] at h₃
          obtain ⟨p'', h₄⟩ := trace_bind_unmarked (P := fun c => ¬IsTransaction c)
            (fun _ => only_ret) hmark h₃
          obtain ⟨imagefd, fwSize, image, calloc, rest', rfl, hadmitted⟩ :=
            admitted_of_transaction h₄ hev
          exact ⟨imagefd, fwSize, image, calloc, rest' ++ ev :: post, by simp, hadmitted⟩

section Service

variable {b : Build} {fuel r : Nat} {behind : UInt8} {digests : Digests} {tr : List SysEvent}

/-- A transaction of a request for `r`, on the device that was opened for it. -/
def ConfinedFor (b : Build) (tr : List SysEvent) (r : Nat) (c : Call) : Prop :=
  ∃ fd, openDevice b fd ∈ tr
    ∧ Confined b fd (· = readTrigger (UInt8.ofNat r)) (fun _ => False) c

theorem ConfinedFor.append {c : Call} (h : ConfinedFor b tr r c) (pre post : List SysEvent) :
    ConfinedFor b (pre ++ (tr ++ post)) r c := by
  obtain ⟨fd, hmem, hconfined⟩ := h
  exact ⟨fd, List.mem_append_right _ (List.mem_append_left _ hmem), hconfined⟩

theorem confined_hashFirmware {fd dummyfd : Int} :
    Only (Confined b fd (· = readTrigger (UInt8.ofNat r)) (fun _ => False))
      (hashFirmware b fuel behind fd dummyfd r digests) :=
  only_readAndHash
    (only_reading confined_copyImageFromFileToFpga (confined_readRetimerfw rfl)
      confined_copyImageFromFpga trivial trivial)
    (only_hashing trivial fun c hc => by
      cases c with
      | i2cWrite fd slaveId writeData => exact hc.elim
      | i2cRead fd slaveId writeData n => exact hc.elim
      | _ => trivial)

theorem confined_readFWImagenComputeHash {q : Sys (Option (Int32 × Digests))}
    (h : Trace (readFWImagenComputeHash b fuel behind r digests) tr q) :
    ∀ ev ∈ tr, IsTransaction ev.1 → ConfinedFor b tr r ev.1 := by
  intro ev hmem hev
  obtain ⟨k, heq, hopened⟩ := @opened_computeHash fuel b r behind digests
  rw [heq] at h
  rcases trace_perform_bind.mp h with ⟨rfl, -⟩ | ⟨fd, rest, rfl, h₁⟩
  · cases hmem
  · have hrest : ev ∈ rest := by
      rcases List.mem_cons.mp hmem with rfl | hmem
      · exact hev.elim
      · exact hmem
    have hconfined := hopened (Confined b fd (· = readTrigger (UInt8.ofNat r)) fun _ => False) fd
      (fun _ _ => trivial) (fun _ => trivial) trivial trivial trivial fun _ => confined_hashFirmware
    exact ⟨fd, List.mem_cons_self, (hconfined.trace h₁).1 ev hrest⟩

theorem confined_methodComputeHash {q : Sys (Option (Int32 × Digests))}
    (h : Trace (methodComputeHash b fuel behind digests) tr q) :
    ∀ ev ∈ tr, IsTransaction ev.1 →
      ∃ r < maxRetimers, Asked tr r ∧ ConfinedFor b tr r ev.1 := by
  intro ev hmem hev
  have hfront : ∀ {c : Call} {a : Answer c} {rest : List SysEvent}, ¬IsTransaction c →
      ev ∈ (⟨c, a⟩ : SysEvent) :: rest → ev ∈ rest := by
    intro c a rest hc hmem
    rcases List.mem_cons.mp hmem with rfl | hmem
    · exact absurd hev hc
    · exact hmem
  rcases trace_perform_bind.mp h with ⟨rfl, -⟩ | ⟨retimerId, tr₁, rfl, h₁⟩
  · cases hmem
  have hmem₁ := hfront id hmem
  cases retimerId with
  | none =>
      obtain ⟨rfl, -⟩ := trace_ret.mp h₁
      cases hmem₁
  | some retimerId =>
      dsimp only at h₁
      split at h₁
      · rcases trace_perform_bind.mp h₁ with ⟨rfl, -⟩ | ⟨ret, tr₂, rfl, h₂⟩
        · cases hmem₁
        · obtain ⟨rfl, -⟩ := trace_ret.mp h₂
          cases hfront id hmem₁
      · next hvalid =>
          rcases trace_perform_bind.mp h₁ with ⟨rfl, -⟩ | ⟨replied, tr₂, rfl, h₂⟩
          · cases hmem₁
          have hmem₂ := hfront id hmem₁
          split at h₂
          · obtain ⟨rfl, -⟩ := trace_ret.mp h₂
            cases hmem₂
          · refine ⟨retimerId.toNat, Nat.not_le.mp hvalid,
              ⟨retimerId, List.mem_cons_self, rfl⟩, ?_⟩
            rcases trace_bind.mp h₂ with ⟨q', hread, -⟩ | ⟨seg, res, tr₃, rfl, hread, h₃⟩
            · have hconfined := confined_readFWImagenComputeHash hread ev hmem₂ hev
              have happend := hconfined.append [⟨.sdBusMessageRead, some retimerId⟩,
                ⟨.sdBusReplyMethodReturn, replied⟩] []
              rwa [List.append_nil] at happend
            · have hseg : ev ∈ seg := by
                rcases List.mem_append.mp hmem₂ with hmem | hmem
                · exact hmem
                · rcases res with _ | ⟨ret, digests'⟩
                  · obtain ⟨rfl, -⟩ := trace_ret.mp h₃
                    cases hmem
                  · rcases trace_perform_bind.mp h₃ with ⟨rfl, -⟩ | ⟨_, tr₄, rfl, h₄⟩
                    · cases hmem
                    · obtain ⟨rfl, -⟩ := trace_ret.mp h₄
                      cases hfront id hmem
              exact (confined_readFWImagenComputeHash hread ev hseg hev).append
                [⟨.sdBusMessageRead, some retimerId⟩, ⟨.sdBusReplyMethodReturn, replied⟩] tr₃

theorem confined_serveRequests {count : Nat} {q : Sys (Option Digests)}
    (h : Trace (serveRequests b fuel behind count digests) tr q) :
    ∀ ev ∈ tr, IsTransaction ev.1 →
      ∃ r < maxRetimers, Asked tr r ∧ ConfinedFor b tr r ev.1 := by
  induction count generalizing digests tr with
  | zero =>
      obtain ⟨rfl, -⟩ := trace_ret.mp h
      exact fun ev hmem => absurd hmem List.not_mem_nil
  | succ count ih =>
      intro ev hmem hev
      rcases trace_bind.mp h with ⟨q', hrequest, -⟩ | ⟨tr₁, res, tr₂, rfl, hrequest, hrest⟩
      · exact confined_methodComputeHash hrequest ev hmem hev
      · rcases List.mem_append.mp hmem with hmem | hmem
        · obtain ⟨r, hr, hasked, hconfined⟩ := confined_methodComputeHash hrequest ev hmem hev
          exact ⟨r, hr, asked_append.mpr (Or.inl hasked), hconfined.append [] _⟩
        · rcases res with _ | ⟨ret, digests'⟩
          · obtain ⟨rfl, -⟩ := trace_ret.mp hrest
            cases hmem
          · obtain ⟨r, hr, hasked, hconfined⟩ := ih hrest ev hmem hev
            have happend := hconfined.append tr₁ []
            rw [List.append_nil] at happend
            exact ⟨r, hr, asked_append.mpr (Or.inr hasked), happend⟩

end Service

/-- **The hash service.** It makes transactions only on the device that it has
opened for them, writes to nothing but the pages of the DPRAM, the two
registers and the one that starts a read, and reads no retimer that nobody
asked for. -/
theorem serveRequests_confined (b : Build) (fuel : Nat) (behind : UInt8) (count : Nat)
    (digests : Digests) (tr : List SysEvent) (q : Sys (Option Digests))
    (h : Trace (serveRequests b fuel behind count digests) tr q) :
    ∀ ev ∈ tr, IsTransaction ev.1 → ∃ r < maxRetimers, Asked tr r ∧ ∃ fd, openDevice b fd ∈ tr
      ∧ Confined b fd (· = readTrigger (UInt8.ofNat r)) (fun _ => False) ev.1 :=
  confined_serveRequests h

section Small

theorem main_confined_working : (∀ ev ∈ workingRun.1, ¬IsTransaction ev.1)
    ∨ ∃ (args : Arguments) (fd : Int) (rest : List SysEvent),
      checkArguments defaultBuild 10 smallArgv = some (.ok args)
      ∧ workingRun.1 = ⟨.openFile ("/dev/i2c-" ++ toString args.bus) .rdwrNonblock, fd⟩ :: rest
      ∧ (∀ ev ∈ rest, Confined defaultBuild fd (StartsCommand args) (ReadsCommand args) ev.1)
      ∧ (args.command = retimerFwUpdate →
        ∃ (imagefd : Int) (fwSize : Nat) (image : Vector UInt8 fwSize) (calloc : Bool)
          (rest' : List SysEvent), rest = mapEvents args imagefd fwSize image calloc ++ rest'
            ∧ Admitted defaultBuild args image calloc) :=
  main_confined defaultBuild 10 smallArgv workingRun.1 workingRun.2.1
    (trace_play _ 60 () (main defaultBuild 10 smallArgv))

theorem serveRequests_confined_small : (∃ ev ∈ promptRequest.1, IsTransaction ev.1)
    ∧ ∀ ev ∈ promptRequest.1, IsTransaction ev.1 → ∃ r < maxRetimers, Asked promptRequest.1 r
      ∧ ∃ fd, openDevice smallestBuild fd ∈ promptRequest.1
      ∧ Confined smallestBuild fd (· = readTrigger (UInt8.ofNat r)) (fun _ => False) ev.1 := by
  refine ⟨promptRequest_result.2, ?_⟩
  exact serveRequests_confined smallestBuild 257 0 1 initialDigests promptRequest.1
    promptRequest.2.1
    (trace_play _ 60 smallService (serveRequests smallestBuild 257 0 1 initialDigests))

end Small

end Retimer
