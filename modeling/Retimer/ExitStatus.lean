import Retimer.Reports

/-!
# What the exit status tells

`main` returns an `int`, of which the parent process sees the low byte.
The codes of the transfers and of `startRetimerFwUpdate` are told by
that byte. Five failures around the files are not told at all, as `ret`
is still 0, and one code of the parser is a multiple of 256.

`Told` says of a code that it is 0 if its low byte is. It is a property
of the results that a function can have (`Returns`), so there is a lemma
`told_f` for every function `f` below the commands, and
`Retries.refused` has it for an update. In the update loop the code that
counts is the one that is remembered: `Remembers` is the invariant of
its variables, `Operated.remembers` the step and
`run_updateLoop_remembers` the induction, with `OperationsSucceeded` for
the operations that went well.

The commands then are case analyses: `UpdateCommandRun.told_iff` and
`ReadCommandRun.told_iff` decide for each way whether the command
succeeded (`UpdateSucceeded`, `ReadSucceeded`) and whether it is one of
those that fail untold (`FailsUntold`). The two conditions exclude each
other by the events a command begins with (`failsUntold_mapped`,
`failsUntold_created`), so the result is an equivalence.
-/

namespace Retimer

open Interaction Interaction.Prog

/-! ## Codes that their low byte tells -/

/-- The code is 0 if its low byte is, so that the exit status does not hide it. -/
def Told (ret : Int32) : Prop := toUint8 ret = 0 → ret = 0

theorem told_zero : Told 0 := fun _ => rfl

theorem told_of_ne {ret : Int32} (h : toUint8 ret ≠ 0) : Told ret := fun hzero => absurd hzero h

theorem told_parseErrors {ret : Int32} (h : ret ∈ parseErrors) :
    ret = -errorCompositeImageHeaderCorrupt ∨ toUint8 ret ≠ 0 := by
  simp only [parseErrors, List.mem_cons, List.not_mem_nil, or_false] at h
  rcases h with rfl | rfl | rfl | rfl | rfl | rfl | rfl | rfl | rfl | rfl | rfl <;> decide

section Transfers

variable {b : Build} {fd fwFd : Int} {slaveId : UInt8} {fwAddr : List UInt8}

theorem told_sendI2cCmdWrite {writeData : List UInt8} :
    Returns Told (sendI2cCmdWrite b fd slaveId writeData) := by
  intro answer
  cases answer with
  | ok readData => exact told_zero
  | failed errno => exact fun _ => told_of_ne (by decide)

theorem told_sendI2cCmdRead {writeData : List UInt8} {n : Nat} :
    Returns (fun res => Told res.1) (sendI2cCmdRead b fd slaveId writeData n) := by
  intro answer
  cases answer with
  | ok readData => exact told_zero
  | failed errno =>
      have hne : toUint8 (-errorIoctlI2cRdwrFailure) ≠ 0 := by decide
      exact fun _ => told_of_ne hne

theorem told_copyPages {fwSize pageCount count i : Nat} :
    Returns Told (copyPages b fwAddr fwSize pageCount fd slaveId count i) := by
  induction count generalizing i with
  | zero => exact told_zero
  | succ count ih =>
      unfold copyPages
      refine Returns.ite (fun _ => told_zero) fun _ => ?_
      exact told_sendI2cCmdWrite.bind fun ret hret => Returns.ite (fun _ => hret) fun _ => ih

theorem told_writeRegister {reg value : UInt32} :
    Returns Told (writeRegister b fd slaveId reg value) := by
  unfold writeRegister
  refine told_sendI2cCmdWrite.bind fun ret hret => Returns.ite (fun _ => hret) fun _ => ?_
  exact told_sendI2cCmdRead.bind fun res hres => hres

theorem told_copyImageFromMemToFpga {fwSize : Nat} {fwCrc32 : UInt32} :
    Returns Told (copyImageFromMemToFpga b fwAddr fwSize fwCrc32 fd slaveId) := by
  unfold copyImageFromMemToFpga
  refine Returns.ite (fun _ => told_of_ne (by decide)) fun _ => ?_
  refine told_copyPages.bind fun ret hret => Returns.ite (fun _ => hret) fun _ => ?_
  refine told_writeRegister.bind fun ret hret => Returns.ite (fun _ => hret) fun _ => ?_
  exact told_writeRegister

theorem told_copyImageFromFileToFpga :
    Returns Told (copyImageFromFileToFpga b fwFd fd slaveId) := by
  intro size
  cases size with
  | none => exact fun _ => told_of_ne (by decide)
  | some fwSize =>
      refine Returns.ite (fun _ _ => told_of_ne (by decide)) fun _ fwBuf => ?_
      cases fwBuf with
      | none => exact told_of_ne (by decide)
      | some fwBuf =>
          intro bytes
          cases bytes with
          | none => exact fun _ => told_of_ne (by decide)
          | some bytes => exact told_copyImageFromMemToFpga

theorem told_copyImageFromFpga : Returns Told (copyImageFromFpga b fwFd fd slaveId) := by
  intro size
  cases size with
  | none => exact fun _ => told_of_ne (by decide)
  | some size =>
      refine Returns.ite (fun _ _ => told_of_ne (by decide)) fun _ fwBuf => ?_
      cases fwBuf with
      | none => exact fun crash => nomatch crash
      | some fwBuf =>
          refine returns_readPages.bind fun res hres => ?_
          cases res with
          | error ret =>
              obtain rfl := hres ret rfl
              have hne : toUint8 (-errorIoctlI2cRdwrFailure) ≠ 0 := by decide
              exact told_of_ne hne
          | ok pages =>
              intro _ written
              cases written with
              | none => exact fun _ => told_of_ne (by decide)
              | some n => exact told_zero

theorem told_pollStatus {reg : UInt32} {busy : UInt8 → Bool} {turns : Nat}
    {word : Vector UInt8 4} :
    Returns (fun res => Told res.1) (pollStatus b fd reg busy turns word) := by
  induction turns generalizing word with
  | zero => exact told_zero
  | succ turns ih =>
      unfold pollStatus
      refine told_sendI2cCmdRead.bind fun res hres => Returns.ite (fun _ => hres) fun _ => ?_
      exact Returns.ite (fun _ => ih) fun _ => told_zero

theorem told_readAttempts {retimerNumber : UInt8} {attempts : Nat} {ret : Int32} (hret : Told ret) :
    Returns Told (readAttempts b fd retimerNumber attempts ret) := by
  induction attempts generalizing ret with
  | zero => exact hret
  | succ attempts ih =>
      unfold readAttempts
      refine told_sendI2cCmdWrite.bind fun ret hret => Returns.ite (fun _ => hret) fun _ => ?_
      refine told_pollStatus.bind fun res hres => Returns.ite (fun _ => hres) fun _ => ?_
      exact Returns.ite (fun _ => Returns.ite (fun _ => ih hres) fun _ => hres) fun _ => ih hres

theorem told_startRetimerFwUpdate {retimerNumber retimerNotUpdated : UInt8}
    {versionStr : List UInt8} {tr : List SysEvent} {res : Int32 × UInt8}
    (h : Run (startRetimerFwUpdate b fd retimerNumber versionStr retimerNotUpdated) tr res) :
    Told res.1 := by
  have hretries := (run_updateAttempts h).1
  obtain ⟨hrefused, hwell⟩ := hretries.refused hretries.ne_nil
  by_cases h : Refused (attempts b tr)
  · exact told_of_ne (hrefused h)
  · exact fun _ => hwell h

end Transfers

/-! ## The update loop -/

/-- Copy and update of an operation returned 0. -/
def OperationSucceeded (b : Build) (fd : Int) (image : List UInt8) (op : UpdateOperation)
    (seg : List SysEvent) : Prop :=
  ∃ tr₁ tr₂ tr₃ tr₄ N N', seg = tr₁ ++ (tr₂ ++ (tr₃ ++ tr₄))
    ∧ Run (announceTransfer op) tr₁ () ∧ Run (copyOperation b fd image op) tr₂ 0
    ∧ Run (startOperation b fd op N) tr₃ (0, N')

/-- Every operation with a nonempty bitmap succeeded. -/
inductive OperationsSucceeded (b : Build) (fd : Int) (image : List UInt8) :
    Nat → List UpdateOperation → List SysEvent → Prop where
  | nil {uo : Nat} : OperationsSucceeded b fd image uo [] []
  | cons {uo : Nat} {op : UpdateOperation} {ops : List UpdateOperation} {seg rest : List SysEvent}
      (hop : op.applyBitmap ≠ 0 → OperationSucceeded b fd image op seg)
      (hrest : OperationsSucceeded b fd image (uo + 1) ops rest) :
      OperationsSucceeded b fd image uo (op :: ops) (⟨.performing uo, ()⟩ :: (seg ++ rest))

/-- The return codes of the loop so far are told, and a failure is remembered
for the code that is returned in the end. -/
structure Remembers (st : LoopState) : Prop where
  ret : Told st.ret
  first : Told st.updateFirstErrRet
  remembered : st.ret ≠ 0 → st.updateFirstErrRet ≠ 0

theorem remembers_initial : Remembers initialLoopState :=
  ⟨told_zero, told_zero, fun h => absurd rfl h⟩

/-- What a loop that remembers its failures returns is told. When the last
operation succeeded, the code that was remembered is returned, and its own code
otherwise. -/
theorem Remembers.loopRet {st : LoopState} (h : Remembers st) (hret : toUint8 (loopRet st) = 0) :
    st.updateFirstErrRet = 0 := by
  unfold Retimer.loopRet at hret
  split at hret
  · exact h.first hret
  · next hno =>
      by_contra hfirst
      exact hno ⟨h.ret hret, hfirst⟩

section Loop

variable {b : Build} {fd : Int} {image : List UInt8} {op : UpdateOperation} {st st' : LoopState}
  {tr : List SysEvent}

theorem Operated.remembers (h : Operated b fd image op st tr st') (hst : Remembers st) :
    Remembers st' ∧ (st'.updateFirstErrRet = 0 →
      st.updateFirstErrRet = 0 ∧ (op.applyBitmap ≠ 0 → OperationSucceeded b fd image op tr)) := by
  cases h with
  | skipped hempty => exact ⟨hst, fun hfirst => ⟨hfirst, fun hne => absurd hempty hne⟩⟩
  | notCopied hbitmap hannounce hcopy hret hreport =>
      have htold := told_copyImageFromMemToFpga.run hcopy
      exact ⟨⟨htold, htold, fun h => h⟩, fun hfirst => absurd hfirst hret⟩
  | refused hbitmap hannounce hcopy hstart hret hreport =>
      have htold := told_startRetimerFwUpdate hstart
      exact ⟨⟨htold, htold, fun h => h⟩, fun hfirst => absurd hfirst hret⟩
  | @updated tr₁ tr₂ tr₃ tr₄ notUpdated hbitmap hannounce hcopy hstart hreport =>
      refine ⟨⟨told_zero, hst.first, fun h => absurd rfl h⟩, fun hfirst => ⟨hfirst, fun _ => ?_⟩⟩
      exact ⟨tr₁, tr₂, tr₃, tr₄, _, notUpdated, rfl, hannounce, hcopy, hstart⟩

theorem run_updateLoop_remembers {uo : Nat} {ops : List UpdateOperation}
    (h : Run (updateLoop b fd image uo ops st) tr st') (hst : Remembers st) :
    Remembers st' ∧ (st'.updateFirstErrRet = 0 →
      st.updateFirstErrRet = 0 ∧ OperationsSucceeded b fd image uo ops tr) := by
  induction ops generalizing uo st tr with
  | nil =>
      obtain ⟨rfl, rfl⟩ := run_ret.mp h
      exact ⟨hst, fun hfirst => ⟨hfirst, .nil⟩⟩
  | cons op ops ih =>
      obtain ⟨seg, st₁, rest, rfl, hbody, hrest⟩ := run_updateLoop_cons h
      obtain ⟨hst₁, hop⟩ := (run_performUpdate hbody).remembers hst
      obtain ⟨hst', hops⟩ := ih hrest hst₁
      refine ⟨hst', fun hfirst => ?_⟩
      obtain ⟨hfirst₁, hrestOk⟩ := hops hfirst
      obtain ⟨hfirst₀, hopOk⟩ := hop hfirst₁
      exact ⟨hfirst₀, .cons hopOk hrestOk⟩

end Loop

/-! ## The read command -/

section Read

variable {b : Build} {fd : Int} {args : Arguments} {tr : List SysEvent}

/-- The complete runs of the read command, by what they return. -/
inductive ReadCommandRun (b : Build) (fd : Int) (args : Arguments) :
    List SysEvent → Int32 → Prop where
  | notOpened {dummyfd : Int} (hfd : dummyfd < 0) :
      ReadCommandRun b fd args [⟨.openFile "/tmp/Dummyfile" .rdwrCreat, dummyfd⟩] 0
  | notSized {dummyfd : Int} (hfd : ¬dummyfd < 0) :
      ReadCommandRun b fd args [⟨.openFile "/tmp/Dummyfile" .rdwrCreat, dummyfd⟩,
        ⟨.ftruncate dummyfd b.maxFwImageSize, false⟩, ⟨.close dummyfd, ()⟩] 0
  | failed {dummyfd : Int} {rest : List SysEvent} {ret : Int32} (hfd : ¬dummyfd < 0)
      (hret : toUint8 ret ≠ 0) :
      ReadCommandRun b fd args (⟨.openFile "/tmp/Dummyfile" .rdwrCreat, dummyfd⟩
        :: ⟨.ftruncate dummyfd b.maxFwImageSize, true⟩ :: rest) ret
  | done {dummyfd : Int} {tr₁ tr₂ tr₃ : List SysEvent} {sought : Bool} (hfd : ¬dummyfd < 0)
      (hwrite : Run (copyImageFromFileToFpga b dummyfd fd b.fpgaI2cCntrlAddr) tr₁ 0)
      (hread : Run (readRetimerfw b fd args.retimerBitmap) tr₂ 0)
      (hcopy : Run (copyImageFromFpga b dummyfd fd b.fpgaI2cCntrlAddr) tr₃ 0) :
      ReadCommandRun b fd args (⟨.openFile "/tmp/Dummyfile" .rdwrCreat, dummyfd⟩
        :: ⟨.ftruncate dummyfd b.maxFwImageSize, true⟩
          :: (tr₁ ++ (tr₂ ++ (⟨.lseek dummyfd 0, sought⟩
        :: (tr₃ ++ [⟨.close dummyfd, ()⟩]))))) 0

theorem run_readCommand {res : Int32 × Int} (h : Run (readCommand b fd args) tr res) :
    ReadCommandRun b fd args tr res.1 := by
  have htold : ∀ {ret : Int32}, Told ret → ret ≠ 0 → toUint8 ret ≠ 0 :=
    fun htold hne hzero => hne (htold hzero)
  obtain ⟨dummyfd, tr₁, rfl, h₁⟩ := run_perform_bind.mp h
  split at h₁
  · next hfd =>
      obtain ⟨rfl, rfl⟩ := run_ret.mp h₁
      exact .notOpened hfd
  · next hfd =>
      obtain ⟨truncated, tr₂, rfl, h₂⟩ := run_perform_bind.mp h₁
      cases truncated with
      | false =>
          rw [if_pos rfl] at h₂
          obtain ⟨_, tr₃, rfl, h₃⟩ := run_perform_bind.mp h₂
          obtain ⟨rfl, rfl⟩ := run_ret.mp h₃
          exact .notSized hfd
      | true =>
          rw [if_neg Bool.true_eq_false.mp] at h₂
          obtain ⟨tr₃, ret, tr₄, rfl, hwrite, h₃⟩ := run_bind.mp h₂
          split at h₃
          · next hret =>
              obtain ⟨rfl, rfl⟩ := run_ret.mp h₃
              exact .failed hfd (htold (told_copyImageFromFileToFpga.run hwrite) hret)
          · next hret =>
              obtain rfl := not_not.mp hret
              obtain ⟨tr₅, ret, tr₆, rfl, hread, h₄⟩ := run_bind.mp h₃
              split at h₄
              · next hret =>
                  obtain ⟨rfl, rfl⟩ := run_ret.mp h₄
                  exact .failed hfd (htold ((told_readAttempts told_zero).run hread) hret)
              · next hret =>
                  obtain rfl := not_not.mp hret
                  obtain ⟨sought, tr₇, rfl, h₅⟩ := run_perform_bind.mp h₄
                  obtain ⟨tr₈, ret, tr₉, rfl, hcopy, h₆⟩ := run_bind.mp h₅
                  split at h₆
                  · next hret =>
                      obtain ⟨rfl, rfl⟩ := run_ret.mp h₆
                      exact .failed hfd (htold (told_copyImageFromFpga.run hcopy) hret)
                  · next hret =>
                      obtain rfl := not_not.mp hret
                      obtain ⟨_, tr₁₀, rfl, h₇⟩ := run_perform_bind.mp h₆
                      obtain ⟨rfl, rfl⟩ := run_ret.mp h₇
                      exact .done hfd hwrite hread hcopy

end Read

/-! ## The exit status -/

/-- The file was opened, mapped and accepted, and its operations succeeded. -/
def UpdateSucceeded (b : Build) (fd : Int) (args : Arguments) (tr : List SysEvent) : Prop :=
  ∃ imagefd fwSize image calloc before loop, 0 ≤ imagefd
    ∧ tr = mapEvents args imagefd fwSize image calloc ++ (before ++ loop)
    ∧ (parseMapped b args image calloc).ret = 0
    ∧ OperationsSucceeded b fd image.toList 0 (operationsOf b args image calloc) loop

/-- The dummy file was created and sized, and the three transfers returned 0. -/
def ReadSucceeded (b : Build) (fd : Int) (args : Arguments) (tr : List SysEvent) : Prop :=
  ∃ dummyfd tr₁ tr₂ tr₃ sought, 0 ≤ dummyfd
    ∧ tr = ⟨.openFile "/tmp/Dummyfile" .rdwrCreat, dummyfd⟩
      :: ⟨.ftruncate dummyfd b.maxFwImageSize, true⟩ :: (tr₁ ++ (tr₂ ++ (⟨.lseek dummyfd 0, sought⟩
      :: (tr₃ ++ [⟨.close dummyfd, ()⟩]))))
    ∧ Run (copyImageFromFileToFpga b dummyfd fd b.fpgaI2cCntrlAddr) tr₁ 0
    ∧ Run (readRetimerfw b fd args.retimerBitmap) tr₂ 0
    ∧ Run (copyImageFromFpga b dummyfd fd b.fpgaI2cCntrlAddr) tr₃ 0

/-- Every step of the command selected succeeded: the arguments are good, the
I2C device was opened, and the update or the read went through. -/
def Succeeded (b : Build) (fuel : Nat) (argv : List (List UInt8)) (tr : List SysEvent) : Prop :=
  ∃ args fd part rest, checkArguments b fuel argv = some (.ok args) ∧ 0 ≤ fd
    ∧ tr = ⟨.openFile ("/dev/i2c-" ++ toString args.bus) .rdwrNonblock, fd⟩ :: (part ++ rest)
    ∧ ((args.command = retimerFwUpdate ∧ UpdateSucceeded b fd args part)
      ∨ (args.command = retimerFwRead ∧ ReadSucceeded b fd args part))

/-- How a command goes on that fails and does not tell: the image cannot be
opened, sized or mapped, or has a component header without its magic; the dummy
file cannot be created or sized. -/
inductive FailsUntold (b : Build) (args : Arguments) (tr : List SysEvent) : Prop where
  | notOpened {imagefd : Int} {rest : List SysEvent} (hcommand : args.command = retimerFwUpdate)
      (hfd : imagefd < 0)
      (htr : tr = ⟨.openFile (textOf args.imageFilename) .rdonly, imagefd⟩ :: rest)
  | noSize {imagefd : Int} {rest : List SysEvent} (hcommand : args.command = retimerFwUpdate)
      (htr : tr = ⟨.openFile (textOf args.imageFilename) .rdonly, imagefd⟩
        :: ⟨.fstat imagefd, none⟩ :: rest)
  | notMapped {imagefd : Int} {fwSize : Nat} {rest : List SysEvent}
      (hcommand : args.command = retimerFwUpdate)
      (htr : tr = ⟨.openFile (textOf args.imageFilename) .rdonly, imagefd⟩
        :: ⟨.fstat imagefd, some fwSize⟩ :: ⟨.mmap imagefd fwSize, none⟩ :: rest)
  | headerCorrupt {imagefd : Int} {fwSize : Nat} {image : Vector UInt8 fwSize} {calloc : Bool}
      {rest : List SysEvent} (hcommand : args.command = retimerFwUpdate)
      (hparse : (parseMapped b args image calloc).ret = -errorCompositeImageHeaderCorrupt)
      (htr : tr = mapEvents args imagefd fwSize image calloc ++ rest)
  | notCreated {dummyfd : Int} {rest : List SysEvent} (hcommand : args.command = retimerFwRead)
      (hfd : dummyfd < 0)
      (htr : tr = ⟨.openFile "/tmp/Dummyfile" .rdwrCreat, dummyfd⟩ :: rest)
  | notSized {dummyfd : Int} {rest : List SysEvent} (hcommand : args.command = retimerFwRead)
      (htr : tr = ⟨.openFile "/tmp/Dummyfile" .rdwrCreat, dummyfd⟩
        :: ⟨.ftruncate dummyfd b.maxFwImageSize, false⟩ :: rest)

/-- The arguments are good and the I2C device opens, and then the command
fails in one of the ways that are not told. -/
def Untold (b : Build) (fuel : Nat) (argv : List (List UInt8)) (tr : List SysEvent) : Prop :=
  ∃ args fd rest, checkArguments b fuel argv = some (.ok args) ∧ 0 ≤ fd
    ∧ tr = ⟨.openFile ("/dev/i2c-" ++ toString args.bus) .rdwrNonblock, fd⟩ :: rest
    ∧ FailsUntold b args rest

theorem checkArguments_error {b : Build} {fuel : Nat} {argv : List (List UInt8)} {code : Int32}
    (h : checkArguments b fuel argv = some (.error code)) : toUint8 code ≠ 0 := by
  have harguments : toUint8 (-errorInputArguments) ≠ 0 := by decide
  have hi2c : toUint8 (-errorInputI2cArgument) ≠ 0 := by decide
  unfold checkArguments at h
  split at h
  · cases h
    exact harguments
  · obtain ⟨i2c, -, h₁⟩ := Option.bind_eq_some_iff.mp h
    split at h₁
    · cases h₁
      exact hi2c
    · obtain ⟨retimer, -, h₂⟩ := Option.bind_eq_some_iff.mp h₁
      split at h₂
      · cases h₂
        exact hi2c
      · split at h₂
        · cases h₂
          exact harguments
        · cases h₂

section Main

variable {b : Build} {fuel : Nat} {argv : List (List UInt8)} {args : Arguments} {fd : Int}
  {rest : List SysEvent}

theorem commands_differ (h : args.command = retimerFwUpdate) : args.command ≠ retimerFwRead := by
  rw [h]
  decide

theorem untold_iff (hargs : checkArguments b fuel argv = some (.ok args)) (hfd : ¬fd < 0) :
    Untold b fuel argv (⟨.openFile ("/dev/i2c-" ++ toString args.bus) .rdwrNonblock, fd⟩ :: rest)
      ↔ FailsUntold b args rest := by
  constructor
  · rintro ⟨args', fd', rest', hargs', -, heq, h⟩
    rw [hargs] at hargs'
    cases hargs'
    obtain ⟨-, rfl⟩ := List.cons.inj heq
    exact h
  · exact fun h => ⟨args, fd, rest, hargs, Int.not_lt.mp hfd, rfl, h⟩

theorem Succeeded.mapped (hargs : checkArguments b fuel argv = some (.ok args))
    (hcommand : args.command = retimerFwUpdate)
    (h : Succeeded b fuel argv
      (⟨.openFile ("/dev/i2c-" ++ toString args.bus) .rdwrNonblock, fd⟩ :: rest)) :
    ∃ imagefd fwSize image calloc rest', 0 ≤ imagefd
      ∧ rest = mapEvents args imagefd fwSize image calloc ++ rest'
      ∧ (parseMapped b args image calloc).ret = 0 := by
  obtain ⟨args', fd', part, rest', hargs', -, heq, h⟩ := h
  rw [hargs] at hargs'
  cases hargs'
  obtain ⟨-, rfl⟩ := List.cons.inj heq
  rcases h with ⟨-, imagefd, fwSize, image, calloc, before, loop, hpos, rfl, hret, -⟩ | ⟨hread, -⟩
  · exact ⟨imagefd, fwSize, image, calloc, _, hpos, List.append_assoc _ _ _, hret⟩
  · exact absurd hread (commands_differ hcommand)

theorem Succeeded.created (hargs : checkArguments b fuel argv = some (.ok args))
    (hcommand : args.command = retimerFwRead)
    (h : Succeeded b fuel argv
      (⟨.openFile ("/dev/i2c-" ++ toString args.bus) .rdwrNonblock, fd⟩ :: rest)) :
    ∃ dummyfd rest', 0 ≤ dummyfd ∧ rest = ⟨.openFile "/tmp/Dummyfile" .rdwrCreat, dummyfd⟩
      :: ⟨.ftruncate dummyfd b.maxFwImageSize, true⟩ :: rest' := by
  obtain ⟨args', fd', part, rest', hargs', -, heq, h⟩ := h
  rw [hargs] at hargs'
  cases hargs'
  obtain ⟨-, rfl⟩ := List.cons.inj heq
  rcases h with ⟨hupdate, -⟩ | ⟨-, dummyfd, tr₁, tr₂, tr₃, sought, hpos, rfl, -⟩
  · exact absurd hcommand (commands_differ hupdate)
  · exact ⟨dummyfd, _, hpos, rfl⟩

theorem openFile_inj {path : String} {flags : OpenFlags} {x y : Int}
    (h : (⟨.openFile path flags, x⟩ : SysEvent) = ⟨.openFile path flags, y⟩) : x = y := by
  cases h
  rfl

theorem mapEvents_inj {imagefd imagefd' : Int} {fwSize fwSize' : Nat} {image : Vector UInt8 fwSize}
    {image' : Vector UInt8 fwSize'} {calloc calloc' : Bool} {rest rest' : List SysEvent}
    (h : mapEvents args imagefd fwSize image calloc ++ rest
      = mapEvents args imagefd' fwSize' image' calloc' ++ rest') :
    parseMapped b args image calloc = parseMapped b args image' calloc' := by
  simp only [mapEvents, List.cons_append, List.cons.injEq] at h
  obtain ⟨-, -, hmmap, -, hcalloc, -⟩ := h
  cases hmmap
  cases hcalloc
  rfl

/-- A command that goes on with an accepted file or a full dummy file does not
fail untold. -/
theorem failsUntold_mapped (hcommand : args.command = retimerFwUpdate) {imagefd : Int}
    {fwSize : Nat}
    {image : Vector UInt8 fwSize} {calloc : Bool} (hfd : ¬imagefd < 0) :
    FailsUntold b args (mapEvents args imagefd fwSize image calloc ++ rest)
      ↔ (parseMapped b args image calloc).ret = -errorCompositeImageHeaderCorrupt := by
  constructor
  · intro h
    cases h with
    | notOpened _ hfd' htr => exact absurd (openFile_inj (List.cons.inj htr).1 ▸ hfd') hfd
    | noSize _ htr => exact nomatch (List.cons.inj (List.cons.inj htr).2).1
    | notMapped _ htr => exact nomatch (List.cons.inj (List.cons.inj (List.cons.inj htr).2).2).1
    | headerCorrupt _ hparse htr => exact mapEvents_inj htr ▸ hparse
    | notCreated hread => exact absurd hread (commands_differ hcommand)
    | notSized hread => exact absurd hread (commands_differ hcommand)
  · exact fun h => .headerCorrupt hcommand h rfl

theorem failsUntold_created (hcommand : args.command = retimerFwRead) {dummyfd : Int}
    (hfd : ¬dummyfd < 0) : ¬FailsUntold b args (⟨.openFile "/tmp/Dummyfile" .rdwrCreat, dummyfd⟩
      :: ⟨.ftruncate dummyfd b.maxFwImageSize, true⟩ :: rest) := by
  intro h
  cases h with
  | notOpened hupdate => exact commands_differ hupdate hcommand
  | noSize hupdate => exact commands_differ hupdate hcommand
  | notMapped hupdate => exact commands_differ hupdate hcommand
  | headerCorrupt hupdate => exact commands_differ hupdate hcommand
  | notCreated _ hfd' htr => exact hfd (openFile_inj (List.cons.inj htr).1 ▸ hfd')
  | notSized _ htr => exact nomatch (List.cons.inj (List.cons.inj htr).2).1

theorem UpdateCommandRun.told_iff {tr : List SysEvent} {ret : Int32}
    (h : UpdateCommandRun b fd args tr ret) (hargs : checkArguments b fuel argv = some (.ok args))
    (hfd : ¬fd < 0) (hcommand : args.command = retimerFwUpdate) :
    (exitStatus ret = 0 → Succeeded b fuel argv
      (⟨.openFile ("/dev/i2c-" ++ toString args.bus) .rdwrNonblock, fd⟩ :: (tr ++ rest)))
      ↔ ¬FailsUntold b args (tr ++ rest) := by
  cases h with
  | notOpened hfd' hmsg =>
      refine iff_of_false (fun hsucc => ?_) (not_not.mpr (.notOpened hcommand hfd' rfl))
      obtain ⟨imagefd, fwSize, image, calloc, rest', hpos, heq, -⟩ :=
        (hsucc rfl).mapped hargs hcommand
      exact absurd (openFile_inj (List.cons.inj heq).1 ▸ hfd') (Int.not_lt.mpr hpos)
  | noSize hfd' hmsg =>
      refine iff_of_false (fun hsucc => ?_) (not_not.mpr (.noSize hcommand rfl))
      obtain ⟨imagefd, fwSize, image, calloc, rest', -, heq, -⟩ := (hsucc rfl).mapped hargs hcommand
      exact nomatch (List.cons.inj (List.cons.inj heq).2).1
  | notMapped hfd' hmsg =>
      refine iff_of_false (fun hsucc => ?_) (not_not.mpr (.notMapped hcommand rfl))
      obtain ⟨imagefd, fwSize, image, calloc, rest', -, heq, -⟩ := (hsucc rfl).mapped hargs hcommand
      exact nomatch (List.cons.inj (List.cons.inj (List.cons.inj heq).2).2).1
  | @rejected imagefd fwSize image calloc msgs hfd' hret hmsg =>
      rw [List.append_assoc, failsUntold_mapped hcommand hfd']
      have hcodes := (parse_ret b image.toList fwSize args.versionStr calloc).resolve_left hret
      rcases told_parseErrors hcodes with hcorrupt | htold
      · refine iff_of_false (fun hsucc => ?_) (not_not.mpr hcorrupt)
        have hzero : exitStatus (parseMapped b args image calloc).ret = 0 := by
          rw [hcorrupt]
          decide
        obtain ⟨imagefd', fwSize', image', calloc', rest', -, heq, hok⟩ :=
          (hsucc hzero).mapped hargs hcommand
        exact hret (mapEvents_inj heq ▸ hok)
      · refine iff_of_true (fun hzero => absurd hzero htold) fun hcorrupt => htold ?_
        rw [hcorrupt]
        decide
  | @missing imagefd fwSize image calloc msgs hfd' hret hops hcount hmsg =>
      rw [List.append_assoc, failsUntold_mapped hcommand hfd', hret]
      exact iff_of_true (fun hzero => absurd hzero (by decide)) (by decide)
  | @performed imagefd fwSize image calloc before loop final hfd' hret hbefore hloop =>
      rw [List.append_assoc, failsUntold_mapped hcommand hfd', hret]
      refine iff_of_true (fun hzero => ?_) (by decide)
      obtain ⟨hremembers, hfirst⟩ := run_updateLoop_remembers hloop remembers_initial
      obtain ⟨-, hops⟩ := hfirst (hremembers.loopRet hzero)
      refine ⟨args, fd, mapEvents args imagefd fwSize image calloc ++ (before ++ loop), rest, hargs,
        Int.not_lt.mp hfd, by simp, Or.inl ⟨hcommand, ?_⟩⟩
      exact ⟨imagefd, fwSize, image, calloc, before, loop, Int.not_lt.mp hfd', rfl, hret, hops⟩

theorem ReadCommandRun.told_iff {tr : List SysEvent} {ret : Int32}
    (h : ReadCommandRun b fd args tr ret) (hargs : checkArguments b fuel argv = some (.ok args))
    (hfd : ¬fd < 0) (hcommand : args.command = retimerFwRead) :
    (exitStatus ret = 0 → Succeeded b fuel argv
      (⟨.openFile ("/dev/i2c-" ++ toString args.bus) .rdwrNonblock, fd⟩ :: (tr ++ rest)))
      ↔ ¬FailsUntold b args (tr ++ rest) := by
  cases h with
  | notOpened hfd' =>
      refine iff_of_false (fun hsucc => ?_) (not_not.mpr (.notCreated hcommand hfd' rfl))
      obtain ⟨dummyfd', rest', hpos, heq⟩ := (hsucc rfl).created hargs hcommand
      exact absurd (openFile_inj (List.cons.inj heq).1 ▸ hfd') (Int.not_lt.mpr hpos)
  | notSized hfd' =>
      refine iff_of_false (fun hsucc => ?_) (not_not.mpr (.notSized hcommand rfl))
      obtain ⟨dummyfd, rest', -, heq⟩ := (hsucc rfl).created hargs hcommand
      exact nomatch (List.cons.inj (List.cons.inj heq).2).1
  | failed hfd' hret =>
      exact iff_of_true (fun hzero => absurd hzero hret) (failsUntold_created hcommand hfd')
  | @done dummyfd tr₁ tr₂ tr₃ sought hfd' hwrite hread hcopy =>
      refine iff_of_true (fun _ => ?_) (failsUntold_created hcommand hfd')
      refine ⟨args, fd, _, rest, hargs, Int.not_lt.mp hfd, rfl, Or.inr ⟨hcommand, ?_⟩⟩
      exact ⟨dummyfd, tr₁, tr₂, tr₃, sought, Int.not_lt.mp hfd', rfl, hwrite, hread, hcopy⟩

/-- **The exit status.** In every complete run of `main`, an exit status of 0
means that every step succeeded, unless the command fails in one of the ways
that are not told: and in each of those the status is 0. The shell sees the low
byte of the code only, so it matters that no failure has a code with a low byte
of 0 (`Told`). -/
theorem main_exitStatus_iff (b : Build) (fuel : Nat) (argv : List (List UInt8)) (tr : List SysEvent)
    (ret : Int32) (h : Run (main b fuel argv) tr (some ret)) :
    (exitStatus ret = 0 → Succeeded b fuel argv tr) ↔ ¬Untold b fuel argv tr := by
  generalize hres : some ret = res at h
  cases run_main h with
  | endless hargs => cases hres
  | badArguments hargs =>
      cases hres
      refine iff_of_true (fun hzero => absurd hzero (checkArguments_error hargs)) ?_
      rintro ⟨args', fd', rest', hargs', -⟩
      rw [hargs] at hargs'
      cases hargs'
  | noDevice hargs hfd hrest =>
      cases hres
      refine iff_of_true (fun hzero => absurd hzero (by decide)) ?_
      rintro ⟨args', fd', rest', hargs', hpos, heq, -⟩
      rw [hargs] at hargs'
      cases hargs'
      exact absurd (openFile_inj (List.cons.inj heq).1 ▸ hfd) (Int.not_lt.mpr hpos)
  | badCommand hargs hfd hupdate hread hrest =>
      cases hres
      rw [untold_iff hargs hfd]
      refine iff_of_true (fun hzero => absurd hzero (by decide)) fun huntold => ?_
      cases huntold with
      | notOpened hcommand => exact hupdate hcommand
      | noSize hcommand => exact hupdate hcommand
      | notMapped hcommand => exact hupdate hcommand
      | headerCorrupt hcommand => exact hupdate hcommand
      | notCreated hcommand => exact hread hcommand
      | notSized hcommand => exact hread hcommand
  | update hargs hfd hcommand hrun hrest =>
      cases hres
      rw [untold_iff hargs hfd]
      exact hrun.told_iff hargs hfd hcommand
  | read hargs hfd hcommand hrun hrest =>
      cases hres
      rw [untold_iff hargs hfd]
      exact (run_readCommand hrun).told_iff hargs hfd hcommand

end Main

section Small

def unopenedReply (_ : Unit) : (c : Call) → Option (Answer c × Unit)
  | .openFile _ .rdonly => some (-1, ())
  | c => (c.succeed []).map (·, ())

def unopenedRun : List SysEvent × Sys (Option Int32) × Unit :=
  play unopenedReply 20 () (main defaultBuild 10 smallArgv)

theorem run_unopenedRun : Run (main defaultBuild 10 smallArgv) unopenedRun.1 (some 0) :=
  run_play rfl

theorem main_exitStatus_iff_unopened :
    (exitStatus 0 = 0 → Succeeded defaultBuild 10 smallArgv unopenedRun.1)
      ↔ ¬Untold defaultBuild 10 smallArgv unopenedRun.1 :=
  main_exitStatus_iff defaultBuild 10 smallArgv unopenedRun.1 0 run_unopenedRun

/-- The exit status is 0 though the image was never opened. -/
theorem main_false_success :
    ¬∀ (b : Build) (fuel : Nat) (argv : List (List UInt8)) (tr : List SysEvent) (ret : Int32),
      Run (main b fuel argv) tr (some ret) → exitStatus ret = 0 → Succeeded b fuel argv tr := by
  intro h
  obtain ⟨args, fd, part, rest, hargs, hfd, heq, hsucc⟩ :=
    h defaultBuild 10 smallArgv unopenedRun.1 0 run_unopenedRun rfl
  have hsmall : checkArguments defaultBuild 10 smallArgv = some (.ok smallArguments) := rfl
  rw [hsmall] at hargs
  cases hargs
  have htr : unopenedRun.1 = ⟨.openFile "/dev/i2c-3" .rdwrNonblock, 3⟩
      :: ⟨.openFile "f" .rdonly, -1⟩ :: unopenedRun.1.drop 2 := rfl
  rw [htr] at heq
  rcases hsucc with ⟨-, imagefd, fwSize, image, calloc, before, loop, hpos, rfl, -⟩ | ⟨hread, -⟩
  · have hopen := (List.cons.inj (List.cons.inj heq).2).1
    have hsame : (-1 : Int) = imagefd := openFile_inj hopen
    omega
  · exact absurd hread (by decide)

end Small

end Retimer
