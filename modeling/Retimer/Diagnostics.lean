import Retimer.Outcomes
import Retimer.StatusCodes

/-!
# What an attempt names

The messages of one attempt of `startRetimerFwUpdate` and the retimers
they name, against the error bytes of the status word the attempt ended
with. The checks of a word share one bitmap of the retimers found so
far, so that what is logged for a byte names those of the bytes before
it as well; and a byte with all bits set is logged for a retimer 8.

`attemptTraces` cuts a run at its triggers, and `endStatus` reads the
word off a part: `attemptTraces_run` has the parts be the turns of the
retry loop and make up the whole run, `AttemptRun.endStatus` has the
word be the one that was checked. `NamesRight` is the promise, five
kinds of messages against three bytes; `Nameable` is the condition, on
the word alone.

A message is found by what it is about: `registryDevice` and
`genericDevice` take the name out of the messages of one kind, and
`Named` looks for it in a trace. What the checks of a byte name is
computed once for a message kind that is a parameter
(`named_checkStatusByte`, `NamedByByte`), and the five lemmas
`word_transferFailed`, `word_verificationFailed`, `word_writeNack`,
`word_readNack` and `word_checksum` are its instances for a whole word.
The messages of the extended error register and of failed transactions
have other texts (`IsExtended`, `statusTexts`): the first letter of a
text is enough to tell.
-/

namespace Retimer

open Interaction Interaction.Prog

/-! ## Attempts as parts of a run -/

def startsAttempt (b : Build) (ev : SysEvent) : Bool := IsTrigger b ev.1

def attemptTraces (b : Build) (tr : List SysEvent) : List (List SysEvent) :=
  parts (startsAttempt b) tr

/-- What a read of the status register of the update gave. -/
def statusAnswer (b : Build) : SysEvent → Option (Option (Vector UInt8 4))
  | ⟨.i2cRead _ slaveId writeData 4, answer⟩ =>
      if slaveId = b.fpgaI2cCntrlAddr ∧ writeData = regAddress fpgaUpdateStatusReg then
        match answer with
        | .ok w => some (some w)
        | .failed _ => some none
      else none
  | _ => none

def endStatus (b : Build) (seg : List SysEvent) : Option (Vector UInt8 4) :=
  (seg.filterMap (statusAnswer b)).getLast?.join

/-! ## Names -/

/-- `name` is in a message of the kind that `device` takes names from. -/
def Named (tr : List SysEvent) (device : LogMessage → Option String) (name : String) : Prop :=
  ∃ m, Logged tr m ∧ device m = some name

/-- The device of a message of `prepareMessageRegistry` (version first). -/
def registryDevice (message : String) (m : LogMessage) : Option String :=
  if m.message = message then some m.arg1 else none

def genericDevice (texts : List String) (m : LogMessage) : Option String :=
  if m.message = resourceErrorsDetected ∧ m.arg1 ∈ texts then some m.arg0 else none

def writeNackTexts : List String := ["Write Nack Error", "Write Nack ERROR"]
def readNackTexts : List String := ["Read NACK Error"]
def checksumTexts : List String := ["CheckSum mismatch"]

/-- `name` is the device of a retimer in the bitmap. -/
def DeviceIn (bitmap : UInt8) (name : String) : Prop := ∃ r, Has bitmap r ∧ retimerName r = name

/-- The messages of an attempt name the retimers in the error bytes of `w`.
There are two kinds of them. Of those of the message registry, `TransferFailed`
stands for the write NACKs and `VerificationFailed` for the other two bytes; the
generic ones tell the three errors apart by their texts. -/
structure NamesRight (seg : List SysEvent) (w : Vector UInt8 4) : Prop where
  transferFailed : ∀ name,
    Named seg (registryDevice "TransferFailed") name ↔ DeviceIn (statusWriteNack w) name
  verificationFailed : ∀ name, Named seg (registryDevice "VerificationFailed") name
    ↔ DeviceIn (statusReadNack w ||| statusChecksum w) name
  writeNack : ∀ name,
    Named seg (genericDevice writeNackTexts) name ↔ DeviceIn (statusWriteNack w) name
  readNack : ∀ name,
    Named seg (genericDevice readNackTexts) name ↔ DeviceIn (statusReadNack w) name
  checksum : ∀ name,
    Named seg (genericDevice checksumTexts) name ↔ DeviceIn (statusChecksum w) name

/-- No byte has all its bits set, and a retimer with a write NACK has another
error as well, or no retimer has one: the two ways in which the shared bitmap
and the loop over nine bits go wrong are then without effect. -/
structure Nameable (w : Vector UInt8 4) : Prop where
  writeNack : statusWriteNack w ≠ 0xFF
  readNack : statusReadNack w ≠ 0xFF
  checksum : statusChecksum w ≠ 0xFF
  carried : statusReadNack w ||| statusChecksum w = 0
    ∨ ∀ r, Has (statusWriteNack w) r → Has (statusReadNack w ||| statusChecksum w) r

section Named

variable {tr tr' : List SysEvent} {device : LogMessage → Option String} {name : String}

theorem named_append :
    Named (tr ++ tr') device name ↔ Named tr device name ∨ Named tr' device name :=
  exists_logged_append

theorem not_named_nil : ¬Named [] device name := fun ⟨_, hlog, _⟩ => not_logged_nil hlog

theorem not_named_of {P : Call → Prop} (hP : ∀ m, P (.emitLogMessage m) → device m = none)
    (h : ∀ ev ∈ tr, P ev.1) : ¬Named tr device name := by
  rintro ⟨m, hlog, hname⟩
  rw [hP m (h _ hlog)] at hname
  cases hname

theorem deviceIn_zero : ¬DeviceIn 0 name := fun ⟨_, hset, _⟩ => not_has_zero hset

theorem deviceIn_or {x y : UInt8} :
    DeviceIn (x ||| y) name ↔ DeviceIn x name ∨ DeviceIn y name := by
  simp only [DeviceIn, has_or, or_and_right, exists_or]

theorem deviceIn_retimerName {x : UInt8} {r : Nat} : DeviceIn x (retimerName r) ↔ Has x r := by
  constructor
  · rintro ⟨r', hset, hname⟩
    exact retimerName_injective hname ▸ hset
  · exact fun hset => ⟨r, hset, rfl⟩

end Named

/-! ## The messages of a status word -/

/-- The generic message of a check for retimer `r`. -/
def errorMessage (text resolution : String) (r : Nat) : LogMessage :=
  ⟨resourceErrorsDetected, retimerName r, text, critical, some resolution, true⟩

/-- The message after a check, for retimer `r`. -/
def failureMessage (message : String) (versionStr : List UInt8) (r : Nat) : LogMessage :=
  registryMessage message (textOf versionStr) msgRegVerFollowedByDev critical
    (some "Reach out to the NVIDIA support team for further action") false r

/-- What the scan of a byte says of `name`. With all eight bits set there is one
message, for the number 8, and no retimer is called that. -/
def NamedByScan (device : LogMessage → Option String)
    (allRetimers oneRetimer resolution : String) (status : UInt8) (name : String) : Prop :=
  if status = 0xFF then device (errorMessage allRetimers resolution 8) = some name
  else ∃ r, Has status r ∧ device (errorMessage oneRetimer resolution r) = some name

/-- What the messages after the scan say of `name`. -/
def NamedByBatch (device : LogMessage → Option String) (message : String)
    (versionStr : List UInt8) (found : UInt8) (name : String) : Prop :=
  ∃ r, Has found r ∧ device (failureMessage message versionStr r) = some name

section Messages

variable {device : LogMessage → Option String} {name : String} {tr : List SysEvent}
  {status retimer : UInt8} {allRetimers oneRetimer resolution message : String}
  {versionStr : List UInt8}

theorem named_emit {m : LogMessage} :
    Named [⟨.emitLogMessage m, ()⟩] device name ↔ device m = some name := by
  simp [Named, logged_singleton]

theorem named_statusErrorLoop_low {n : Nat} (hn : n ≤ 8) {res : UInt8}
    (h : Run (statusErrorLoop status allRetimers oneRetimer resolution n retimer) tr res) :
    Named tr device name
      ↔ ∃ r < n, Has status r ∧ device (errorMessage oneRetimer resolution r) = some name := by
  induction n generalizing retimer tr with
  | zero =>
      obtain ⟨rfl, -⟩ := run_ret.mp h
      exact iff_of_false not_named_nil fun ⟨r, hr, _⟩ => absurd hr (Nat.not_lt_zero r)
  | succ i ih =>
      have hi : i < 8 := hn
      rw [statusErrorLoop, if_neg (fun h => absurd h.1 (Nat.ne_of_lt hi))] at h
      simp only [Nat.lt_succ_iff_lt_or_eq, or_and_right, exists_or, exists_eq_left]
      split at h
      · next hbit =>
          have hset := (masked_shift hi).mp hbit
          obtain ⟨tr₁, _, tr₂, rfl, hemit, hrest⟩ := run_bind.mp h
          obtain rfl := run_perform.mp hemit
          rw [named_append, named_emit, ih (Nat.le_of_lt hi) hrest, and_iff_right hset]
          exact or_comm
      · next hbit =>
          have hclear := mt (masked_shift hi).mpr hbit
          rw [ih (Nat.le_of_lt hi) h]
          exact (or_iff_left fun hlast => hclear hlast.1).symm

theorem named_statusErrorLoop {res : UInt8}
    (h : Run (statusErrorLoop status allRetimers oneRetimer resolution 9 retimer) tr res) :
    Named tr device name ↔ NamedByScan device allRetimers oneRetimer resolution status name := by
  rw [statusErrorLoop] at h
  simp only [masked_all, true_and] at h
  unfold NamedByScan
  split at h
  · next hall =>
      obtain ⟨tr₁, _, tr₂, rfl, hemit, h₁⟩ := run_bind.mp h
      obtain ⟨rfl, -⟩ := run_ret.mp h₁
      obtain rfl := run_perform.mp hemit
      rw [if_pos hall, List.append_nil]
      exact named_emit
  · next hall =>
      rw [if_neg (not_shift_all status)] at h
      rw [if_neg hall, named_statusErrorLoop_low (Nat.le_refl 8) h]
      exact exists_congr fun r => ⟨And.right, fun hset => ⟨hset.1.lt, hset⟩⟩

theorem named_checkStatusByte {error : Int32} {retry : UInt8} {res : Int32 × UInt8}
    (h : Run (checkStatusByte (checkStatusError error allRetimers oneRetimer resolution) message
      versionStr status retry) tr res) :
    Named tr device name ↔ status ≠ 0
      ∧ (NamedByScan device allRetimers oneRetimer resolution status name
        ∨ NamedByBatch device message versionStr (retry ||| status) name) := by
  cases run_checkStatusByte h with
  | clear hzero => exact iff_of_false not_named_nil fun hnamed => hnamed.1 hzero
  | checked hne hloop hbatch =>
      rw [named_append, named_statusErrorLoop hloop, and_iff_right hne]
      refine or_congr_right ?_
      simp only [Named, logged_prepareMessageRegistry hbatch]
      constructor
      · rintro ⟨m, ⟨r, hset, rfl⟩, hname⟩
        exact ⟨r, hset, hname⟩
      · rintro ⟨r, hset, hname⟩
        exact ⟨_, ⟨r, hset, rfl⟩, hname⟩

/-- What the check of one byte says of `name`. -/
def NamedByByte (device : LogMessage → Option String)
    (allRetimers oneRetimer resolution message : String) (versionStr : List UInt8)
    (status found : UInt8) (name : String) : Prop :=
  status ≠ 0 ∧ (NamedByScan device allRetimers oneRetimer resolution status name
    ∨ NamedByBatch device message versionStr found name)

theorem named_checkStatusWord {w : Vector UInt8 4} {res : Int32 × UInt8}
    (h : Run (checkStatusWord versionStr w) tr res) :
    Named tr device name ↔
      NamedByByte device "Write Nack Error" "Write Nack ERROR"
          "Perform Power Cycle of HGX baseboard and retry the firmware update" "TransferFailed"
          versionStr (statusWriteNack w) (statusWriteNack w) name
        ∨ NamedByByte device "Read NACK Error" "Read NACK Error"
          "Perform Power Cycle of HGX baseboard and retry the firmware update" "VerificationFailed"
          versionStr (statusReadNack w) (statusWriteNack w ||| statusReadNack w) name
        ∨ NamedByByte device "CheckSum mismatch" "CheckSum mismatch" "Retry the Retimer FW update"
          "VerificationFailed" versionStr (statusChecksum w) (flagged w) name := by
  obtain ⟨tr₁, res₁, _, rfl, hwrite, h₁⟩ := run_bind.mp h
  obtain rfl := run_checkStatusByte_code hwrite
  obtain ⟨tr₂, res₂, _, rfl, hread, h₂⟩ := run_bind.mp h₁
  obtain rfl := run_checkStatusByte_code hread
  obtain ⟨tr₃, res₃, _, rfl, hsum, h₃⟩ := run_bind.mp h₂
  obtain ⟨rfl, -⟩ := run_ret.mp h₃
  rw [List.append_nil, named_append, named_append, named_checkStatusByte hwrite,
    named_checkStatusByte hread, named_checkStatusByte hsum, UInt8.zero_or]
  exact Iff.rfl

end Messages

/-! ## The five kinds of names -/

section Kinds

variable {tr : List SysEvent} {name message text resolution : String} {texts : List String}
  {versionStr : List UInt8} {r : Nat}

theorem registryDevice_error (hmessage : message ≠ resourceErrorsDetected) :
    registryDevice message (errorMessage text resolution r) = none :=
  if_neg (Ne.symm hmessage)

theorem registryDevice_failure {message' : String} :
    registryDevice message (failureMessage message' versionStr r)
      = if message' = message then some (retimerName r) else none := rfl

theorem genericDevice_error : genericDevice texts (errorMessage text resolution r)
    = if text ∈ texts then some (retimerName r) else none := by
  simp [genericDevice, errorMessage]

theorem genericDevice_failure (hmessage : message ≠ resourceErrorsDetected) :
    genericDevice texts (failureMessage message versionStr r) = none :=
  if_neg fun h => hmessage h.1

variable {allRetimers oneRetimer : String} {status found : UInt8}

/-- A byte names, in its batch, the retimers found so far. -/
theorem namedByByte_registry {message' : String} (hmessage : message ≠ resourceErrorsDetected) :
    NamedByByte (registryDevice message) allRetimers oneRetimer resolution message' versionStr
      status found name ↔ message' = message ∧ status ≠ 0 ∧ DeviceIn found name := by
  have hscan : ¬NamedByScan (registryDevice message) allRetimers oneRetimer resolution status
      name := by
    unfold NamedByScan
    simp only [registryDevice_error hmessage]
    split <;> simp
  rw [NamedByByte, or_iff_right hscan, NamedByBatch]
  simp only [registryDevice_failure]
  by_cases hsame : message' = message
  · simp [hsame, DeviceIn]
  · simp [hsame]

/-- A byte names, one by one, the retimers in it; all of them are number 8. -/
theorem namedByByte_generic (hmessage : message ≠ resourceErrorsDetected)
    (hall : allRetimers ∈ texts) (hone : oneRetimer ∈ texts) :
    NamedByByte (genericDevice texts) allRetimers oneRetimer resolution message versionStr status
      found name ↔ if status = 0xFF then retimerName 8 = name else DeviceIn status name := by
  have hbatch : ¬NamedByBatch (genericDevice texts) message versionStr found name := by
    rintro ⟨r, -, hname⟩
    rw [genericDevice_failure hmessage] at hname
    cases hname
  rw [NamedByByte, or_iff_left hbatch, NamedByScan]
  simp only [genericDevice_error, if_pos hall, if_pos hone, Option.some.injEq]
  split
  · next hfull =>
      rw [hfull]
      exact and_iff_right (by decide)
  · refine and_iff_right_of_imp ?_
    rintro ⟨r, hset, -⟩ rfl
    exact not_has_zero hset

theorem not_namedByByte_generic (hmessage : message ≠ resourceErrorsDetected)
    (hall : allRetimers ∉ texts) (hone : oneRetimer ∉ texts) :
    ¬NamedByByte (genericDevice texts) allRetimers oneRetimer resolution message versionStr status
      found name := by
  rintro ⟨-, hscan | ⟨r, -, hname⟩⟩
  · unfold NamedByScan at hscan
    simp [genericDevice_error, hall, hone] at hscan
  · rw [genericDevice_failure hmessage] at hname
    cases hname

/-- A scan names the retimers of its byte unless all of them are there: a
message for the number 8 names none of them. -/
theorem scan_right : (∀ name, (if status = 0xFF then retimerName 8 = name else DeviceIn status name)
    ↔ DeviceIn status name) ↔ status ≠ 0xFF := by
  constructor
  · intro hright hfull
    have height := (hright (retimerName 8)).mp (by rw [if_pos hfull])
    exact absurd (deviceIn_retimerName.mp height).lt (Nat.lt_irrefl 8)
  · intro hne name
    rw [if_neg hne]

/-- The batches of the last two bytes name the retimers of the first as well,
since the bitmap is handed on from check to check. That is right if the last two
bytes are 0, because no batch is sent then, or if they have those retimers too. -/
theorem batches_right {write read checksum : UInt8} :
    (∀ name, (read ≠ 0 ∧ DeviceIn (write ||| read) name
        ∨ checksum ≠ 0 ∧ DeviceIn (write ||| read ||| checksum) name)
      ↔ DeviceIn (read ||| checksum) name)
      ↔ read ||| checksum = 0 ∨ ∀ r, Has write r → Has (read ||| checksum) r := by
  by_cases hzero : read ||| checksum = 0
  · obtain ⟨rfl, rfl⟩ := or_eq_zero.mp hzero
    refine iff_of_true (fun name => ?_) (Or.inl hzero)
    rw [UInt8.or_zero]
    exact iff_of_false (fun h => h.elim (fun h => h.1 rfl) fun h => h.1 rfl) deviceIn_zero
  · -- the last batch made names all that were found
    have hbatch : ∀ name, (read ≠ 0 ∧ DeviceIn (write ||| read) name
        ∨ checksum ≠ 0 ∧ DeviceIn (write ||| read ||| checksum) name)
        ↔ DeviceIn write name ∨ DeviceIn (read ||| checksum) name := by
      intro name
      rw [← deviceIn_or, ← UInt8.or_assoc]
      by_cases hsum : checksum = 0
      · subst hsum
        rw [UInt8.or_zero] at hzero
        simp [hzero]
      · rw [and_iff_right hsum]
        exact or_iff_right_of_imp fun h => deviceIn_or.mpr (Or.inl h.2)
    simp only [hbatch, or_iff_right hzero]
    constructor
    · intro hright r hset
      exact deviceIn_retimerName.mp ((hright _).mp (Or.inl (deviceIn_retimerName.mpr hset)))
    · rintro hcarried name
      refine or_iff_right_of_imp ?_
      rintro ⟨r, hset, hname⟩
      exact ⟨r, hcarried r hset, hname⟩

end Kinds

/-! ## The extended error register -/

/-- The texts that name the three errors of a status word. -/
def statusTexts : List String := writeNackTexts ++ readNackTexts ++ checksumTexts

/-- What reading the extended error register takes. Its messages are none of
those of a status word. -/
def IsExtended : Call → Prop
  | .openFile _ _ | .close _ => True
  | .i2cRead _ _ writeData _ => writeData = [0x0, 0x1]
  | .emitLogMessage m => m.message = resourceErrorsDetected ∧ m.arg1 ∉ statusTexts
  | _ => False

theorem only_extended {arg0 arg1 : String} {resolution : Option String} (h : arg1 ∉ statusTexts) :
    Only IsExtended (genericMessageRegistry resourceErrorsDetected arg0 arg1 critical
      resolution) :=
  only_perform.mpr ⟨rfl, h⟩

/-- The first letter tells a text from those of a status word. -/
theorem not_mem_statusTexts {text : String} {c : Char} (htext : text.toList.head? = some c)
    (hc : c ∉ ['W', 'R', 'C']) : text ∉ statusTexts := by
  intro hmem
  have hhead : text.toList.head? ∈ statusTexts.map fun text => text.toList.head? :=
    List.mem_map_of_mem hmem
  rw [htext] at hhead
  simp [statusTexts, writeNackTexts, readNackTexts, checksumTexts] at hhead hc
  grind

theorem head_inBuf {b : Build} {text : String} {c : Char} (h : text.toList.head? = some c) :
    (inBuf b text).toList.head? = some c := by
  unfold inBuf
  split
  · exact h
  · rw [String.toList_append, String.toList_ofList, List.head?_append, List.head?_take,
      if_neg (by decide), h]
    rfl

theorem inBuf_not_mem {b : Build} {text rest : String} {c : Char}
    (htext : text.toList.head? = some c) (hc : c ∉ ['W', 'R', 'C']) :
    inBuf b (text ++ rest) ∉ statusTexts := by
  refine not_mem_statusTexts (head_inBuf ?_) hc
  rw [String.toList_append, List.head?_append, htext]
  rfl

theorem maperrno_not_mem {b : Build} {errno : Int32} {slaveId : UInt8} :
    (maperrnoToI2CError b errno slaveId).1 ∉ statusTexts := by
  unfold maperrnoToI2CError
  dsimp only
  split_ifs
  all_goals dsimp only
  · exact inBuf_not_mem (c := 'S') rfl (by decide)
  · exact inBuf_not_mem (c := 'A') rfl (by decide)
  · exact inBuf_not_mem (c := 'S') rfl (by decide)
  · exact inBuf_not_mem (c := 'A') rfl (by decide)
  · exact inBuf_not_mem (c := 'B') rfl (by decide)
  · rw [String.append_assoc]
    exact inBuf_not_mem (c := 'E') rfl (by decide)

theorem errorCodeMapTable_not_mem : ∀ row ∈ errorCodeMapTable, row.2 ∉ statusTexts := by
  decide

theorem parseExI2CErrorCode_not_mem (errorCode : UInt8) :
    parseExI2CErrorCode errorCode ∉ statusTexts := by
  unfold parseExI2CErrorCode
  cases hlookup : errorCodeMapTable.lookup errorCode with
  | none => exact not_mem_statusTexts (c := 'U') rfl (by decide)
  | some text =>
      obtain ⟨before, after, htable, -⟩ := List.lookup_eq_some_iff.mp hlookup
      exact errorCodeMapTable_not_mem (errorCode, text) (htable ▸ by simp)

theorem muxSelName_not_mem (retimerEEPROMmuxSel : UInt8) :
    muxSelName retimerEEPROMmuxSel ∉ statusTexts := by
  unfold muxSelName
  split_ifs <;> decide

section Extended

variable {b : Build}

theorem extended_extendedErrorLoop {dump : List UInt8} {count index : Nat} :
    Only IsExtended (extendedErrorLoop dump count index) := by
  induction count generalizing index with
  | zero => trivial
  | succ count ih =>
      unfold extendedErrorLoop
      exact Only.ite ((only_extended (parseExI2CErrorCode_not_mem _)).bind fun _ => ih) ih

theorem extended_sendI2cCmdRead {fd : Int} {slaveId : UInt8} {n : Nat} :
    Only IsExtended (sendI2cCmdRead b fd slaveId [0x0, 0x1] n) := by
  have hread : IsExtended (.i2cRead fd slaveId [0x0, 0x1] n) := rfl
  refine (only_perform.mpr hread).bind fun answer => ?_
  cases answer with
  | ok readData => trivial
  | failed errno =>
      refine Only.bind ?_ fun _ => trivial
      exact Only.bind (only_extended maperrno_not_mem) fun _ => trivial

theorem extended_checkExtenedErrorReg : Only IsExtended (checkExtenedErrorReg b) := by
  unfold checkExtenedErrorReg
  refine (only_perform.mpr trivial).bind fun exfd => Only.ite trivial ?_
  refine extended_sendI2cCmdRead.bind fun _ => ?_
  refine Only.ite ((only_perform.mpr trivial).bind fun _ => trivial) ?_
  refine extended_extendedErrorLoop.bind fun _ => ?_
  refine Only.bind ((only_extended (by decide)).ite trivial) fun _ => ?_
  refine Only.bind ((only_extended (muxSelName_not_mem _)).ite trivial) fun _ => ?_
  exact (only_perform.mpr trivial).bind fun _ => trivial

theorem statusAnswer_extended {ev : SysEvent} (h : IsExtended ev.1) : statusAnswer b ev = none := by
  obtain ⟨c, r⟩ := ev
  cases c with
  | i2cRead fd slaveId writeData n =>
      obtain rfl : writeData = [0x0, 0x1] := h
      have hne : ¬(slaveId = b.fpgaI2cCntrlAddr
          ∧ ([0x0, 0x1] : List UInt8) = regAddress fpgaUpdateStatusReg) :=
        fun heq => absurd heq.2 (by decide)
      unfold statusAnswer
      split
      · next heq =>
          cases heq
          exact if_neg hne
      · rfl
  | _ => rfl

theorem not_named_extended {tr : List SysEvent} {device : LogMessage → Option String}
    {name : String} (hdevice : ∀ m, m.message = resourceErrorsDetected → m.arg1 ∉ statusTexts →
      device m = none) (h : ∀ ev ∈ tr, IsExtended ev.1) : ¬Named tr device name :=
  not_named_of (fun m hm => hdevice m hm.1 hm.2) h

end Extended

/-! ## One attempt -/

section Attempt

variable {b : Build} {fd : Int} {versionStr : List UInt8} {bitmap : UInt8} {seg : List SysEvent}
  {ending : AttemptEnd}

theorem startsAttempt_trigger {answer : I2cResult 0} :
    startsAttempt b ⟨triggerCall b fd bitmap, answer⟩ = true :=
  decide_eq_true ⟨rfl, addressOf_updateStatus _⟩

theorem markOf_of_trigger {ev : SysEvent} (h : IsTrigger b ev.1) :
    ∃ m, markOf b ev = some m ∧ m.isFirst = true := by
  obtain ⟨c, r⟩ := ev
  cases c with
  | i2cWrite fd slaveId writeData => exact ⟨_, if_pos h, rfl⟩
  | _ => exact h.elim

/-- A turn starts with its trigger, and has no other. -/
theorem AttemptRun.head (h : AttemptRun b fd versionStr bitmap seg ending) :
    ∃ ev tail, seg = ev :: tail ∧ startsAttempt b ev = true
      ∧ ∀ ev' ∈ tail, startsAttempt b ev' = false := by
  obtain ⟨a, hmarks, -, -⟩ := h.attempt
  obtain ⟨answer, tail, rfl⟩ : ∃ answer tail,
      seg = (⟨triggerCall b fd bitmap, answer⟩ : SysEvent) :: tail := by
    cases h with
    | unsent hmsgs => exact ⟨_, _, rfl⟩
    | lost hmsgs => exact ⟨_, _, rfl⟩
    | clear hlast hclear => exact ⟨_, _, rfl⟩
    | checked hlast hclear hcheck hext => exact ⟨_, _, rfl⟩
  refine ⟨_, tail, rfl, startsAttempt_trigger, fun ev' hev' => ?_⟩
  rw [marks_cons, markOf_trigger] at hmarks
  have htail : marks b tail = a.marks.tail := (List.cons.inj hmarks).2
  refine decide_eq_false fun htrigger => ?_
  obtain ⟨m, hm, hfirst⟩ := markOf_of_trigger htrigger
  have hrest := a.not_isFirst m (htail ▸ List.mem_filterMap.mpr ⟨ev', hev', hm⟩)
  rw [hfirst] at hrest
  cases hrest

theorem head_startsAttempt {n : Nat} {ret : Int32} {retimerNotUpdated : UInt8}
    {tr : List SysEvent} {res : Int32 × UInt8}
    (h : Run (updateAttempts b fd versionStr n bitmap ret retimerNotUpdated) tr res) :
    ∀ ev ∈ tr.head?, startsAttempt b ev = true := by
  intro ev hev
  cases n with
  | zero =>
      obtain ⟨rfl, -⟩ := run_ret.mp h
      cases hev
  | succ n =>
      obtain ⟨seg, rest, ending, rfl, hturn, -⟩ := run_updateAttempts_turn h
      obtain ⟨ev', tail, rfl, hstarts, -⟩ := hturn.head
      obtain rfl := Option.some.inj hev
      exact hstarts

/-- The parts of a run are the turns of the loop, and make up all of it. -/
theorem attemptTraces_run {n : Nat} {ret : Int32} {retimerNotUpdated : UInt8}
    {tr : List SysEvent} {res : Int32 × UInt8}
    (h : Run (updateAttempts b fd versionStr n bitmap ret retimerNotUpdated) tr res) :
    (attemptTraces b tr).flatten = tr
      ∧ ∀ seg ∈ attemptTraces b tr, ∃ bitmap ending,
        AttemptRun b fd versionStr bitmap seg ending := by
  induction n generalizing bitmap ret retimerNotUpdated tr with
  | zero =>
      obtain ⟨rfl, -⟩ := run_ret.mp h
      exact ⟨rfl, fun seg hseg => absurd hseg List.not_mem_nil⟩
  | succ n ih =>
      obtain ⟨seg, rest, ending, rfl, hturn, hgoes⟩ := run_updateAttempts_turn h
      obtain ⟨ev, tail, rfl, hstarts, htail⟩ := hturn.head
      obtain ⟨hhead, hflat, hrest⟩ : (∀ ev ∈ rest.head?, startsAttempt b ev = true)
          ∧ (attemptTraces b rest).flatten = rest
          ∧ ∀ seg ∈ attemptTraces b rest, ∃ bitmap ending,
            AttemptRun b fd versionStr bitmap seg ending := by
        cases ending with
        | failed ret' =>
            obtain ⟨rfl, -⟩ := hgoes
            exact ⟨fun ev hev => (by cases hev), rfl, fun seg hseg => absurd hseg List.not_mem_nil⟩
        | clear =>
            obtain ⟨rfl, -⟩ := hgoes
            exact ⟨fun ev hev => (by cases hev), rfl, fun seg hseg => absurd hseg List.not_mem_nil⟩
        | retry bitmap' code => exact ⟨head_startsAttempt hgoes, ih hgoes⟩
      have hcons : attemptTraces b (ev :: tail ++ rest) = (ev :: tail) :: attemptTraces b rest :=
        parts_cons hstarts htail hhead
      rw [hcons]
      refine ⟨by rw [List.flatten_cons, hflat], List.forall_mem_cons.mpr ⟨⟨_, _, hturn⟩, hrest⟩⟩

/-! ### The status word of a turn -/

theorem statusAnswer_messages {tr : List SysEvent} (h : ∀ ev ∈ tr, IsMessage ev.1) :
    tr.filterMap (statusAnswer b) = [] := by
  refine List.filterMap_eq_nil_iff.mpr fun ev hev => ?_
  have hmsg := h ev hev
  obtain ⟨c, r⟩ := ev
  cases c with
  | emitLogMessage m => rfl
  | _ => exact hmsg.elim

theorem statusAnswer_words (words : List (Vector UInt8 4)) :
    (words.map (statusRead b fd fpgaUpdateStatusReg)).filterMap (statusAnswer b)
      = words.map some :=
  filterMap_statusReads (fun _ => if_pos ⟨rfl, rfl⟩) words

theorem statusAnswer_lost {errno : Int32} :
    statusAnswer b (lostRead b fd errno) = some none :=
  if_pos ⟨rfl, rfl⟩

/-- What an attempt with a status word is. -/
theorem AttemptRun.endStatus (h : AttemptRun b fd versionStr bitmap seg ending)
    {w : Vector UInt8 4} (hend : endStatus b seg = some w) :
    (Clear w ∧ ∀ device name, ¬Named seg device name)
      ∨ ∃ check res, Run (checkStatusWord versionStr w) check res
        ∧ ∀ device name, (∀ m, m.message = resourceErrorsDetected → m.arg1 ∉ statusTexts →
          device m = none) → (Named seg device name ↔ Named check device name) := by
  have htrigger : ∀ answer, statusAnswer b ⟨triggerCall b fd bitmap, answer⟩ = none :=
    fun _ => rfl
  have hquiet : ∀ (r : Vector UInt8 0) (words : List (Vector UInt8 4)) device name,
      ¬Named (⟨triggerCall b fd bitmap, .ok r⟩
        :: words.map (statusRead b fd fpgaUpdateStatusReg)) device name := by
    rintro r words device name ⟨m, hlog, -⟩
    rcases List.mem_cons.mp hlog with heq | hlog
    · cases heq
    · obtain ⟨w', -, heq⟩ := List.mem_map.mp hlog
      cases heq
  unfold Retimer.endStatus at hend
  cases h with
  | unsent hmsgs =>
      rw [List.filterMap_cons_none (htrigger _), statusAnswer_messages hmsgs] at hend
      cases hend
  | lost hmsgs =>
      rw [List.filterMap_cons_none (htrigger _), List.filterMap_append, statusAnswer_words,
        List.filterMap_cons_some statusAnswer_lost, statusAnswer_messages hmsgs,
        List.getLast?_concat] at hend
      cases hend
  | @clear r words w' hlast hclear =>
      rw [List.filterMap_cons_none (htrigger _), statusAnswer_words, List.getLast?_map, hlast]
        at hend
      obtain rfl : w' = w := Option.some.inj hend
      exact Or.inl ⟨hclear, hquiet r words⟩
  | @checked r words w' check ext code extended retry hlast hclear hcheck hext =>
      have hextended := extended_checkExtenedErrorReg.run hext
      have hnone : ext.filterMap (statusAnswer b) = [] :=
        List.filterMap_eq_nil_iff.mpr fun ev hev => statusAnswer_extended (hextended ev hev)
      rw [List.filterMap_cons_none (htrigger _), List.filterMap_append, statusAnswer_words,
        List.filterMap_append, hnone,
        statusAnswer_messages fun ev hev => (only_checkStatusWord.run hcheck ev hev).isMessage,
        List.append_nil, List.append_nil, List.getLast?_map, hlast] at hend
      obtain rfl : w' = w := Option.some.inj hend
      refine Or.inr ⟨check, _, hcheck, fun device name hdevice => ?_⟩
      rw [← List.cons_append, named_append, named_append, or_iff_right (hquiet r words device name),
        or_iff_left (not_named_extended hdevice hextended)]

theorem registryDevice_extended {message : String} (hmessage : message ≠ resourceErrorsDetected)
    (m : LogMessage) (hm : m.message = resourceErrorsDetected) :
    registryDevice message m = none :=
  if_neg fun heq => hmessage (heq.symm.trans hm)

theorem genericDevice_extended {texts : List String} (htexts : ∀ text ∈ texts, text ∈ statusTexts)
    (m : LogMessage) (hm : m.arg1 ∉ statusTexts) : genericDevice texts m = none :=
  if_neg fun h => hm (htexts _ h.2)

theorem and_deviceIn {x : UInt8} {name : String} : x ≠ 0 ∧ DeviceIn x name ↔ DeviceIn x name := by
  refine and_iff_right_of_imp ?_
  rintro ⟨r, hset, -⟩ rfl
  exact not_has_zero hset

section Word

variable {w : Vector UInt8 4} {check : List SysEvent} {res : Int32 × UInt8} {name : String}

theorem word_transferFailed (hcheck : Run (checkStatusWord versionStr w) check res) :
    Named check (registryDevice "TransferFailed") name ↔ DeviceIn (statusWriteNack w) name := by
  rw [named_checkStatusWord hcheck, namedByByte_registry (by decide),
    namedByByte_registry (by decide), namedByByte_registry (by decide)]
  simp only [String.reduceEq, true_and, false_and, or_false, and_deviceIn]

/-- The batch of the last byte has the retimers of all three. -/
theorem word_verificationFailed (hcheck : Run (checkStatusWord versionStr w) check res) :
    Named check (registryDevice "VerificationFailed") name
      ↔ statusReadNack w ≠ 0 ∧ DeviceIn (statusWriteNack w ||| statusReadNack w) name
        ∨ statusChecksum w ≠ 0
          ∧ DeviceIn (statusWriteNack w ||| statusReadNack w ||| statusChecksum w) name := by
  rw [named_checkStatusWord hcheck, namedByByte_registry (by decide),
    namedByByte_registry (by decide), namedByByte_registry (by decide), flagged_eq]
  simp only [String.reduceEq, true_and, false_and, false_or]

theorem word_writeNack (hcheck : Run (checkStatusWord versionStr w) check res) :
    Named check (genericDevice writeNackTexts) name
      ↔ if statusWriteNack w = 0xFF then retimerName 8 = name
        else DeviceIn (statusWriteNack w) name := by
  rw [named_checkStatusWord hcheck, namedByByte_generic (by decide) (by decide) (by decide),
    or_iff_left (not_or.mpr ⟨not_namedByByte_generic (by decide) (by decide) (by decide),
      not_namedByByte_generic (by decide) (by decide) (by decide)⟩)]

theorem word_readNack (hcheck : Run (checkStatusWord versionStr w) check res) :
    Named check (genericDevice readNackTexts) name
      ↔ if statusReadNack w = 0xFF then retimerName 8 = name
        else DeviceIn (statusReadNack w) name := by
  rw [named_checkStatusWord hcheck,
    or_iff_right (not_namedByByte_generic (by decide) (by decide) (by decide)),
    or_iff_left (not_namedByByte_generic (by decide) (by decide) (by decide)),
    namedByByte_generic (by decide) (by decide) (by decide)]

theorem word_checksum (hcheck : Run (checkStatusWord versionStr w) check res) :
    Named check (genericDevice checksumTexts) name
      ↔ if statusChecksum w = 0xFF then retimerName 8 = name
        else DeviceIn (statusChecksum w) name := by
  rw [named_checkStatusWord hcheck,
    or_iff_right (not_namedByByte_generic (by decide) (by decide) (by decide)),
    or_iff_right (not_namedByByte_generic (by decide) (by decide) (by decide)),
    namedByByte_generic (by decide) (by decide) (by decide)]

end Word

/-- The names in the messages of a status word are right just when it is
`Nameable`. -/
theorem namesRight_checked {w : Vector UInt8 4} {check : List SysEvent} {res : Int32 × UInt8}
    (hcheck : Run (checkStatusWord versionStr w) check res)
    (hseg : ∀ device name, (∀ m, m.message = resourceErrorsDetected → m.arg1 ∉ statusTexts →
      device m = none) → (Named seg device name ↔ Named check device name)) :
    NamesRight seg w ↔ Nameable w := by
  have hregistry : ∀ message, message ≠ resourceErrorsDetected → ∀ name,
      (Named seg (registryDevice message) name ↔ Named check (registryDevice message) name) :=
    fun _ hmessage name => hseg _ name fun m hm _ => registryDevice_extended hmessage m hm
  have hgeneric : ∀ texts, (∀ text ∈ texts, text ∈ statusTexts) → ∀ name,
      (Named seg (genericDevice texts) name ↔ Named check (genericDevice texts) name) :=
    fun _ htexts name => hseg _ name fun m _ hm => genericDevice_extended htexts m hm
  have htransfer := fun name =>
    (hregistry "TransferFailed" (by decide) name).trans (word_transferFailed hcheck)
  have hverification := fun name =>
    (hregistry "VerificationFailed" (by decide) name).trans (word_verificationFailed hcheck)
  have hwrite := fun name =>
    (hgeneric writeNackTexts (by simp +contextual [statusTexts]) name).trans
      (word_writeNack hcheck)
  have hread := fun name =>
    (hgeneric readNackTexts (by simp +contextual [statusTexts]) name).trans (word_readNack hcheck)
  have hsum := fun name =>
    (hgeneric checksumTexts (by simp +contextual [statusTexts]) name).trans (word_checksum hcheck)
  constructor
  · rintro ⟨-, hverification', hwrite', hread', hsum'⟩
    refine ⟨scan_right.mp fun name => ?_, scan_right.mp fun name => ?_,
      scan_right.mp fun name => ?_, batches_right.mp fun name => ?_⟩
    · rw [← hwrite, hwrite']
    · rw [← hread, hread']
    · rw [← hsum, hsum']
    · rw [← hverification, hverification']
  · rintro ⟨hwrite', hread', hsum', hcarried⟩
    refine ⟨htransfer, fun name => ?_, fun name => ?_, fun name => ?_, fun name => ?_⟩
    · rw [hverification, batches_right.mpr hcarried]
    · rw [hwrite, if_neg hwrite']
    · rw [hread, if_neg hread']
    · rw [hsum, if_neg hsum']

theorem namesRight_clear {w : Vector UInt8 4} (hclear : Clear w)
    (hquiet : ∀ device name, ¬Named seg device name) : NamesRight seg w ∧ Nameable w := by
  obtain ⟨hwrite, hread, hsum⟩ := flagged_eq_zero.mp (clear_iff.mp hclear).2
  replace hwrite : statusWriteNack w = 0 := hwrite
  replace hread : statusReadNack w = 0 := hread
  replace hsum : statusChecksum w = 0 := hsum
  have hnone : ∀ device name, Named seg device name ↔ DeviceIn 0 name :=
    fun device name => iff_of_false (hquiet device name) deviceIn_zero
  refine ⟨⟨?_, ?_, ?_, ?_, ?_⟩, ?_, ?_, ?_, ?_⟩
  all_goals simp [hwrite, hread, hsum, hnone]

end Attempt

/-- **The names in an attempt's messages.** A complete run is cut into its
attempts, and nothing is left over. In each of them that got to a status word,
the messages name the retimers in its error bytes exactly if the word is
`Nameable`: no byte has all its bits set, and it has no effect that the retimers
with a write NACK are carried over to the checks of the other two bytes. -/
theorem startRetimerFwUpdate_names_iff (b : Build) (fd : Int) (retimerNumber : UInt8)
    (versionStr : List UInt8) (retimerNotUpdated : UInt8) (tr : List SysEvent)
    (res : Int32 × UInt8)
    (h : Run (startRetimerFwUpdate b fd retimerNumber versionStr retimerNotUpdated) tr res) :
    (attemptTraces b tr).flatten = tr ∧ ∀ seg ∈ attemptTraces b tr, ∀ w,
      endStatus b seg = some w → (NamesRight seg w ↔ Nameable w) := by
  obtain ⟨hflat, hattempts⟩ := attemptTraces_run h
  refine ⟨hflat, fun seg hseg w hend => ?_⟩
  obtain ⟨bitmap, ending, hattempt⟩ := hattempts seg hseg
  rcases hattempt.endStatus hend with ⟨hclear, hquiet⟩ | ⟨check, res', hcheck, hnamed⟩
  · obtain ⟨hright, hnameable⟩ := namesRight_clear hclear hquiet
    exact iff_of_true hright hnameable
  · exact namesRight_checked hcheck hnamed

section Small

/-- A write NACK of retimer 0 and a read NACK of retimer 1. -/
def mixedWord : Vector UInt8 4 := ⟨#[0, 1, 2, 0], rfl⟩

def mixedUpdate : List SysEvent × Sys (Int32 × UInt8) × Unit :=
  play (erringReply mixedWord) 60 () (startRetimerFwUpdate defaultBuild 3 3 [] 0)

def mixedAttempt : List SysEvent := (attemptTraces defaultBuild mixedUpdate.1).headD []

theorem mixedUpdate_result : mixedUpdate.2.1.result = some (-0xFD, 3)
    ∧ endStatus defaultBuild mixedAttempt = some mixedWord := by
  decide

theorem run_mixedUpdate :
    Run (startRetimerFwUpdate defaultBuild 3 3 [] 0) mixedUpdate.1 (-0xFD, 3) :=
  run_play mixedUpdate_result.1

theorem startRetimerFwUpdate_names_iff_mixed :
    (attemptTraces defaultBuild mixedUpdate.1).flatten = mixedUpdate.1
      ∧ ∀ seg ∈ attemptTraces defaultBuild mixedUpdate.1, ∀ w,
        endStatus defaultBuild seg = some w → (NamesRight seg w ↔ Nameable w) :=
  startRetimerFwUpdate_names_iff defaultBuild 3 3 [] 0 mixedUpdate.1 _ run_mixedUpdate

/-- The verification of retimer 0 is reported to have failed. -/
theorem mixed_names_others :
    ¬∀ (b : Build) (fd : Int) (retimerNumber : UInt8) (versionStr : List UInt8)
      (retimerNotUpdated : UInt8) (tr : List SysEvent) (res : Int32 × UInt8) (seg : List SysEvent)
      (w : Vector UInt8 4),
      Run (startRetimerFwUpdate b fd retimerNumber versionStr retimerNotUpdated) tr res →
      seg ∈ attemptTraces b tr → endStatus b seg = some w → NamesRight seg w := by
  intro h
  have hmem : mixedAttempt ∈ attemptTraces defaultBuild mixedUpdate.1 :=
    List.mem_of_getElem? (i := 0) rfl
  have hmessage : mixedAttempt[5]? = some ⟨.emitLogMessage
      (failureMessage "VerificationFailed" [] 0), ()⟩ := rfl
  have hright := h defaultBuild 3 3 [] 0 mixedUpdate.1 _ _ _ run_mixedUpdate hmem
    mixedUpdate_result.2
  have hnamed := (hright.verificationFailed (retimerName 0)).mp
    ⟨_, List.mem_of_getElem? hmessage, rfl⟩
  exact absurd (deviceIn_retimerName.mp hnamed) (by decide)

end Small

end Retimer
