import Retimer.Reports

/-!
# Who is told what

The retimers that the update loop names in its messages about the
outcome of an operation. They are the targets of the operation, each
with one outcome (`Partition`), unless the apply phase fails and
`retimerNotUpdated` then has a retimer in it that is not a target, or
not all of them when nothing was triggered (`FairReport`).

Which messages count is fixed by their kind: `NamedUpdated` looks for
the one of success, `NamedFailed` for the ones of failure that the loop
sends itself (`SaysFailed`); those of `startRetimerFwUpdate` have a
resolution, and belong to another promise. Everything else is
`IsSilent`, and most of the work is to place the messages of an
operation in its report: `named_middle` drops what stands in front of it
and behind it.

`Operated.partition_iff` goes through the four ways of an operation. A
failed copy names all targets and triggers nothing, an update that went
well names all of them and has triggered each in its first attempt
(`Retries.triggered`), and a failed one names those in
`retimerNotUpdated` as failed and the symmetric difference as updated
(`named_applyFailed`). That last value comes from the run in front of
the operation, so `main_outcomes_iff` takes it from there
(`OperationAt.standing`) and is exact for every operation of every run.
-/

namespace Retimer

open Interaction Interaction.Prog

/-! ## Named retimers -/

def NamedUpdated (tr : List SysEvent) (r : Nat) : Prop :=
  ∃ m, Logged tr m ∧ m.message = "UpdateSuccessful" ∧ m.arg0 = retimerName r

/-- A message of the update loop about a failure. Those of
`startRetimerFwUpdate` have a resolution. -/
def SaysFailed (m : LogMessage) : Prop :=
  (m.message = "TransferFailed" ∨ m.message = "ApplyFailed") ∧ m.resolution = none

def NamedFailed (tr : List SysEvent) (r : Nat) : Prop :=
  ∃ m, Logged tr m ∧ SaysFailed m ∧ m.arg1 = retimerName r

/-- The outcomes reported are one for each target, and only of updates that
were triggered. -/
structure Partition (b : Build) (targets : UInt8) (seg : List SysEvent) : Prop where
  disjoint : ∀ r, ¬(NamedUpdated seg r ∧ NamedFailed seg r)
  union : ∀ r, NamedUpdated seg r ∨ NamedFailed seg r ↔ Has targets r
  triggered : ∀ r, NamedUpdated seg r → (∃ a ∈ attempts b seg, Has a.bitmap r)
    ∧ ∀ a ∈ attempts b seg, Has a.bitmap r → a.sent = true

/-- When the apply phase fails, what it leaves in `retimerNotUpdated` are
targets, and all of them if no trigger got through. -/
def FairReport (targets notUpdated : UInt8) (as : List Attempt) : Prop :=
  Refused as → (∀ r, Has (reported notUpdated as) r → Has targets r)
    ∧ ((∀ a ∈ as, a.sent = false) → reported notUpdated as = targets)

section Named

variable {tr tr' : List SysEvent} {r : Nat}

theorem namedUpdated_append :
    NamedUpdated (tr ++ tr') r ↔ NamedUpdated tr r ∨ NamedUpdated tr' r :=
  exists_logged_append

theorem namedFailed_append :
    NamedFailed (tr ++ tr') r ↔ NamedFailed tr r ∨ NamedFailed tr' r :=
  exists_logged_append

theorem not_namedUpdated_nil : ¬NamedUpdated [] r := fun ⟨_, hlog, _⟩ => not_logged_nil hlog

/-- A message that says nothing about an outcome: neither `UpdateSuccessful` nor
one that says that something failed. All other requests are silent. -/
def IsSilent : Call → Prop
  | .emitLogMessage m => m.message ≠ "UpdateSuccessful" ∧ ¬SaysFailed m
  | _ => True

theorem not_named (h : ∀ ev ∈ tr, IsSilent ev.1) : ¬NamedUpdated tr r ∧ ¬NamedFailed tr r := by
  refine ⟨?_, ?_⟩
  · rintro ⟨m, hlog, hupdated, -⟩
    exact (h _ hlog).1 hupdated
  · rintro ⟨m, hlog, hfailed, -⟩
    exact (h _ hlog).2 hfailed

theorem IsGeneric.isSilent {m : LogMessage} (h : m.message = resourceErrorsDetected) :
    m.message ≠ "UpdateSuccessful" ∧ ¬SaysFailed m := by
  rw [SaysFailed, h]
  exact ⟨by decide, fun hfailed => absurd hfailed.1 (by decide)⟩

theorem IsStaging.isSilent {c : Call} (h : IsStaging c) : IsSilent c := by
  cases c with
  | emitLogMessage m => exact IsGeneric.isSilent h
  | _ => trivial

theorem IsTrying.isSilent {c : Call} (h : IsTrying c) : IsSilent c := by
  cases c with
  | emitLogMessage m =>
      rcases h with hgeneric | ⟨hmessage, hresolution⟩
      · exact IsGeneric.isSilent hgeneric
      · refine ⟨hmessage, fun hfailed => ?_⟩
        rw [hfailed.2] at hresolution
        cases hresolution
  | _ => trivial

theorem IsClose.isSilent {c : Call} (h : IsClose c) : IsSilent c := by
  cases c with
  | close fd => trivial
  | _ => exact h.elim

variable {retimer : UInt8} {message severity : String} {versionStr : List UInt8}
  {genericMessage : Bool} {u : Unit}

theorem namedUpdated_registry {resolution : Option String}
    (h : Run (prepareMessageRegistry retimer "UpdateSuccessful" versionStr msgRegDevFollowedByVer
      severity resolution genericMessage) tr u) : NamedUpdated tr r ↔ Has retimer r := by
  simp only [NamedUpdated, logged_prepareMessageRegistry h]
  constructor
  · rintro ⟨m, ⟨r', hset, rfl⟩, -, hname⟩
    exact retimerName_injective hname ▸ hset
  · exact fun hset => ⟨_, ⟨r, hset, rfl⟩, rfl, rfl⟩

theorem namedFailed_registry (hmessage : message = "TransferFailed" ∨ message = "ApplyFailed")
    (h : Run (prepareMessageRegistry retimer message versionStr msgRegVerFollowedByDev
      severity none genericMessage) tr u) : NamedFailed tr r ↔ Has retimer r := by
  simp only [NamedFailed, logged_prepareMessageRegistry h]
  constructor
  · rintro ⟨m, ⟨r', hset, rfl⟩, -, hname⟩
    exact retimerName_injective hname ▸ hset
  · exact fun hset => ⟨_, ⟨r, hset, rfl⟩, ⟨hmessage, rfl⟩, rfl⟩

theorem not_namedUpdated_registry {verBeforeDevice : Bool} {resolution : Option String}
    (hmessage : message ≠ "UpdateSuccessful")
    (h : Run (prepareMessageRegistry retimer message versionStr verBeforeDevice
      severity resolution genericMessage) tr u) : ¬NamedUpdated tr r := by
  rintro ⟨m, hlog, hupdated, -⟩
  obtain ⟨r', -, rfl⟩ := (logged_prepareMessageRegistry h m).mp hlog
  cases verBeforeDevice <;> exact hmessage hupdated

theorem not_namedFailed_registry {verBeforeDevice : Bool} {resolution : Option String}
    (hmessage : ¬(message = "TransferFailed" ∨ message = "ApplyFailed"))
    (h : Run (prepareMessageRegistry retimer message versionStr verBeforeDevice
      severity resolution genericMessage) tr u) : ¬NamedFailed tr r := by
  rintro ⟨m, hlog, hfailed, -⟩
  obtain ⟨r', -, rfl⟩ := (logged_prepareMessageRegistry h m).mp hlog
  cases verBeforeDevice <;> exact hmessage hfailed.1

end Named

/-! ## One operation -/

theorem has_xor {x y : UInt8} {r : Nat} : Has (x ^^^ y) r ↔ (Has x r ↔ ¬Has y r) := by
  simp only [Has, UInt8.toNat_xor, Nat.testBit_xor]
  cases x.toNat.testBit r <;> cases y.toNat.testBit r <;> simp

section Operation

variable {b : Build} {fd : Int} {image : List UInt8} {op : UpdateOperation} {st st' : LoopState}
  {tr front extra : List SysEvent} {targets : UInt8} {r : Nat}

theorem named_middle (hfront : ∀ ev ∈ front, IsSilent ev.1) (hextra : ∀ ev ∈ extra, IsSilent ev.1) :
    (NamedUpdated (front ++ (tr ++ extra)) r ↔ NamedUpdated tr r)
      ∧ (NamedFailed (front ++ (tr ++ extra)) r ↔ NamedFailed tr r) := by
  rw [namedUpdated_append, namedUpdated_append, namedFailed_append, namedFailed_append,
    or_iff_right (not_named hfront).1, or_iff_left (not_named hextra).1,
    or_iff_right (not_named hfront).2, or_iff_left (not_named hextra).2]
  exact ⟨Iff.rfl, Iff.rfl⟩

theorem named_transferFailed (h : Run (reportTransferFailed op) tr ())
    (hop : op.applyBitmap = targets.toUInt32) :
    ¬NamedUpdated tr r ∧ (NamedFailed tr r ↔ Has targets r) := by
  have hbitmap : op.applyBitmap.toUInt8 = targets := by rw [hop]; simp
  exact ⟨not_namedUpdated_registry (by decide) h, hbitmap ▸ namedFailed_registry (Or.inl rfl) h⟩

theorem named_updateSuccessful (h : Run (reportUpdateSuccessful op) tr ())
    (hop : op.applyBitmap = targets.toUInt32) :
    (NamedUpdated tr r ↔ Has targets r) ∧ ¬NamedFailed tr r := by
  have hbitmap : op.applyBitmap.toUInt8 = targets := by rw [hop]; simp
  obtain ⟨tr₁, _, tr₂, rfl, hupdated, hawait⟩ := run_bind.mp h
  rw [namedUpdated_append, namedFailed_append, namedUpdated_registry hupdated, hbitmap,
    or_iff_left (not_namedUpdated_registry (by decide) hawait)]
  refine ⟨Iff.rfl, not_or.mpr ⟨?_, ?_⟩⟩
  · exact not_namedFailed_registry (by decide) hupdated
  · exact not_namedFailed_registry (by decide) hawait

theorem named_applyFailed {notUpdated : UInt8} (h : Run (reportApplyFailed op notUpdated) tr ())
    (hop : op.applyBitmap = targets.toUInt32) :
    (NamedUpdated tr r ↔ Has (targets ^^^ notUpdated) r)
      ∧ (NamedFailed tr r ↔ Has notUpdated r) := by
  have hxor : (op.applyBitmap ^^^ notUpdated.toUInt32).toUInt8 = targets ^^^ notUpdated := by
    rw [hop]
    simp
  have hzero : op.applyBitmap ^^^ notUpdated.toUInt32 = 0 → targets ^^^ notUpdated = 0 := by
    intro h
    rw [← hxor, h]
    rfl
  obtain ⟨tr₁, _, tr₂, rfl, hfailed, h₁⟩ := run_bind.mp h
  rw [namedUpdated_append, namedFailed_append, namedFailed_registry (Or.inr rfl) hfailed,
    or_iff_right (not_namedUpdated_registry (by decide) hfailed)]
  dsimp only at h₁
  split at h₁
  · obtain ⟨tr₃, _, tr₄, rfl, hupdated, hawait⟩ := run_bind.mp h₁
    rw [namedUpdated_append, namedFailed_append, namedUpdated_registry hupdated, hxor,
      or_iff_left (not_namedUpdated_registry (by decide) hawait)]
    refine ⟨Iff.rfl, or_iff_left (not_or.mpr ⟨?_, ?_⟩)⟩
    · exact not_namedFailed_registry (by decide) hupdated
    · exact not_namedFailed_registry (by decide) hawait
  · next hsame =>
      obtain ⟨rfl, -⟩ := run_ret.mp h₁
      rw [hzero (not_not.mp hsame)]
      refine ⟨iff_of_false not_namedUpdated_nil not_has_zero, or_iff_left ?_⟩
      exact fun ⟨_, hlog, _⟩ => not_logged_nil hlog

end Operation

section Partition

variable {b : Build} {targets notUpdated : UInt8} {seg : List SysEvent} {n : Nat} {ret : Int32}
  {res : Int32 × UInt8}

theorem partition_of_transferFailed (hupdated : ∀ r, ¬NamedUpdated seg r)
    (hfailed : ∀ r, NamedFailed seg r ↔ Has targets r) : Partition b targets seg where
  disjoint r h := hupdated r h.1
  union r := (or_iff_right (hupdated r)).trans (hfailed r)
  triggered r h := absurd h (hupdated r)

theorem Retries.triggered (h : Retries (n + 1) targets notUpdated ret (attempts b seg) res)
    {r : Nat}
    (hr : Has targets r) : ∃ a ∈ attempts b seg, Has a.bitmap r := by
  obtain ⟨a, as, has⟩ := List.exists_cons_of_ne_nil h.ne_nil
  have hfirst := h.first a (by rw [has]; rfl)
  exact ⟨a, by rw [has]; exact List.mem_cons_self, hfirst ▸ hr⟩

theorem partition_of_updateSuccessful
    (h : Retries (n + 1) targets notUpdated ret (attempts b seg) res)
    (hwell : ¬Refused (attempts b seg)) (hupdated : ∀ r, NamedUpdated seg r ↔ Has targets r)
    (hfailed : ∀ r, ¬NamedFailed seg r) : Partition b targets seg where
  disjoint r h := hfailed r h.2
  union r := (or_iff_left (hfailed r)).trans (hupdated r)
  triggered r hr := by
    refine ⟨h.triggered ((hupdated r).mp hr), fun a ha _ => ?_⟩
    by_contra hsent
    exact hwell (Or.inl ⟨a, ha, Or.inl (Bool.eq_false_of_not_eq_true hsent)⟩)

theorem partition_of_applyFailed
    (h : Retries (n + 1) targets notUpdated ret (attempts b seg) res)
    (hrefused : Refused (attempts b seg))
    (hupdated : ∀ r, NamedUpdated seg r ↔ Has (targets ^^^ res.2) r)
    (hfailed : ∀ r, NamedFailed seg r ↔ Has res.2 r) :
    Partition b targets seg ↔ FairReport targets notUpdated (attempts b seg) := by
  rw [FairReport, ← h.reported]
  constructor
  · intro hpart _
    refine ⟨fun r hr => (hpart.union r).mp (Or.inr ((hfailed r).mpr hr)), fun hunsent => ?_⟩
    -- nothing got through, so no retimer can differ
    have hsame : ∀ r, ¬Has (targets ^^^ res.2) r := by
      intro r hr
      obtain ⟨⟨a, ha, hbit⟩, hsent⟩ := hpart.triggered r ((hupdated r).mpr hr)
      exact absurd (hsent a ha hbit) (by rw [hunsent a ha]; decide)
    apply eq_of_has
    intro r
    have hr := hsame r
    rw [has_xor] at hr
    tauto
  · intro hfair
    obtain ⟨htargets, hunsent⟩ := hfair hrefused
    refine ⟨fun r hr => ?_, fun r => ?_, fun r hr => ?_⟩
    · rw [hupdated, hfailed, has_xor] at hr
      exact hr.1.mp (htargets r hr.2) hr.2
    · rw [hupdated, hfailed, has_xor]
      have := htargets r
      tauto
    · rw [hupdated, has_xor] at hr
      have hr' := htargets r
      have htarget : Has targets r := by tauto
      have hnot : ¬Has res.2 r := by tauto
      refine ⟨h.triggered htarget, fun a ha hbit => ?_⟩
      by_contra hsent
      have hsent : a.sent = false := Bool.eq_false_of_not_eq_true hsent
      rcases h.unsent ha hsent with ⟨hone, -, -⟩ | hbitmap
      · have hall := hunsent fun a' ha' => by
          rw [hone] at ha'
          rw [List.mem_singleton.mp ha', hsent]
        exact hnot (hall ▸ htarget)
      · exact hnot (hbitmap ▸ hbit)

end Partition

section Operation

variable {b : Build} {fd : Int} {image : List UInt8} {op : UpdateOperation} {st st' : LoopState}
  {seg extra : List SysEvent} {targets : UInt8}

theorem attempts_closes (hextra : ∀ ev ∈ extra, IsClose ev.1) :
    attempts b (seg ++ extra) = attempts b seg := by
  have hquiet : marks b extra = [] := by
    refine marks_eq_nil fun ev hev => ?_
    have hclose := hextra ev hev
    obtain ⟨c, r⟩ := ev
    cases c with
    | close fd => rfl
    | _ => exact hclose.elim
  rw [attempts, attempts, marks_append, hquiet, List.append_nil]

theorem silent_front {tr₁ tr₂ : List SysEvent} {ret : Int32}
    (hannounce : Run (announceTransfer op) tr₁ ())
    (hcopy : Run (copyOperation b fd image op) tr₂ ret) : ∀ ev ∈ tr₁ ++ tr₂, IsSilent ev.1 := by
  have hupdated : "TransferringToComponent" ≠ "UpdateSuccessful" := by decide
  have hfailed : ¬("TransferringToComponent" = "TransferFailed"
      ∨ "TransferringToComponent" = "ApplyFailed") := by decide
  have hsilent : Only IsSilent (announceTransfer op) :=
    only_prepare fun _ _ => ⟨hupdated, fun hsays => hfailed hsays.1⟩
  intro ev hev
  rcases List.mem_append.mp hev with hev | hev
  · exact hsilent.run hannounce ev hev
  · exact (only_staging.run hcopy ev hev).isSilent

theorem silent_start {tr₁ tr₂ tr₃ : List SysEvent} {ret : Int32} {N : UInt8} {res : Int32 × UInt8}
    (hannounce : Run (announceTransfer op) tr₁ ())
    (hcopy : Run (copyOperation b fd image op) tr₂ ret)
    (hstart : Run (startOperation b fd op N) tr₃ res) :
    ∀ ev ∈ tr₁ ++ tr₂ ++ tr₃, IsSilent ev.1 := by
  intro ev hev
  rcases List.mem_append.mp hev with hev | hev
  · exact silent_front hannounce hcopy ev hev
  · exact (only_trying.run hstart ev hev).isSilent

/-- The attempts of an operation that is started are those of its update, and its
outcome messages those of its report. -/
theorem started_operation {tr₁ tr₂ tr₃ tr₄ : List SysEvent} {ret : Int32} {N : UInt8}
    {res : Int32 × UInt8} (hannounce : Run (announceTransfer op) tr₁ ())
    (hcopy : Run (copyOperation b fd image op) tr₂ ret)
    (hstart : Run (startOperation b fd op N) tr₃ res) (hreport : ∀ ev ∈ tr₄, IsMessage ev.1)
    (hextra : ∀ ev ∈ extra, IsClose ev.1) :
    attempts b (tr₁ ++ (tr₂ ++ (tr₃ ++ tr₄)) ++ extra) = attempts b tr₃
      ∧ ∀ r, (NamedUpdated (tr₁ ++ (tr₂ ++ (tr₃ ++ tr₄)) ++ extra) r ↔ NamedUpdated tr₄ r)
        ∧ (NamedFailed (tr₁ ++ (tr₂ ++ (tr₃ ++ tr₄)) ++ extra) r ↔ NamedFailed tr₄ r) := by
  have hparts : tr₁ ++ (tr₂ ++ (tr₃ ++ tr₄)) ++ extra
      = (tr₁ ++ tr₂ ++ tr₃) ++ (tr₄ ++ extra) := by
    simp
  constructor
  · rw [attempts_closes hextra, attempts_parts hannounce hcopy hstart hreport]
  · intro r
    rw [hparts]
    exact named_middle (silent_start hannounce hcopy hstart) fun ev hev => (hextra ev hev).isSilent

/-- **One operation.** Its outcome messages are fair to the targets just when
what a failed apply phase leaves in `retimerNotUpdated` is. -/
theorem Operated.partition_iff (h : Operated b fd image op st seg st')
    (hextra : ∀ ev ∈ extra, IsClose ev.1) (hop : op.applyBitmap = targets.toUInt32)
    (hne : targets ≠ 0) : Partition b targets (seg ++ extra)
      ↔ FairReport targets st.retimerNotUpdated (attempts b (seg ++ extra)) := by
  have hsilent : ∀ ev ∈ extra, IsSilent ev.1 := fun ev hev => (hextra ev hev).isSilent
  have hbitmap : op.applyBitmap.toUInt8 = targets := by rw [hop]; simp
  cases h with
  | skipped hempty =>
      refine absurd ?_ hne
      rw [← hbitmap, hempty]
      rfl
  | @notCopied tr₁ tr₂ tr₃ ret _ hannounce hcopy hret hreport =>
      have hnone := attempts_notCopied hannounce hcopy (only_prepareMessageRegistry.run hreport)
      have hparts : tr₁ ++ (tr₂ ++ tr₃) ++ extra = (tr₁ ++ tr₂) ++ (tr₃ ++ extra) := by simp
      have hnamed := fun r => @named_middle tr₃ _ extra r (silent_front hannounce hcopy) hsilent
      have hreported := fun r => @named_transferFailed op tr₃ targets r hreport hop
      rw [attempts_closes hextra, hnone, hparts]
      refine iff_of_true (partition_of_transferFailed (fun r hr => ?_) fun r => ?_)
        fun hrefused => ?_
      · exact (hreported r).1 ((hnamed r).1.mp hr)
      · exact (hnamed r).2.trans (hreported r).2
      · rcases hrefused with ⟨a, ha, -⟩ | ⟨a, w, ha, -⟩
        · cases ha
        · cases ha
  | @refused tr₁ tr₂ tr₃ tr₄ ret notUpdated _ hannounce hcopy hstart hret hreport =>
      have hretries := (run_updateAttempts hstart).1
      obtain ⟨hatt, hnamed⟩ := started_operation hannounce hcopy hstart
        (only_reportApplyFailed.run hreport) hextra
      have hreported := fun r => @named_applyFailed op tr₄ targets r notUpdated hreport hop
      rw [hbitmap, ← hatt] at hretries
      have hrefused : Refused (attempts b (tr₁ ++ (tr₂ ++ (tr₃ ++ tr₄)) ++ extra)) := by
        by_contra hwell
        exact hret ((hretries.refused hretries.ne_nil).2 hwell)
      refine partition_of_applyFailed hretries hrefused (fun r => ?_) fun r => ?_
      · exact (hnamed r).1.trans (hreported r).1
      · exact (hnamed r).2.trans (hreported r).2
  | @updated tr₁ tr₂ tr₃ tr₄ notUpdated _ hannounce hcopy hstart hreport =>
      have hretries := (run_updateAttempts hstart).1
      obtain ⟨hatt, hnamed⟩ := started_operation hannounce hcopy hstart
        (only_reportUpdateSuccessful.run hreport) hextra
      have hreported := fun r => @named_updateSuccessful op tr₄ targets r hreport hop
      rw [hbitmap, ← hatt] at hretries
      have hwell : ¬Refused (attempts b (tr₁ ++ (tr₂ ++ (tr₃ ++ tr₄)) ++ extra)) :=
        fun hrefused => (hretries.refused hretries.ne_nil).1 hrefused rfl
      refine iff_of_true (partition_of_updateSuccessful hretries hwell (fun r => ?_) fun r hr => ?_)
        fun hrefused => absurd hrefused hwell
      · exact (hnamed r).1.trans (hreported r).1
      · exact (hreported r).2 ((hnamed r).2.mp hr)

end Operation

/-! ## Runs of `main` -/

theorem targeted_eq {b : Build} {args : Arguments} {fwSize : Nat} {image : Vector UInt8 fwSize}
    {calloc : Bool} {uo : Nat} {op : UpdateOperation}
    (h : (operationsOf b args image calloc)[uo]? = some op) :
    op.applyBitmap = op.applyBitmap.toUInt8.toUInt32 := by
  obtain ⟨op', -, rfl⟩ : ∃ op',
      ((parseMapped b args image calloc).updateOps.getD [])[uo]? = some op'
      ∧ op'.targeted args.retimerBitmap = op := by
    simpa [operationsOf] using h
  exact (bitmap_toUInt8 _ _).symm

/-- **Outcome messages.** In every run of `main`, for every operation with
targets: the outcomes reported are one for each target exactly when the
operation's apply phase goes well or leaves a fair value in `retimerNotUpdated`,
given the value that the operations before it left. The right-hand side is about
status words and transactions; no message is in it. -/
theorem main_outcomes_iff (b : Build) (fuel : Nat) (argv : List (List UInt8)) (tr : List SysEvent)
    (res : Option Int32) (h : Run (main b fuel argv) tr res) (pre seg post : List SysEvent)
    (uo : Nat)
    (hwhole : WholeOperation tr pre uo seg post) :
    (∃ op, OperationOf b fuel argv pre uo op) ∧ ∀ op, OperationOf b fuel argv pre uo op →
      op.applyBitmap ≠ 0 →
      (Partition b op.applyBitmap.toUInt8 seg
        ↔ FairReport op.applyBitmap.toUInt8 (standing b pre) (attempts b seg)) := by
  obtain ⟨op, st, hat⟩ := main_operation h hwhole
  refine ⟨⟨op, hat.operation⟩, fun op' hop' hne => ?_⟩
  obtain rfl := hat.operation.unique hop'
  obtain ⟨args, fd, imagefd, fwSize, image, calloc, rest, -, -, -, hop⟩ := hop'
  obtain ⟨fd, image', seg₁, extra, st', rfl, hextra, hbody⟩ := hat.body
  have hbitmap := targeted_eq hop
  rw [← hat.standing]
  refine (run_performUpdate hbody).partition_iff hextra hbitmap fun hzero => hne ?_
  rw [hbitmap, hzero]
  rfl

section Small

/-- Nothing fails but the writes to the update register. -/
def refusingReply (b : Build) (file : List UInt8) (_ : Unit) : (c : Call) → Option (Answer c × Unit)
  | .i2cWrite fd slaveId writeData =>
      some (if IsTrigger b (.i2cWrite fd slaveId writeData) then .failed 6
        else .ok (Vector.replicate 0 0), ())
  | c => (c.succeed file).map (·, ())

def refusedRun : List SysEvent × Sys (Option Int32) × Unit :=
  play (refusingReply defaultBuild [1, 2, 3]) 60 () (main defaultBuild 10 smallArgv)

theorem run_refusedRun : Run (main defaultBuild 10 smallArgv) refusedRun.1 (some (-110)) :=
  run_play rfl

theorem WholeOperation.of_get {tr : List SysEvent} {i uo : Nat}
    (h : tr[i]? = some ⟨.performing uo, ()⟩) (hseg : ∀ ev ∈ tr.drop (i + 1), ¬IsPerforming ev.1) :
    WholeOperation tr (tr.take i) uo (tr.drop (i + 1)) [] := by
  obtain ⟨_, hcut⟩ := cut_at (congrArg (·.map (·.1)) h)
  refine ⟨?_, hseg, fun ev hev => nomatch hev⟩
  rwa [List.append_nil]

theorem whole_refusedRun :
    WholeOperation refusedRun.1 (refusedRun.1.take 7) 0 (refusedRun.1.drop 8) [] :=
  .of_get rfl (by decide)

theorem main_outcomes_iff_refused :
    (∃ op, OperationOf defaultBuild 10 smallArgv (refusedRun.1.take 7) 0 op)
      ∧ ∀ op, OperationOf defaultBuild 10 smallArgv (refusedRun.1.take 7) 0 op →
        op.applyBitmap ≠ 0 →
        (Partition defaultBuild op.applyBitmap.toUInt8 (refusedRun.1.drop 8)
          ↔ FairReport op.applyBitmap.toUInt8 (standing defaultBuild (refusedRun.1.take 7))
            (attempts defaultBuild (refusedRun.1.drop 8))) :=
  main_outcomes_iff defaultBuild 10 smallArgv refusedRun.1 _ run_refusedRun _ _ _ 0 whole_refusedRun

/-- Retimer 1, not a target, is reported to be updated. -/
theorem main_names_others :
    ¬∀ (b : Build) (fuel : Nat) (argv : List (List UInt8)) (tr : List SysEvent)
      (res : Option Int32) (pre seg post : List SysEvent) (uo : Nat) (op : UpdateOperation),
      Run (main b fuel argv) tr res → WholeOperation tr pre uo seg post →
      OperationOf b fuel argv pre uo op → op.applyBitmap ≠ 0 →
      Partition b op.applyBitmap.toUInt8 seg := by
  intro h
  have hops : (operationsOf defaultBuild smallArguments (⟨#[1, 2, 3], rfl⟩ : Vector UInt8 3)
      true)[0]?.map (·.applyBitmap) = some 1 := rfl
  obtain ⟨op, hop, hbitmap⟩ := Option.map_eq_some_iff.mp hops
  have hof : OperationOf defaultBuild 10 smallArgv (refusedRun.1.take 7) 0 op :=
    ⟨smallArguments, 3, 3, 3, ⟨#[1, 2, 3], rfl⟩, true, (refusedRun.1.take 7).drop 6, rfl, rfl,
      rfl, hop⟩
  have hpart := h defaultBuild 10 smallArgv refusedRun.1 _ _ _ _ 0 op run_refusedRun
    whole_refusedRun hof (by rw [hbitmap]; decide)
  have hmessage : (refusedRun.1.drop 8)[16]? = some ⟨.emitLogMessage ⟨"UpdateSuccessful",
      retimerName 1, textOf defaultVersion, informational, none, false⟩, ()⟩ := rfl
  have hnamed : NamedUpdated (refusedRun.1.drop 8) 1 :=
    ⟨_, List.mem_of_getElem? hmessage, rfl, rfl⟩
  have htarget := (hpart.union 1).mp (Or.inl hnamed)
  rw [hbitmap] at htarget
  exact absurd htarget (by decide)

end Small

end Retimer
