import Retimer.UpdateRun

/-!
# Complete runs of the update loop

How a run of `main` that has come to its end is made up: the body of the
loop ends in one of four ways (`Operated`), the loop is its operations
one after the other, and `main_operation` finds the operation that a
part of the run between two announcements is.

The parts of the body have names of their own, `announceTransfer`,
`copyOperation`, `startOperation` and the reports, and
`run_performUpdate` has every run of the body in one of: no targets
left, copy failed, update failed, both went well. `UpdateCommandRun` and
`MainRun` do the same for the update command and for `main`, by how far
they get; a result about complete runs of `main` is a case analysis of
these three.

`WholeOperation` says that a part of a run is all that lies between two
announcements. A trace falls apart there in one way only
(`upToPerforming_unique`), so by induction over the loop
(`run_updateLoop_operation`) such a part is a run of the body, for the
operation with that number, and what was in front is a run of the loop
over the operations in front. `OperationAt` records it, with the state
that the loop was in.
-/

namespace Retimer

open Interaction Interaction.Prog

section Operation

variable {b : Build} {fd : Int} {image : List UInt8} {op : UpdateOperation} {st : LoopState}

def announceTransfer (op : UpdateOperation) : Sys Unit :=
  prepareMessageRegistry op.applyBitmap.toUInt8 "TransferringToComponent" op.versionString
    msgRegVerFollowedByDev informational none false

/-- The messages after a failed copy. -/
def reportTransferFailed (op : UpdateOperation) : Sys Unit :=
  prepareMessageRegistry op.applyBitmap.toUInt8 "TransferFailed" op.versionString
    msgRegVerFollowedByDev critical none false

/-- The copy of the operation. -/
def copyOperation (b : Build) (fd : Int) (image : List UInt8) (op : UpdateOperation) : Sys Int32 :=
  copyImageFromMemToFpga b (image.drop op.startOffset) op.imageLength op.imageCrc fd
    b.fpgaI2cCntrlAddr

/-- The update of the operation. -/
def startOperation (b : Build) (fd : Int) (op : UpdateOperation) (retimerNotUpdated : UInt8) :
    Sys (Int32 × UInt8) :=
  startRetimerFwUpdate b fd op.applyBitmap.toUInt8 op.versionString retimerNotUpdated

/-- The four ways through the body of the update loop, with the variables of the
loop as each leaves them: `retimerNotUpdated` is set by an update only, and
where there was none it stays what an operation before it has left. -/
inductive Operated (b : Build) (fd : Int) (image : List UInt8) (op : UpdateOperation)
    (st : LoopState) : List SysEvent → LoopState → Prop where
  | skipped (hempty : op.applyBitmap = 0) : Operated b fd image op st [] st
  | notCopied {tr₁ tr₂ tr₃ : List SysEvent} {ret : Int32} (hbitmap : op.applyBitmap ≠ 0)
      (hannounce : Run (announceTransfer op) tr₁ ())
      (hcopy : Run (copyOperation b fd image op) tr₂ ret)
      (hret : ret ≠ 0) (hreport : Run (reportTransferFailed op) tr₃ ()) :
      Operated b fd image op st (tr₁ ++ (tr₂ ++ tr₃))
        { st with ret := ret, updateFirstErrRet := ret }
  | refused {tr₁ tr₂ tr₃ tr₄ : List SysEvent} {ret : Int32} {notUpdated : UInt8}
      (hbitmap : op.applyBitmap ≠ 0) (hannounce : Run (announceTransfer op) tr₁ ())
      (hcopy : Run (copyOperation b fd image op) tr₂ 0)
      (hstart : Run (startOperation b fd op st.retimerNotUpdated) tr₃ (ret, notUpdated))
      (hret : ret ≠ 0) (hreport : Run (reportApplyFailed op notUpdated) tr₄ ()) :
      Operated b fd image op st (tr₁ ++ (tr₂ ++ (tr₃ ++ tr₄))) ⟨ret, ret, notUpdated⟩
  | updated {tr₁ tr₂ tr₃ tr₄ : List SysEvent} {notUpdated : UInt8} (hbitmap : op.applyBitmap ≠ 0)
      (hannounce : Run (announceTransfer op) tr₁ ())
      (hcopy : Run (copyOperation b fd image op) tr₂ 0)
      (hstart : Run (startOperation b fd op st.retimerNotUpdated) tr₃ (0, notUpdated))
      (hreport : Run (reportUpdateSuccessful op) tr₄ ()) :
      Operated b fd image op st (tr₁ ++ (tr₂ ++ (tr₃ ++ tr₄)))
        { st with ret := 0, retimerNotUpdated := notUpdated }

theorem run_performUpdate {tr : List SysEvent} {st' : LoopState}
    (h : Run (performUpdate b fd image op st) tr st') : Operated b fd image op st tr st' := by
  unfold performUpdate at h
  split at h
  · next hempty =>
      obtain ⟨rfl, rfl⟩ := run_ret.mp h
      exact .skipped hempty
  · next hbitmap =>
      obtain ⟨tr₁, _, tr', rfl, hannounce, h₁⟩ := run_bind.mp h
      obtain ⟨tr₂, ret, tr'', rfl, hcopy, h₂⟩ := run_bind.mp h₁
      split at h₂
      · next hret =>
          obtain ⟨tr₃, _, tr₄, rfl, hreport, h₃⟩ := run_bind.mp h₂
          obtain ⟨rfl, rfl⟩ := run_ret.mp h₃
          rw [List.append_nil]
          exact .notCopied hbitmap hannounce hcopy hret hreport
      · next hret =>
          obtain rfl := not_not.mp hret
          obtain ⟨tr₃, ⟨ret', notUpdated⟩, tr''', rfl, hstart, h₃⟩ := run_bind.mp h₂
          dsimp only at h₃
          split at h₃
          · next hret' =>
              obtain ⟨tr₄, _, tr₅, rfl, hreport, h₄⟩ := run_bind.mp h₃
              obtain ⟨rfl, rfl⟩ := run_ret.mp h₄
              rw [List.append_nil]
              exact .refused hbitmap hannounce hcopy hstart hret' hreport
          · next hret' =>
              obtain rfl := not_not.mp hret'
              obtain ⟨tr₄, _, tr₅, rfl, hreport, h₄⟩ := run_bind.mp h₃
              obtain ⟨rfl, rfl⟩ := run_ret.mp h₄
              rw [List.append_nil]
              exact .updated hbitmap hannounce hcopy hstart hreport

end Operation

/-! ## Between two announcements -/

/-- `seg` is all that comes after the announcement of `uo` and before the next
one. -/
structure WholeOperation (tr pre : List SysEvent) (uo : Nat) (seg post : List SysEvent) : Prop where
  split : tr = pre ++ ⟨.performing uo, ()⟩ :: (seg ++ post)
  inside : ∀ ev ∈ seg, ¬IsPerforming ev.1
  next : ∀ ev ∈ post.head?, IsPerforming ev.1

instance : DecidablePred IsPerforming
  | .performing _ => isTrue trivial
  | .i2cWrite _ _ _ | .i2cRead _ _ _ _ | .emitLogMessage _ | .openFile _ _ | .close _ | .fstat _
  | .ftruncate _ _ | .mmap _ _ | .calloc | .malloc _ | .segfault | .read _ _ | .write _ _
  | .lseek _ _ | .access _ | .mkdir _ | .unlink _ | .evpMdCtxNew | .evpDigestInit
  | .evpDigestUpdate _ | .evpDigestFinal | .evpMdCtxFree | .sdBusMessageRead
  | .sdBusReplyMethodReturn | .sdBusReplyInvalidArgument | .sdBusEmitPropertiesChanged _ =>
      isFalse id

/-- A trace falls apart at the first announcement in one way only, so the
operations of a run can be spoken of by number. -/
theorem upToPerforming_unique {seg seg' post post' : List SysEvent}
    (h : seg ++ post = seg' ++ post') (hseg : ∀ ev ∈ seg, ¬IsPerforming ev.1)
    (hseg' : ∀ ev ∈ seg', ¬IsPerforming ev.1) (hpost : ∀ ev ∈ post.head?, IsPerforming ev.1)
    (hpost' : ∀ ev ∈ post'.head?, IsPerforming ev.1) : seg = seg' ∧ post = post' := by
  have hnil : ∀ {cs rest : List SysEvent}, (∀ ev ∈ cs, ¬IsPerforming ev.1) →
      (∀ ev ∈ (cs ++ rest).head?, IsPerforming ev.1) → cs = [] := by
    intro cs rest hcs hhead
    cases cs with
    | nil => rfl
    | cons ev cs => exact absurd (hhead ev rfl) (hcs ev List.mem_cons_self)
  rcases List.append_eq_append_iff.mp h with ⟨cs, rfl, rfl⟩ | ⟨cs, rfl, rfl⟩
  · obtain rfl := hnil (fun ev hev => hseg' ev (List.mem_append_right _ hev)) hpost
    exact ⟨(List.append_nil _).symm, rfl⟩
  · obtain rfl := hnil (fun ev hev => hseg ev (List.mem_append_right _ hev)) hpost'
    exact ⟨List.append_nil _, rfl⟩

section Loop

variable {b : Build} {fd : Int} {image : List UInt8} {uo : Nat} {st st' : LoopState}
  {tr : List SysEvent}

theorem run_updateLoop_cons {op : UpdateOperation} {ops : List UpdateOperation}
    (h : Run (updateLoop b fd image uo (op :: ops) st) tr st') :
    ∃ seg st₁ tr', tr = ⟨.performing uo, ()⟩ :: (seg ++ tr')
      ∧ Run (performUpdate b fd image op st) seg st₁
      ∧ Run (updateLoop b fd image (uo + 1) ops st₁) tr' st' := by
  rw [updateLoop] at h
  obtain ⟨_, tr₁, rfl, h₁⟩ := run_perform_bind.mp h
  obtain ⟨seg, st₁, tr', rfl, hbody, hrest⟩ := run_bind.mp h₁
  exact ⟨seg, st₁, tr', rfl, hbody, hrest⟩

theorem head_updateLoop {ops : List UpdateOperation}
    (h : Run (updateLoop b fd image uo ops st) tr st') :
    ∀ ev ∈ tr.head?, IsPerforming ev.1 := by
  cases ops with
  | nil =>
      obtain ⟨rfl, -⟩ := run_ret.mp h
      exact fun ev hev => nomatch hev
  | cons op ops =>
      obtain ⟨seg, st₁, tr', rfl, -, -⟩ := run_updateLoop_cons h
      intro ev hev
      obtain rfl := Option.some.inj hev
      trivial

/-- What a loop run, followed by other things, does between two announcements
is the body for one operation; what it did before that is a run of the loop
over the operations in front. -/
theorem run_updateLoop_operation {ops : List UpdateOperation} {tail pre seg post : List SysEvent}
    {i : Nat} (h : Run (updateLoop b fd image uo ops st) tr st')
    (htail : ∀ ev ∈ tail, ¬IsPerforming ev.1)
    (hwhole : WholeOperation (tr ++ tail) pre i seg post) :
    ∃ k op st₁ st₂ seg₁ extra, i = uo + k ∧ ops[k]? = some op
      ∧ Run (updateLoop b fd image uo (ops.take k) st) pre st₁
      ∧ seg = seg₁ ++ extra ∧ (∀ ev ∈ extra, ev ∈ tail)
      ∧ Run (performUpdate b fd image op st₁) seg₁ st₂ := by
  obtain ⟨hsplit, hseg, hpost⟩ := hwhole
  induction ops generalizing uo st tr pre with
  | nil =>
      obtain ⟨rfl, -⟩ := run_ret.mp h
      have hmem : (⟨.performing i, ()⟩ : SysEvent) ∈ tail := by
        rw [List.nil_append] at hsplit
        simp [hsplit]
      exact absurd trivial (htail _ hmem)
  | cons op ops ih =>
      obtain ⟨seg₀, st₁, tr', rfl, hbody, hrest⟩ := run_updateLoop_cons h
      have hquiet : ∀ ev ∈ seg₀, ¬IsPerforming ev.1 := only_performUpdate.run hbody
      rw [List.cons_append, List.append_assoc] at hsplit
      cases pre with
      | nil =>
          obtain ⟨heq, hparts⟩ := List.cons.inj hsplit
          cases heq
          refine ⟨0, op, st, st₁, seg₀, ?_⟩
          cases ops with
          | nil =>
              obtain ⟨rfl, -⟩ := run_ret.mp hrest
              have hall : ∀ ev ∈ seg₀ ++ tail, ¬IsPerforming ev.1 := fun ev hev =>
                (List.mem_append.mp hev).elim (hquiet ev) (htail ev)
              have hend : ∀ ev ∈ ([] : List SysEvent).head?, IsPerforming ev.1 :=
                fun ev hev => nomatch hev
              have hparts' : seg ++ post = (seg₀ ++ tail) ++ [] := by
                rw [List.append_nil, ← hparts, List.nil_append]
              obtain ⟨rfl, rfl⟩ := upToPerforming_unique hparts' hseg hall hpost hend
              exact ⟨tail, rfl, rfl, run_ret.mpr ⟨rfl, rfl⟩, rfl, fun ev hev => hev, hbody⟩
          | cons op' ops =>
              have hhead : ∀ ev ∈ (tr' ++ tail).head?, IsPerforming ev.1 := by
                obtain ⟨_, _, _, rfl, -, -⟩ := run_updateLoop_cons hrest
                intro ev hev
                obtain rfl := Option.some.inj hev
                trivial
              obtain ⟨rfl, -⟩ := upToPerforming_unique hparts.symm hseg hquiet hpost hhead
              exact ⟨[], rfl, rfl, run_ret.mpr ⟨rfl, rfl⟩, (List.append_nil _).symm,
                fun ev hev => absurd hev List.not_mem_nil, hbody⟩
      | cons ev pre =>
          obtain ⟨rfl, hparts⟩ := List.cons.inj hsplit
          obtain ⟨pre', rfl, hafter⟩ := cut_after hparts fun hev => hquiet _ hev trivial
          obtain ⟨k, op', st₂, st₃, seg₁, extra, rfl, hop, hbefore, hrun⟩ := ih hrest hafter
          refine ⟨k + 1, op', st₂, st₃, seg₁, extra, ?_, hop, ?_, hrun⟩
          · rw [Nat.add_right_comm, Nat.add_assoc]
          · rw [List.take_succ_cons, updateLoop]
            exact run_perform_bind.mpr ⟨(), _, rfl, run_bind.mpr
              ⟨seg₀, st₁, pre', rfl, hbody, hbefore⟩⟩

end Loop

/-! ## `main` -/

section Main

variable {b : Build} {fd : Int} {args : Arguments} {tr : List SysEvent}

theorem run_updateOperations {image : List UInt8} {retimerToUpdate : UInt8}
    {ops : List UpdateOperation} {ret : Int32}
    (h : Run (updateOperations b fd image retimerToUpdate ops) tr ret) :
    ∃ before loop final, tr = before ++ loop ∧ (∀ ev ∈ before, IsPlain ev.1)
      ∧ Run (updateLoop b fd image 0 (ops.map (·.targeted retimerToUpdate)) initialLoopState)
        loop final ∧ ret = loopRet final := by
  obtain ⟨before, ops', tr', rfl, hfilter, h₁⟩ := run_bind.mp h
  obtain ⟨loop, final, tr'', rfl, hloop, h₂⟩ := run_bind.mp h₁
  obtain ⟨rfl, rfl⟩ := run_ret.mp h₂
  obtain rfl := run_filterTargets hfilter
  rw [List.append_nil]
  exact ⟨before, loop, final, rfl, fun ev hev => (only_filterTargets.run hfilter ev hev).isPlain,
    hloop, rfl⟩

/-- The answers that put the image in the memory of the tool. -/
def mapEvents (args : Arguments) (imagefd : Int) (fwSize : Nat) (image : Vector UInt8 fwSize)
    (calloc : Bool) : List SysEvent :=
  [⟨.openFile (textOf args.imageFilename) .rdonly, imagefd⟩, ⟨.fstat imagefd, some fwSize⟩,
    ⟨.mmap imagefd fwSize, some image⟩, ⟨.close imagefd, ()⟩, ⟨.calloc, calloc⟩]

/-- What the parser makes of the mapped image. -/
abbrev parseMapped (b : Build) (args : Arguments) {fwSize : Nat} (image : Vector UInt8 fwSize)
    (calloc : Bool) : ParseResult :=
  parseCompositeImage b image.toList fwSize args.versionStr calloc

/-- The operations of the mapped image, cut down to the retimers asked for. -/
def operationsOf (b : Build) (args : Arguments) {fwSize : Nat} (image : Vector UInt8 fwSize)
    (calloc : Bool) : List UpdateOperation :=
  ((parseMapped b args image calloc).updateOps.getD []).map (·.targeted args.retimerBitmap)

/-- The complete runs of the update command, by what they return. -/
inductive UpdateCommandRun (b : Build) (fd : Int) (args : Arguments) :
    List SysEvent → Int32 → Prop where
  | notOpened {imagefd : Int} {rest : List SysEvent} (hfd : imagefd < 0)
      (hrest : ∀ ev ∈ rest, IsMessage ev.1) :
      UpdateCommandRun b fd args
        (⟨.openFile (textOf args.imageFilename) .rdonly, imagefd⟩ :: rest) 0
  | noSize {imagefd : Int} {rest : List SysEvent} (hfd : ¬imagefd < 0)
      (hrest : ∀ ev ∈ rest, IsMessage ev.1) :
      UpdateCommandRun b fd args
        (⟨.openFile (textOf args.imageFilename) .rdonly, imagefd⟩
          :: ⟨.fstat imagefd, none⟩ :: rest) 0
  | notMapped {imagefd : Int} {fwSize : Nat} {rest : List SysEvent} (hfd : ¬imagefd < 0)
      (hrest : ∀ ev ∈ rest, IsMessage ev.1) :
      UpdateCommandRun b fd args
        (⟨.openFile (textOf args.imageFilename) .rdonly, imagefd⟩ :: ⟨.fstat imagefd, some fwSize⟩
          :: ⟨.mmap imagefd fwSize, none⟩ :: rest) 0
  | rejected {imagefd : Int} {fwSize : Nat} {image : Vector UInt8 fwSize} {calloc : Bool}
      {rest : List SysEvent} (hfd : ¬imagefd < 0) (hret : (parseMapped b args image calloc).ret ≠ 0)
      (hrest : ∀ ev ∈ rest, IsMessage ev.1) :
      UpdateCommandRun b fd args (mapEvents args imagefd fwSize image calloc ++ rest)
        (parseMapped b args image calloc).ret
  | missing {imagefd : Int} {fwSize : Nat} {image : Vector UInt8 fwSize} {calloc : Bool}
      {rest : List SysEvent} (hfd : ¬imagefd < 0) (hret : (parseMapped b args image calloc).ret = 0)
      (hops : (parseMapped b args image calloc).updateOps = none)
      (hcount : (parseMapped b args image calloc).updateOpsCount > 0)
      (hrest : ∀ ev ∈ rest, IsMessage ev.1) :
      UpdateCommandRun b fd args (mapEvents args imagefd fwSize image calloc ++ rest)
        (-errorUnknown)
  | performed {imagefd : Int} {fwSize : Nat} {image : Vector UInt8 fwSize} {calloc : Bool}
      {before loop : List SysEvent} {final : LoopState} (hfd : ¬imagefd < 0)
      (hret : (parseMapped b args image calloc).ret = 0) (hbefore : ∀ ev ∈ before, IsPlain ev.1)
      (hloop : Run (updateLoop b fd image.toList 0 (operationsOf b args image calloc)
        initialLoopState) loop final) :
      UpdateCommandRun b fd args
        (mapEvents args imagefd fwSize image calloc ++ (before ++ loop)) (loopRet final)

theorem only_parseMessage {message : Option (String × String)} :
    Only IsMessage (parseMessage message) := by
  cases message with
  | none => trivial
  | some message => exact only_genericMessageRegistry

theorem run_updateImage {imagefd : Int} {fwSize : Nat} {image : Vector UInt8 fwSize} {ret : Int32}
    (hfd : ¬imagefd < 0)
    (h : Run (updateImage b fd image.toList fwSize args.versionStr args.retimerBitmap) tr ret) :
    UpdateCommandRun b fd args
      (⟨.openFile (textOf args.imageFilename) .rdonly, imagefd⟩ :: ⟨.fstat imagefd, some fwSize⟩
        :: ⟨.mmap imagefd fwSize, some image⟩ :: ⟨.close imagefd, ()⟩ :: tr) ret := by
  have hfail : ∀ {code : Int32} {tr : List SysEvent} {ret : Int32},
      Run (prepareMessageRegistry args.retimerBitmap "VerificationFailed" args.versionStr
        msgRegVerFollowedByDev critical none false >>= fun _ => pure code) tr ret →
        (∀ ev ∈ tr, IsMessage ev.1) ∧ ret = code := by
    intro code tr ret h
    obtain ⟨tr₁, _, tr₂, rfl, hmsg, h₁⟩ := run_bind.mp h
    obtain ⟨rfl, rfl⟩ := run_ret.mp h₁
    rw [List.append_nil]
    exact ⟨only_prepareMessageRegistry.run hmsg, rfl⟩
  obtain ⟨calloc, tr₁, rfl, h₁⟩ := run_perform_bind.mp h
  obtain ⟨msgs, _, tr₂, rfl, hparse, h₂⟩ := run_bind.mp h₁
  have hmsgs := only_parseMessage.run hparse
  have hall : ∀ {tr : List SysEvent}, (∀ ev ∈ tr, IsMessage ev.1) →
      ∀ ev ∈ msgs ++ tr, IsMessage ev.1 := fun htr ev hev =>
    (List.mem_append.mp hev).elim (hmsgs ev) (htr ev)
  have hperform : ∀ (ops : List UpdateOperation),
      (parseMapped b args image calloc).updateOps.getD [] = ops →
      (parseMapped b args image calloc).ret = 0 →
      Run (updateOperations b fd image.toList args.retimerBitmap ops) tr₂ ret →
      UpdateCommandRun b fd args (mapEvents args imagefd fwSize image calloc ++ (msgs ++ tr₂))
        ret := by
    intro ops hops hret h
    obtain ⟨before, loop, final, rfl, hbefore, hloop, rfl⟩ := run_updateOperations h
    rw [← List.append_assoc msgs]
    refine .performed hfd hret (fun ev hev => ?_) ?_
    · exact (List.mem_append.mp hev).elim (fun h => (hmsgs ev h).isPlain) (hbefore ev)
    · rw [operationsOf, hops]
      exact hloop
  split at h₂
  · next hret =>
      obtain ⟨hmsg, rfl⟩ := hfail h₂
      exact .rejected hfd hret (hall hmsg)
  · next hret =>
      have hret := not_not.mp hret
      split at h₂
      · next hops =>
          split at h₂
          · next hcount =>
              obtain ⟨hmsg, rfl⟩ := hfail h₂
              exact .missing hfd hret hops hcount (hall hmsg)
          · exact hperform [] (by rw [parseMapped, hops]; rfl) hret h₂
      · next ops hops => exact hperform ops (by rw [parseMapped, hops]; rfl) hret h₂

theorem run_updateCommand {res : Int32 × Int} (h : Run (updateCommand b fd args) tr res) :
    UpdateCommandRun b fd args tr res.1 := by
  have hfail : ∀ {message : String} {imagefd : Int} {tr : List SysEvent} {res : Int32 × Int},
      Run (fileUnavailable args.retimerBitmap message args.versionStr >>= fun _ =>
        pure ((0 : Int32), imagefd)) tr res → (∀ ev ∈ tr, IsMessage ev.1) ∧ res.1 = 0 := by
    intro message imagefd tr res h
    obtain ⟨tr₁, _, tr₂, rfl, hmsg, h₁⟩ := run_bind.mp h
    obtain ⟨rfl, rfl⟩ := run_ret.mp h₁
    rw [List.append_nil]
    exact ⟨only_prepareMessageRegistry.run hmsg, rfl⟩
  obtain ⟨imagefd, tr₁, rfl, h₁⟩ := run_perform_bind.mp h
  split at h₁
  · next hfd =>
      obtain ⟨hmsg, hret⟩ := hfail h₁
      rw [hret]
      exact .notOpened hfd hmsg
  · next hfd =>
      obtain ⟨size, tr₂, rfl, h₂⟩ := run_perform_bind.mp h₁
      cases size with
      | none =>
          obtain ⟨hmsg, hret⟩ := hfail h₂
          rw [hret]
          exact .noSize hfd hmsg
      | some fwSize =>
          obtain ⟨image, tr₃, rfl, h₃⟩ := run_perform_bind.mp h₂
          cases image with
          | none =>
              obtain ⟨hmsg, hret⟩ := hfail h₃
              rw [hret]
              exact .notMapped hfd hmsg
          | some image =>
              obtain ⟨_, tr₄, rfl, h₄⟩ := run_perform_bind.mp h₃
              obtain ⟨tr₅, ret, tr₆, rfl, himage, h₅⟩ := run_bind.mp h₄
              obtain ⟨rfl, rfl⟩ := run_ret.mp h₅
              rw [List.append_nil]
              exact run_updateImage hfd himage

def IsClose : Call → Prop
  | .close _ => True
  | _ => False

theorem IsClose.isPlain {c : Call} (h : IsClose c) : IsPlain c := by
  cases c with
  | close fd => trivial
  | _ => exact h.elim

theorem closes_closeUnless {fd : Int} : Only IsClose (closeUnless fd) :=
  Only.ite (only_perform.mpr trivial) trivial

/-- The complete runs of `main`, by how far they get. -/
inductive MainRun (b : Build) (fuel : Nat) (argv : List (List UInt8)) :
    List SysEvent → Option Int32 → Prop where
  | endless (hargs : checkArguments b fuel argv = none) : MainRun b fuel argv [] none
  | badArguments {code : Int32} (hargs : checkArguments b fuel argv = some (.error code)) :
      MainRun b fuel argv [] (some code)
  | noDevice {args : Arguments} {fd : Int} {rest : List SysEvent}
      (hargs : checkArguments b fuel argv = some (.ok args)) (hfd : fd < 0)
      (hrest : ∀ ev ∈ rest, IsClose ev.1) :
      MainRun b fuel argv (⟨.openFile ("/dev/i2c-" ++ toString args.bus) .rdwrNonblock, fd⟩ :: rest)
        (some (-errorOpenI2cDevice))
  | update {args : Arguments} {fd : Int} {tr rest : List SysEvent} {ret : Int32}
      (hargs : checkArguments b fuel argv = some (.ok args)) (hfd : ¬fd < 0)
      (hcommand : args.command = retimerFwUpdate) (hrun : UpdateCommandRun b fd args tr ret)
      (hrest : ∀ ev ∈ rest, IsClose ev.1) :
      MainRun b fuel argv (⟨.openFile ("/dev/i2c-" ++ toString args.bus) .rdwrNonblock, fd⟩
        :: (tr ++ rest)) (some ret)
  | read {args : Arguments} {fd : Int} {tr rest : List SysEvent} {res : Int32 × Int}
      (hargs : checkArguments b fuel argv = some (.ok args)) (hfd : ¬fd < 0)
      (hcommand : args.command = retimerFwRead) (hrun : Run (readCommand b fd args) tr res)
      (hrest : ∀ ev ∈ rest, IsClose ev.1) :
      MainRun b fuel argv (⟨.openFile ("/dev/i2c-" ++ toString args.bus) .rdwrNonblock, fd⟩
        :: (tr ++ rest)) (some res.1)
  | badCommand {args : Arguments} {fd : Int} {rest : List SysEvent}
      (hargs : checkArguments b fuel argv = some (.ok args)) (hfd : ¬fd < 0)
      (hupdate : args.command ≠ retimerFwUpdate) (hread : args.command ≠ retimerFwRead)
      (hrest : ∀ ev ∈ rest, IsClose ev.1) :
      MainRun b fuel argv (⟨.openFile ("/dev/i2c-" ++ toString args.bus) .rdwrNonblock, fd⟩ :: rest)
        (some (-errorInputArguments))

theorem run_main {fuel : Nat} {argv : List (List UInt8)} {res : Option Int32}
    (h : Run (main b fuel argv) tr res) : MainRun b fuel argv tr res := by
  unfold main at h
  split at h
  · next hargs =>
      obtain ⟨rfl, rfl⟩ := run_ret.mp h
      exact .endless hargs
  · next code hargs =>
      obtain ⟨rfl, rfl⟩ := run_ret.mp h
      exact .badArguments hargs
  · next args hargs =>
      obtain ⟨fd, tr₁, rfl, h₁⟩ := run_perform_bind.mp h
      split at h₁
      · next hfd =>
          obtain ⟨tr₂, _, tr₃, rfl, hclose, h₂⟩ := run_bind.mp h₁
          obtain ⟨rfl, rfl⟩ := run_ret.mp h₂
          rw [List.append_nil]
          exact .noDevice hargs hfd (closes_closeUnless.run hclose)
      · next hfd =>
          obtain ⟨tr₂, ⟨ret, imagefd, dummyfd⟩, tr₃, rfl, hcommand, h₂⟩ := run_bind.mp h₁
          dsimp only at h₂
          obtain ⟨rfl, hrest⟩ : res = some ret ∧ ∀ ev ∈ tr₃, IsClose ev.1 := by
            obtain ⟨c₁, _, _, rfl, hc₁, h₃⟩ := run_bind.mp h₂
            obtain ⟨c₂, _, _, rfl, hc₂, h₄⟩ := run_bind.mp h₃
            obtain ⟨c₃, _, _, rfl, hc₃, h₅⟩ := run_bind.mp h₄
            obtain ⟨rfl, rfl⟩ := run_ret.mp h₅
            refine ⟨rfl, fun ev hev => ?_⟩
            simp only [List.append_nil, List.mem_append] at hev
            rcases hev with hev | hev | hev
            · exact closes_closeUnless.run hc₁ ev hev
            · exact closes_closeUnless.run hc₂ ev hev
            · exact closes_closeUnless.run hc₃ ev hev
          unfold runCommand at hcommand
          split at hcommand
          · next hupdate =>
              obtain ⟨tr₄, ⟨ret', imagefd'⟩, tr₅, rfl, hrun, h₃⟩ := run_bind.mp hcommand
              obtain ⟨rfl, heq⟩ := run_ret.mp h₃
              cases heq
              rw [List.append_nil]
              exact .update hargs hfd hupdate (run_updateCommand hrun) hrest
          · next hupdate =>
              split at hcommand
              · next hread =>
                  obtain ⟨tr₄, ⟨ret', dummyfd'⟩, tr₅, rfl, hrun, h₃⟩ := run_bind.mp hcommand
                  obtain ⟨rfl, heq⟩ := run_ret.mp h₃
                  cases heq
                  rw [List.append_nil]
                  exact .read hargs hfd hread hrun hrest
              · next hread =>
                  obtain ⟨rfl, heq⟩ := run_ret.mp hcommand
                  cases heq
                  exact .badCommand hargs hfd hupdate hread hrest

/-- Operation number `uo` of the file that was mapped, as the run before it
began: the file was accepted, and `op` is what is left of the operation for the
retimers asked for. -/
def OperationOf (b : Build) (fuel : Nat) (argv : List (List UInt8)) (pre : List SysEvent)
    (uo : Nat) (op : UpdateOperation) : Prop :=
  ∃ args fd imagefd fwSize image calloc rest, checkArguments b fuel argv = some (.ok args)
    ∧ pre = ⟨.openFile ("/dev/i2c-" ++ toString args.bus) .rdwrNonblock, fd⟩
      :: (mapEvents args imagefd fwSize image calloc ++ rest)
    ∧ (parseMapped b args image calloc).ret = 0
    ∧ (operationsOf b args image calloc)[uo]? = some op

theorem OperationOf.unique {fuel : Nat} {argv : List (List UInt8)} {pre : List SysEvent} {uo : Nat}
    {op op' : UpdateOperation} (h : OperationOf b fuel argv pre uo op)
    (h' : OperationOf b fuel argv pre uo op') : op = op' := by
  obtain ⟨args, fd, imagefd, fwSize, image, calloc, rest, hargs, rfl, -, hop⟩ := h
  obtain ⟨args', fd', imagefd', fwSize', image', calloc', rest', hargs', heq, -, hop'⟩ := h'
  rw [hargs] at hargs'
  cases hargs'
  obtain ⟨-, hrest⟩ := List.cons.inj heq
  simp only [mapEvents, List.cons_append, List.cons.injEq] at hrest
  obtain ⟨-, -, hmmap, -, hcalloc, -⟩ := hrest
  cases hmmap
  cases hcalloc
  exact Option.some.inj (hop.symm.trans hop')

/-- What a part of a run is: an operation of the file, with the loop in the
state that the operations in front left. -/
structure OperationAt (b : Build) (fuel : Nat) (argv : List (List UInt8)) (pre : List SysEvent)
    (uo : Nat) (seg : List SysEvent) (op : UpdateOperation) (st : LoopState) : Prop where
  operation : OperationOf b fuel argv pre uo op
  before : ∃ fd image ops front body, pre = front ++ body ∧ (∀ ev ∈ front, IsPlain ev.1)
    ∧ Run (updateLoop b fd image 0 ops initialLoopState) body st
  body : ∃ fd image seg₁ extra st', seg = seg₁ ++ extra ∧ (∀ ev ∈ extra, IsClose ev.1)
    ∧ Run (performUpdate b fd image op st) seg₁ st'

theorem not_whole_of_plain {pre seg post : List SysEvent} {uo : Nat}
    (h : ∀ ev ∈ tr, IsPlain ev.1) : ¬WholeOperation tr pre uo seg post := by
  rintro ⟨rfl, -, -⟩
  exact (h ⟨.performing uo, ()⟩ (by simp)).elim

theorem plain_mapEvents {imagefd : Int} {fwSize : Nat} {image : Vector UInt8 fwSize}
    {calloc : Bool} : ∀ ev ∈ mapEvents args imagefd fwSize image calloc, IsPlain ev.1 := by
  intro ev hev
  simp only [mapEvents, List.mem_cons, List.not_mem_nil, or_false] at hev
  rcases hev with rfl | rfl | rfl | rfl | rfl <;> trivial

/-- Between its announcement and the next, a complete run of `main` goes
through the body of the loop for the operation announced. -/
theorem main_operation {fuel : Nat} {argv : List (List UInt8)} {res : Option Int32}
    {pre seg post : List SysEvent} {uo : Nat} (h : Run (main b fuel argv) tr res)
    (hwhole : WholeOperation tr pre uo seg post) :
    ∃ op st, OperationAt b fuel argv pre uo seg op st := by
  have hplain : ∀ {ev : SysEvent} {tr : List SysEvent}, IsPlain ev.1 → (∀ ev ∈ tr, IsPlain ev.1) →
      ∀ ev' ∈ ev :: tr, IsPlain ev'.1 := fun hev htr => List.forall_mem_cons.mpr ⟨hev, htr⟩
  have happend : ∀ {tr tr' : List SysEvent}, (∀ ev ∈ tr, IsPlain ev.1) →
      (∀ ev ∈ tr', IsPlain ev.1) → ∀ ev ∈ tr ++ tr', IsPlain ev.1 := fun htr htr' ev hev =>
    (List.mem_append.mp hev).elim (htr ev) (htr' ev)
  have hclose : ∀ {tr : List SysEvent}, (∀ ev ∈ tr, IsClose ev.1) → ∀ ev ∈ tr, IsPlain ev.1 :=
    fun htr ev hev => (htr ev hev).isPlain
  have hmsgs : ∀ {tr : List SysEvent}, (∀ ev ∈ tr, IsMessage ev.1) → ∀ ev ∈ tr, IsPlain ev.1 :=
    fun htr ev hev => (htr ev hev).isPlain
  cases run_main h with
  | endless hargs => exact absurd hwhole (not_whole_of_plain fun _ hev => nomatch hev)
  | badArguments hargs => exact absurd hwhole (not_whole_of_plain fun _ hev => nomatch hev)
  | noDevice hargs hfd hrest =>
      exact absurd hwhole (not_whole_of_plain (hplain trivial (hclose hrest)))
  | badCommand hargs hfd hupdate hread hrest =>
      exact absurd hwhole (not_whole_of_plain (hplain trivial (hclose hrest)))
  | read hargs hfd hcommand hrun hrest =>
      exact absurd hwhole
        (not_whole_of_plain (hplain trivial (happend (only_readCommand.run hrun) (hclose hrest))))
  | @update args fd _ rest _ hargs hfd hcommand hrun hrest =>
      cases hrun with
      | notOpened hfd hmsg => exact absurd hwhole (not_whole_of_plain
          (hplain trivial (happend (hplain trivial (hmsgs hmsg)) (hclose hrest))))
      | noSize hfd hmsg => exact absurd hwhole (not_whole_of_plain
          (hplain trivial (happend (hplain trivial (hplain trivial (hmsgs hmsg))) (hclose hrest))))
      | notMapped hfd hmsg => exact absurd hwhole (not_whole_of_plain (hplain trivial
          (happend (hplain trivial (hplain trivial (hplain trivial (hmsgs hmsg)))) (hclose hrest))))
      | rejected hfd hret hmsg => exact absurd hwhole (not_whole_of_plain
          (hplain trivial (happend (happend plain_mapEvents (hmsgs hmsg)) (hclose hrest))))
      | missing hfd hret hops hcount hmsg => exact absurd hwhole (not_whole_of_plain
          (hplain trivial (happend (happend plain_mapEvents (hmsgs hmsg)) (hclose hrest))))
      | @performed imagefd fwSize image calloc before loop final hfd hret hbefore hloop =>
          obtain ⟨hsplit, hseg, hpost⟩ := hwhole
          have hfront : ∀ ev ∈ (⟨.openFile ("/dev/i2c-" ++ toString args.bus) .rdwrNonblock, fd⟩ ::
              mapEvents args imagefd fwSize image calloc) ++ before, IsPlain ev.1 :=
            happend (hplain trivial plain_mapEvents) hbefore
          have hparts : (⟨.openFile ("/dev/i2c-" ++ toString args.bus) .rdwrNonblock, fd⟩ ::
              mapEvents args imagefd fwSize image calloc ++ before) ++ (loop ++ rest)
              = pre ++ ⟨.performing uo, ()⟩ :: (seg ++ post) := by
            rw [← hsplit]
            simp
          obtain ⟨pre', rfl, hafter⟩ := cut_after hparts fun hev =>
            (hfront _ hev).not_performing trivial
          obtain ⟨k, op, st₁, st₂, seg₁, extra, rfl, hop, hpre, rfl, hextra, hbody⟩ :=
            run_updateLoop_operation hloop (fun ev hev => (hrest ev hev).isPlain.not_performing)
              ⟨hafter, hseg, hpost⟩
          rw [Nat.zero_add] at hsplit ⊢
          refine ⟨op, st₁,
            ⟨args, fd, imagefd, fwSize, image, calloc, before ++ pre', hargs, ?_, hret, hop⟩,
            ⟨fd, image.toList, _, _, pre', rfl, hfront, hpre⟩,
            ⟨fd, image.toList, seg₁, extra, st₂, rfl, fun ev hev => hrest ev (hextra ev hev),
              hbody⟩⟩
          simp

end Main

end Retimer
