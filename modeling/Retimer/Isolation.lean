import Retimer.CompositeEncode
import Retimer.Outcomes
import Retimer.PageCopy
import Retimer.TwoRuns

/-!
# Operations that do not disturb each other

`main` attempts the operations of a file one after the other, each of
them once, and what it does for one depends on the answers it gets
during that one alone: `retimerNotUpdated`, which outlives an operation,
gets into messages and never into a transaction or a return code.

`EachAttempted` is the run as a list of operations with their events and
return codes (`OperationTrace`): one copy each, and one update if the
copy returned 0 (`Attempted`), in the order of the file, and no
transaction but theirs. It comes from the four ways of the body
(`attempted_of_operated`) by induction over the loop
(`attempted_updateLoop`), and `attempted_updateImage` and
`run_main_opened` take it up to `main`.

For two runs, `Attempted.same` compares the attempts of one operation:
answered alike they make the same transactions and have the same return
codes, by determinacy of the copy and of the update
(`run_startOperation_same`). The latter is where the variable that
outlives an operation comes in: `updateAttempts_ret` has the return code
be the same for any value of it. The operations in front may have gone
as differently as they like.
-/

namespace Retimer

open Interaction Interaction.Prog

/-- What was done for an operation: the events, and the return codes of its
copy and of its update, where there was one. -/
structure OperationTrace where
  events : List SysEvent
  copyRet : Option Int32
  startRet : Option Int32

/-- One copy, and one update if the copy returned 0; nothing for an operation
without targets. -/
inductive Attempted (b : Build) (fd : Int) (image : List UInt8) (op : UpdateOperation) :
    OperationTrace → Prop where
  | skipped (hempty : op.applyBitmap = 0) : Attempted b fd image op ⟨[], none, none⟩
  | notCopied {tr₁ tr₂ tr₃ : List SysEvent} {ret : Int32} (hbitmap : op.applyBitmap ≠ 0)
      (hannounce : Run (announceTransfer op) tr₁ ())
      (hcopy : Run (copyOperation b fd image op) tr₂ ret)
      (hret : ret ≠ 0) (hreport : ∀ ev ∈ tr₃, IsMessage ev.1) :
      Attempted b fd image op ⟨tr₁ ++ (tr₂ ++ tr₃), some ret, none⟩
  | started {tr₁ tr₂ tr₃ tr₄ : List SysEvent} {ret : Int32} {notUpdated notUpdated' : UInt8}
      (hbitmap : op.applyBitmap ≠ 0) (hannounce : Run (announceTransfer op) tr₁ ())
      (hcopy : Run (copyOperation b fd image op) tr₂ 0)
      (hstart : Run (startOperation b fd op notUpdated) tr₃ (ret, notUpdated'))
      (hreport : ∀ ev ∈ tr₄, IsMessage ev.1) :
      Attempted b fd image op ⟨tr₁ ++ (tr₂ ++ (tr₃ ++ tr₄)), some 0, some ret⟩

/-- The operations from `uo` on, each behind its announcement. -/
def announced : Nat → List OperationTrace → List SysEvent
  | _, [] => []
  | uo, t :: ts => ⟨.performing uo, ()⟩ :: (t.events ++ announced (uo + 1) ts)

/-- The operations were attempted in their order, each of them once, and no
transaction was made but for them. -/
structure EachAttempted (b : Build) (fd : Int) (image : List UInt8) (ops : List UpdateOperation)
    (tr : List SysEvent) (ts : List OperationTrace) : Prop where
  split : ∃ front back, tr = front ++ (announced 0 ts ++ back)
    ∧ (∀ ev ∈ front, ¬IsTransaction ev.1) ∧ ∀ ev ∈ back, ¬IsTransaction ev.1
  each : List.Forall₂ (Attempted b fd image) ops ts

section Attempts

variable {b : Build} {fd : Int} {image : List UInt8} {op : UpdateOperation} {st st' : LoopState}
  {tr : List SysEvent}

theorem attempted_of_operated (h : Operated b fd image op st tr st') :
    ∃ t, t.events = tr ∧ Attempted b fd image op t := by
  cases h with
  | skipped hempty => exact ⟨_, rfl, .skipped hempty⟩
  | notCopied hbitmap hannounce hcopy hret hreport =>
      exact ⟨_, rfl, .notCopied hbitmap hannounce hcopy hret
        (only_prepareMessageRegistry.run hreport)⟩
  | refused hbitmap hannounce hcopy hstart hret hreport =>
      exact ⟨_, rfl, .started hbitmap hannounce hcopy hstart (only_reportApplyFailed.run hreport)⟩
  | updated hbitmap hannounce hcopy hstart hreport =>
      exact ⟨_, rfl, .started hbitmap hannounce hcopy hstart
        (only_reportUpdateSuccessful.run hreport)⟩

theorem attempted_updateLoop {uo : Nat} {ops : List UpdateOperation}
    (h : Run (updateLoop b fd image uo ops st) tr st') :
    ∃ ts, tr = announced uo ts ∧ List.Forall₂ (Attempted b fd image) ops ts := by
  induction ops generalizing uo st tr with
  | nil =>
      obtain ⟨rfl, -⟩ := run_ret.mp h
      exact ⟨[], rfl, .nil⟩
  | cons op ops ih =>
      obtain ⟨seg, st₁, tr', rfl, hbody, hrest⟩ := run_updateLoop_cons h
      obtain ⟨t, rfl, ht⟩ := attempted_of_operated (run_performUpdate hbody)
      obtain ⟨ts, rfl, hts⟩ := ih hrest
      exact ⟨t :: ts, rfl, .cons ht hts⟩

/-! ## What outlives an operation -/

/-- The return code of an update does not depend on the bitmap that the
operation before has left. -/
theorem updateAttempts_ret {versionStr : List UInt8} {attempts : Nat}
    {retimerNumber retimerNotUpdated retimerNotUpdated' : UInt8} {ret : Int32} :
    (updateAttempts b fd versionStr attempts retimerNumber ret retimerNotUpdated
        >>= fun res => pure res.1)
      = updateAttempts b fd versionStr attempts retimerNumber ret retimerNotUpdated'
        >>= fun res => pure res.1 := by
  cases attempts with
  | zero => rfl
  | succ attempts =>
      simp only [updateAttempts, bind_assoc]
      congr 1
      funext ret
      split
      · rfl
      · simp only [bind_assoc]
        congr 1
        funext res
        obtain ⟨ret, word⟩ := res
        dsimp only
        split
        · rfl
        · split
          · rfl
          · simp only [bind_assoc]
            congr 1
            funext res
            congr 1
            funext extended
            split <;> rfl

/-- The transactions and the return code of an update do not depend on what is
left of the operations in front. -/
theorem run_startOperation_same {notUpdated₁ notUpdated₁' notUpdated₂ notUpdated₂' : UInt8}
    {tr' post post' : List SysEvent} {ret ret' : Int32}
    (h : Run (startOperation b fd op notUpdated₁) tr (ret, notUpdated₂))
    (h' : Run (startOperation b fd op notUpdated₁') tr' (ret', notUpdated₂'))
    (halike : AnsweredAlike (· = ·) (· = ·) (tr ++ post) (tr' ++ post')) :
    tr = tr' ∧ ret = ret' := by
  have hret : ∀ {notUpdated notUpdated' : UInt8} {tr : List SysEvent} {ret : Int32},
      Run (startOperation b fd op notUpdated) tr (ret, notUpdated') →
      Run (startOperation b fd op notUpdated₁ >>= fun res => pure res.1) tr ret := by
    intro notUpdated notUpdated' tr ret h
    have hrun : Run (startOperation b fd op notUpdated >>= fun res => pure res.1) tr ret :=
      run_bind.mpr ⟨tr, _, [], (List.append_nil tr).symm, h, run_ret.mpr ⟨rfl, rfl⟩⟩
    rw [startOperation, startRetimerFwUpdate, updateAttempts_ret] at hrun
    exact hrun
  obtain ⟨htr, heq, -⟩ := run_same (hret h) (hret h') halike
  exact ⟨htr, heq⟩

/-- Two attempts of one operation that are answered alike make the same
transactions and return the same. The three ways to attempt it are told apart by
the events, so the two go the same way. -/
theorem Attempted.same {t t' : OperationTrace} (h : Attempted b fd image op t)
    (h' : Attempted b fd image op t') (halike : AnsweredAlike (· = ·) (· = ·) t.events t'.events) :
    transactions t.events = transactions t'.events ∧ t.copyRet = t'.copyRet
      ∧ t.startRet = t'.startRet := by
  cases h with
  | skipped hempty =>
      cases h' with
      | skipped => exact ⟨rfl, rfl, rfl⟩
      | notCopied hbitmap => exact absurd hempty hbitmap
      | started hbitmap => exact absurd hempty hbitmap
  | notCopied hbitmap hannounce hcopy hret hreport =>
      cases h' with
      | skipped hempty => exact absurd hempty hbitmap
      | notCopied _ hannounce' hcopy' hret' hreport' =>
          obtain ⟨rfl, -, hrest⟩ := run_same hannounce hannounce' halike
          obtain ⟨rfl, rfl, -⟩ := run_same hcopy hcopy' hrest
          refine ⟨?_, rfl, rfl⟩
          simp only [transactions_append, transactions_of_messages hreport,
            transactions_of_messages hreport']
      | started _ hannounce' hcopy' hstart' hreport' =>
          obtain ⟨rfl, -, hrest⟩ := run_same hannounce hannounce' halike
          exact absurd (run_same hcopy hcopy' hrest).2.1 hret
  | started hbitmap hannounce hcopy hstart hreport =>
      cases h' with
      | skipped hempty => exact absurd hempty hbitmap
      | notCopied _ hannounce' hcopy' hret' hreport' =>
          obtain ⟨rfl, -, hrest⟩ := run_same hannounce hannounce' halike
          exact absurd (run_same hcopy hcopy' hrest).2.1.symm hret'
      | started _ hannounce' hcopy' hstart' hreport' =>
          obtain ⟨rfl, -, hrest⟩ := run_same hannounce hannounce' halike
          obtain ⟨rfl, -, hrest⟩ := run_same hcopy hcopy' hrest
          obtain ⟨rfl, rfl⟩ := run_startOperation_same hstart hstart' hrest
          refine ⟨?_, rfl, rfl⟩
          simp only [transactions_append, transactions_of_messages hreport,
            transactions_of_messages hreport']

end Attempts

/-! ## `main` -/

theorem IsClose.not_transaction {c : Call} (h : IsClose c) : ¬IsTransaction c := by
  cases c with
  | close fd => exact id
  | _ => exact h.elim

section Main

variable {b : Build} {fd imagefd : Int} {args : Arguments} {fwSize : Nat}
  {image : Vector UInt8 fwSize} {calloc : Bool} {ops : List UpdateOperation} {tr : List SysEvent}

/-- The answers by which `main` gets to the operations of a file. -/
def openedWith (args : Arguments) (fd imagefd : Int) (fwSize : Nat) (image : Vector UInt8 fwSize)
    (calloc : Bool) : List SysEvent :=
  ⟨.openFile ("/dev/i2c-" ++ toString args.bus) .rdwrNonblock, fd⟩
    :: mapEvents args imagefd fwSize image calloc

theorem attempted_updateOperations {retimerToUpdate : UInt8} {bytes : List UInt8} {ret : Int32}
    (h : Run (updateOperations b fd bytes retimerToUpdate ops) tr ret) :
    ∃ ts, EachAttempted b fd bytes (ops.map (·.targeted retimerToUpdate)) tr ts := by
  obtain ⟨before, ops', tr', rfl, hfilter, h₁⟩ := run_bind.mp h
  obtain ⟨loop, final, tr'', rfl, hloop, h₂⟩ := run_bind.mp h₁
  obtain ⟨rfl, rfl⟩ := run_ret.mp h₂
  obtain rfl := run_filterTargets hfilter
  obtain ⟨ts, rfl, hts⟩ := attempted_updateLoop hloop
  refine ⟨ts, ⟨before, [], rfl, fun ev hev => ?_, fun ev hev => absurd hev List.not_mem_nil⟩, hts⟩
  exact (only_filterTargets.run hfilter ev hev).not_transaction

theorem attempted_updateImage {ret : Int32}
    (h : Run (updateImage b fd image.toList fwSize args.versionStr args.retimerBitmap)
      (⟨.calloc, calloc⟩ :: tr) ret)
    (hret : (parseMapped b args image calloc).ret = 0)
    (hops : (parseMapped b args image calloc).updateOps = some ops) :
    ∃ ts, EachAttempted b fd image.toList (ops.map (·.targeted args.retimerBitmap)) tr ts := by
  obtain ⟨calloc', tr₁, heq, h₁⟩ := run_perform_bind.mp h
  obtain ⟨hev, rfl⟩ := List.cons.inj heq
  cases hev
  obtain ⟨msgs, _, tr₂, rfl, hparse, h₂⟩ := run_bind.mp h₁
  have hmsgs := only_parseMessage.run hparse
  rw [parseMapped] at hret hops
  rw [if_neg (not_not.mpr hret), hops] at h₂
  obtain ⟨ts, ⟨front, back, rfl, hfront, hback⟩, hts⟩ := attempted_updateOperations h₂
  refine ⟨ts, ⟨msgs ++ front, back, (List.append_assoc _ _ _).symm, fun ev hev => ?_, hback⟩, hts⟩
  exact (List.mem_append.mp hev).elim (fun h => (hmsgs ev h).not_transaction) (hfront ev)

theorem run_updateCommand_mapped {res : Int32 × Int} {rest tr' : List SysEvent}
    (h : Run (updateCommand b fd args) tr' res) (hrest : ∀ ev ∈ rest, IsClose ev.1)
    (heq : mapEvents args imagefd fwSize image calloc ++ tr = tr' ++ rest) :
    ∃ ret tr₁, tr = tr₁ ++ rest
      ∧ Run (updateImage b fd image.toList fwSize args.versionStr args.retimerBitmap)
        (⟨.calloc, calloc⟩ :: tr₁) ret := by
  -- after a failure there are only messages, and then the closes
  have hfailed : ∀ {message : String} {code : Int32 × Int} {c : Call} {a : Answer c}
      {tr tr' : List SysEvent} {res : Int32 × Int}, Run (fileUnavailable args.retimerBitmap message
        args.versionStr >>= fun _ => pure code) tr' res → ⟨c, a⟩ :: tr = tr' ++ rest →
      IsMessage c ∨ IsClose c := by
    intro message code c a tr tr' res h heq
    obtain ⟨msgs, _, tr₁, rfl, hmsgs, h₁⟩ := run_bind.mp h
    obtain ⟨rfl, -⟩ := run_ret.mp h₁
    have hmem : (⟨c, a⟩ : SysEvent) ∈ msgs ++ [] ++ rest := heq ▸ List.mem_cons_self
    rw [List.append_nil] at hmem
    exact (List.mem_append.mp hmem).imp (only_prepareMessageRegistry.run hmsgs ⟨c, a⟩)
      (hrest ⟨c, a⟩)
  obtain ⟨imagefd', tr₁, rfl, h₁⟩ := run_perform_bind.mp h
  obtain ⟨hev, htr₁⟩ := List.cons.inj heq
  obtain rfl := eq_of_heq (Sigma.mk.inj hev).2
  split at h₁
  · exact absurd (hfailed h₁ htr₁) (by simp [IsMessage, IsClose])
  · obtain ⟨size, tr₂, rfl, h₂⟩ := run_perform_bind.mp h₁
    obtain ⟨hev, htr₂⟩ := List.cons.inj htr₁
    obtain rfl := eq_of_heq (Sigma.mk.inj hev).2
    obtain ⟨mapped, tr₃, rfl, h₃⟩ := run_perform_bind.mp h₂
    obtain ⟨hev, htr₃⟩ := List.cons.inj htr₂
    obtain rfl := eq_of_heq (Sigma.mk.inj hev).2
    obtain ⟨_, tr₄, rfl, h₄⟩ := run_perform_bind.mp h₃
    obtain ⟨-, htr₄⟩ := List.cons.inj htr₃
    obtain ⟨tr₅, ret, tr₆, rfl, h₅, h₆⟩ := run_bind.mp h₄
    obtain ⟨rfl, -⟩ := run_ret.mp h₆
    rw [List.append_nil] at htr₄
    obtain ⟨calloc', tr₇, rfl, -⟩ := run_perform_bind.mp h₅
    obtain ⟨hev, htr₇⟩ := List.cons.inj htr₄
    obtain rfl := eq_of_heq (Sigma.mk.inj hev).2
    exact ⟨ret, tr₇, htr₇, h₅⟩

theorem run_main_opened {fuel : Nat} {argv : List (List UInt8)} {res : Option Int32}
    (hargs : checkArguments b fuel argv = some (.ok args))
    (hcommand : args.command = retimerFwUpdate)
    (h : Run (main b fuel argv) (openedWith args fd imagefd fwSize image calloc ++ tr) res) :
    ∃ ret tr₁ tr₂, tr = tr₁ ++ tr₂ ∧ (∀ ev ∈ tr₂, IsClose ev.1)
      ∧ Run (updateImage b fd image.toList fwSize args.versionStr args.retimerBitmap)
        (⟨.calloc, calloc⟩ :: tr₁) ret := by
  unfold main at h
  rw [hargs] at h
  obtain ⟨fd', tr₁, heq, h₁⟩ := run_perform_bind.mp h
  obtain ⟨hev, rfl⟩ := List.cons.inj heq
  obtain rfl := eq_of_heq (Sigma.mk.inj hev).2
  split at h₁
  · have hclose := (closes_closeUnless.bind fun _ => only_ret).run h₁
    exact (hclose _ List.mem_cons_self).elim
  · obtain ⟨tr₂, ⟨ret, imagefd', dummyfd⟩, rest, hsplit, hrun, h₂⟩ := run_bind.mp h₁
    have hclose := (closes_closeUnless.bind fun _ => closes_closeUnless.bind fun _ =>
      closes_closeUnless.bind fun _ => only_ret).run h₂
    rw [runCommand, if_pos hcommand] at hrun
    obtain ⟨tr₃, res', tr₄, rfl, hupdate, h₃⟩ := run_bind.mp hrun
    obtain ⟨rfl, -⟩ := run_ret.mp h₃
    rw [List.append_nil] at hsplit
    obtain ⟨ret', tr₅, rfl, himage⟩ := run_updateCommand_mapped hupdate hclose hsplit
    exact ⟨ret', tr₅, rest, rfl, hclose, himage⟩

theorem EachAttempted.append {bytes : List UInt8} {ts : List OperationTrace} {tr' : List SysEvent}
    (h : EachAttempted b fd bytes ops tr ts) (htr' : ∀ ev ∈ tr', IsClose ev.1) :
    EachAttempted b fd bytes ops (tr ++ tr') ts := by
  obtain ⟨⟨front, back, rfl, hfront, hback⟩, heach⟩ := h
  refine ⟨⟨front, back ++ tr', by simp only [List.append_assoc], hfront, fun ev hev => ?_⟩, heach⟩
  exact (List.mem_append.mp hev).elim (hback ev) fun h => (htr' ev h).not_transaction

/-- The two attempts of operation `j`. -/
theorem EachAttempted.same {bytes : List UInt8} {ts ts' : List OperationTrace} {tr' : List SysEvent}
    {j : Nat} {t t' : OperationTrace} (h : EachAttempted b fd bytes ops tr ts)
    (h' : EachAttempted b fd bytes ops tr' ts') (ht : ts[j]? = some t) (ht' : ts'[j]? = some t')
    (halike : AnsweredAlike (· = ·) (· = ·) t.events t'.events) :
    transactions t.events = transactions t'.events ∧ t.copyRet = t'.copyRet
      ∧ t.startRet = t'.startRet := by
  obtain ⟨hj, rfl⟩ := List.getElem?_eq_some_iff.mp ht
  obtain ⟨hj', rfl⟩ := List.getElem?_eq_some_iff.mp ht'
  have hlt : j < ops.length := h.each.length_eq ▸ hj
  exact (h.each.get hlt hj).same (h'.each.get hlt hj') halike

end Main

/-- **Isolation.** The operations of a file are attempted in their order, each
of them once, and two runs on the same file make the same transactions for an
operation, with the same return codes, where they get the same answers during
that operation. Of the answers during other operations nothing is assumed. -/
theorem main_isolates_operations (b : Build) (fuel : Nat) (argv : List (List UInt8))
    (args : Arguments) (fd imagefd imagefd' : Int) (fwSize : Nat) (image : Vector UInt8 fwSize)
    (calloc : Bool) (ops : List UpdateOperation) (tr tr' : List SysEvent) (res res' : Option Int32)
    (hargs : checkArguments b fuel argv = some (.ok args))
    (hcommand : args.command = retimerFwUpdate)
    (hret : (parseMapped b args image calloc).ret = 0)
    (hops : (parseMapped b args image calloc).updateOps = some ops)
    (h : Run (main b fuel argv) (openedWith args fd imagefd fwSize image calloc ++ tr) res)
    (h' : Run (main b fuel argv) (openedWith args fd imagefd' fwSize image calloc ++ tr') res') :
    ∃ ts ts' : List OperationTrace,
      EachAttempted b fd image.toList (ops.map (·.targeted args.retimerBitmap)) tr ts
      ∧ EachAttempted b fd image.toList (ops.map (·.targeted args.retimerBitmap)) tr' ts'
      ∧ ∀ (j : Nat) (t t' : OperationTrace), ts[j]? = some t → ts'[j]? = some t' →
        AnsweredAlike (· = ·) (· = ·) t.events t'.events →
        transactions t.events = transactions t'.events ∧ t.copyRet = t'.copyRet
          ∧ t.startRet = t'.startRet := by
  obtain ⟨ret, tr₁, tr₂, rfl, hclose, himage⟩ := run_main_opened hargs hcommand h
  obtain ⟨ret', tr₁', tr₂', rfl, hclose', himage'⟩ := run_main_opened hargs hcommand h'
  obtain ⟨ts, hts⟩ := attempted_updateImage himage hret hops
  obtain ⟨ts', hts'⟩ := attempted_updateImage himage' hret hops
  exact ⟨ts, ts', hts.append hclose, hts'.append hclose', fun j t t' => hts.same hts'⟩

section Small

def workingRun : List SysEvent × Sys (Option Int32) × Unit :=
  play (fun _ c => (c.succeed [1, 2, 3]).map (·, ())) 60 () (main defaultBuild 10 smallArgv)

/-- `updateRetimerFw 3 <targets> f 0` -/
def targetArgv (targets : UInt8) : List (List UInt8) :=
  [[], [0x33], [0x30 + targets], [0x66], [0x30]]

def targetArguments (targets : UInt8) : Arguments := ⟨3, targets, [0x66], 0, defaultVersion⟩

def pairImage : Vector UInt8 pairPackage.encode.length := ⟨pairPackage.encode.toArray, rfl⟩

def pairRun : List SysEvent × Sys (Option Int32) × Unit :=
  play (fun _ c => (c.succeed pairPackage.encode).map (·, ())) 80 ()
    (main defaultBuild 10 (targetArgv 7))

/-- Nothing fails but the triggers of the first operation. -/
def firstRefusedReply (_ : Unit) : (c : Call) → Option (Answer c × Unit)
  | .i2cWrite fd slaveId writeData =>
      some (if IsTrigger defaultBuild (.i2cWrite fd slaveId writeData)
          ∧ (payloadOf writeData).head? = some 3 then .failed 6
        else .ok (Vector.replicate 0 0), ())
  | c => (c.succeed pairPackage.encode).map (·, ())

def firstRefusedRun : List SysEvent × Sys (Option Int32) × Unit :=
  play firstRefusedReply 120 () (main defaultBuild 10 (targetArgv 7))

/-- Both runs open and map the file in the same way. -/
theorem run_of_opened {run : List SysEvent × Sys (Option Int32) × Unit} {ret : Int32}
    (hopened : openedWith (targetArguments 7) 3 3 pairPackage.encode.length pairImage true
      = run.1.take 6)
    (h : Run (main defaultBuild 10 (targetArgv 7)) run.1 (some ret)) :
    Run (main defaultBuild 10 (targetArgv 7))
      (openedWith (targetArguments 7) 3 3 pairPackage.encode.length pairImage true
        ++ run.1.drop 6) (some ret) := by
  rwa [hopened, List.take_append_drop]

set_option maxRecDepth 4000 in
theorem run_pairRun : Run (main defaultBuild 10 (targetArgv 7))
    (openedWith (targetArguments 7) 3 3 pairPackage.encode.length pairImage true
      ++ pairRun.1.drop 6) (some 0) :=
  run_of_opened rfl (run_play rfl)

set_option maxRecDepth 4000 in
theorem run_firstRefusedRun : Run (main defaultBuild 10 (targetArgv 7))
    (openedWith (targetArguments 7) 3 3 pairPackage.encode.length pairImage true
      ++ firstRefusedRun.1.drop 6) (some (-110)) :=
  run_of_opened rfl (run_play rfl)

theorem main_isolates_operations_pair : ∃ ts ts' : List OperationTrace,
    EachAttempted defaultBuild 3 pairImage.toList
      (pairOperations.map (·.targeted 7)) (pairRun.1.drop 6) ts
    ∧ EachAttempted defaultBuild 3 pairImage.toList
      (pairOperations.map (·.targeted 7)) (firstRefusedRun.1.drop 6) ts'
    ∧ ∀ (j : Nat) (t t' : OperationTrace), ts[j]? = some t → ts'[j]? = some t' →
      AnsweredAlike (· = ·) (· = ·) t.events t'.events →
      transactions t.events = transactions t'.events ∧ t.copyRet = t'.copyRet
        ∧ t.startRet = t'.startRet :=
  main_isolates_operations defaultBuild 10 (targetArgv 7) (targetArguments 7) 3 3 3
    pairPackage.encode.length pairImage true pairOperations (pairRun.1.drop 6)
    (firstRefusedRun.1.drop 6) (some 0) (some (-110)) rfl rfl (parse_pairPackage _).1
    (parse_pairPackage _).2 run_pairRun run_firstRefusedRun

end Small

end Retimer
