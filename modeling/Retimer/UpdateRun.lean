import Retimer.CompositeSound
import Retimer.Requests
import Retimer.UpdateMain

/-!
# Runs of `updateRetimerFw`, by operation

The update loop announces each operation before it works on it, so
whatever it does next is done for the operation announced last
(`InOperation`). The announcement determines the operation and its
events (`InOperation.unique`), and nothing inside an operation announces
another one (`only_performUpdate`).

`updateLoop_trace` is the induction over the operations: an event of the
loop that is no announcement is an event of `performUpdate` for the
operation announced last, with the loop in some state. From there it
goes up through the commands, `updateOperations_trigger`,
`updateImage_trigger` and `updateCommand_trigger`, each of which places
the event in the one part of its function that can make it;
`main_trigger` is the result for a write to the update register anywhere
in a run of `main`, whether the run has come to its end or not.

What is known of the operation is `DoneFor`: the arguments that were
accepted, its number, the operation as the parser gave it
(`operationsFor`), and the part of the run since its start. The answers
about the file are those of one file (`ServesImage`), so that what the
parser saw is that file.
-/

namespace Retimer

open Interaction Interaction.Prog

/-- The run is in operation `uo`, with the events `seg` since its start. -/
def InOperation (tr : List SysEvent) (uo : Nat) (seg : List SysEvent) : Prop :=
  (∃ pre, tr = pre ++ ⟨.performing uo, ()⟩ :: seg) ∧ ∀ ev ∈ seg, ¬IsPerforming ev.1

theorem InOperation.unique {tr seg seg' : List SysEvent} {uo uo' : Nat}
    (h : InOperation tr uo seg) (h' : InOperation tr uo' seg') : uo = uo' ∧ seg = seg' := by
  obtain ⟨⟨pre, rfl⟩, hseg⟩ := h
  obtain ⟨⟨pre', heq⟩, hseg'⟩ := h'
  rcases List.append_eq_append_iff.mp heq with ⟨cs, rfl, hcs⟩ | ⟨cs, rfl, hcs⟩
  · cases cs with
    | nil =>
        obtain ⟨hev, rfl⟩ := List.cons.inj hcs
        cases hev
        exact ⟨rfl, rfl⟩
    | cons ev cs =>
        obtain ⟨-, rfl⟩ := List.cons.inj hcs
        exact absurd trivial (hseg ⟨.performing uo', ()⟩ (by simp))
  · cases cs with
    | nil =>
        obtain ⟨hev, rfl⟩ := List.cons.inj hcs
        cases hev
        exact ⟨rfl, rfl⟩
    | cons ev cs =>
        obtain ⟨-, rfl⟩ := List.cons.inj hcs
        exact absurd trivial (hseg' ⟨.performing uo, ()⟩ (by simp))

/-! ## The loops over the operations -/

def UpdateOperation.targeted (op : UpdateOperation) (retimerToUpdate : UInt8) : UpdateOperation :=
  { op with applyBitmap := op.applyBitmap &&& retimerToUpdate.toUInt32 }

theorem only_filterTargets {retimerToUpdate : UInt8} {ops : List UpdateOperation} :
    Only IsMessage (filterTargets retimerToUpdate ops) := by
  induction ops with
  | nil => trivial
  | cons op ops ih =>
      exact only_prepareMessageRegistry.bind fun _ => ih.bind fun _ => trivial

theorem run_filterTargets {retimerToUpdate : UInt8} {ops res : List UpdateOperation}
    {tr : List SysEvent} (h : Run (filterTargets retimerToUpdate ops) tr res) :
    res = ops.map (·.targeted retimerToUpdate) := by
  induction ops generalizing res tr with
  | nil => exact (run_ret.mp h).2
  | cons op ops ih =>
      obtain ⟨_, _, _, _, _, h⟩ := run_bind.mp h
      obtain ⟨_, rest, _, _, hrest, h⟩ := run_bind.mp h
      rw [(run_ret.mp h).2, ih hrest]
      rfl

section Operation

variable {b : Build} {fd : Int} {image : List UInt8} {op : UpdateOperation} {st : LoopState}

theorem only_reportApplyFailed {retimerNotUpdated : UInt8} :
    Only IsMessage (reportApplyFailed op retimerNotUpdated) := by
  unfold reportApplyFailed
  refine only_prepareMessageRegistry.bind fun _ => Only.ite ?_ trivial
  exact only_prepareMessageRegistry.bind fun _ => only_prepareMessageRegistry

theorem only_reportUpdateSuccessful : Only IsMessage (reportUpdateSuccessful op) :=
  only_prepareMessageRegistry.bind fun _ => only_prepareMessageRegistry

theorem only_performing {P : Call → Prop} (hmsg : ∀ c, IsMessage c → P c)
    (hstaging : ∀ c, IsStaging c → P c) (htrying : ∀ c, IsTrying c → P c) :
    Only P (performUpdate b fd image op st) := by
  unfold performUpdate
  refine Only.ite trivial ((only_prepareMessageRegistry.mono hmsg).bind fun _ => ?_)
  refine (only_staging.mono hstaging).bind fun _ => ?_
  refine Only.ite ((only_prepareMessageRegistry.mono hmsg).bind fun _ => trivial) ?_
  refine (only_trying.mono htrying).bind fun _ => ?_
  refine Only.ite ((only_reportApplyFailed.mono hmsg).bind fun _ => trivial) ?_
  exact (only_reportUpdateSuccessful.mono hmsg).bind fun _ => trivial

theorem only_performUpdate : Only (fun c => ¬IsPerforming c) (performUpdate b fd image op st) :=
  only_performing (fun _ h => h.isPlain.not_performing) (fun _ h => h.isPlain.not_performing)
    fun _ h => h.isUpdating.not_performing

end Operation

/-- Every event of the loop but the announcements belongs to the operation
announced last. -/
theorem updateLoop_trace {b : Build} {fd : Int} {image : List UInt8} {uo : Nat}
    {ops : List UpdateOperation} {st : LoopState} {tr : List SysEvent} {ev : SysEvent}
    {q : Sys LoopState} (h : Trace (updateLoop b fd image uo ops st) (tr ++ [ev]) q)
    (hev : ¬IsPerforming ev.1) :
    ∃ i op st' seg q', InOperation tr (uo + i) seg ∧ ops[i]? = some op
      ∧ Trace (performUpdate b fd image op st') (seg ++ [ev]) q' := by
  induction ops generalizing uo st tr with
  | nil => simp [updateLoop, trace_ret] at h
  | cons op ops ih =>
      have here : ∀ seg q', tr = ⟨.performing uo, ()⟩ :: seg →
          Trace (performUpdate b fd image op st) (seg ++ [ev]) q' →
          ∃ i op' st' seg q', InOperation tr (uo + i) seg ∧ (op :: ops)[i]? = some op'
            ∧ Trace (performUpdate b fd image op' st') (seg ++ [ev]) q' := by
        intro seg q' htr hseg
        refine ⟨0, op, st, seg, q', ⟨⟨[], htr⟩, ?_⟩, rfl, hseg⟩
        have hall := (only_performUpdate.trace hseg).1
        exact fun e he => hall e (List.mem_append_left _ he)
      rw [updateLoop] at h
      cases tr with
      | nil =>
          rcases trace_perform_bind.mp h with ⟨hnil, -⟩ | ⟨r, tr', heq, -⟩
          · simp at hnil
          · obtain ⟨rfl, -⟩ := List.cons.inj heq
            exact absurd trivial hev
      | cons ev' tr =>
          rcases trace_perform_bind.mp h with ⟨hnil, -⟩ | ⟨r, tr', heq, h⟩
          · simp at hnil
          · obtain ⟨rfl, rfl⟩ := List.cons.inj heq
            rcases trace_bind.mp h with ⟨p', h1, -⟩ | ⟨tr₁, st₁, tr₂, heq, h1, h2⟩
            · exact here tr p' rfl h1
            · rcases List.eq_nil_or_concat tr₂ with rfl | ⟨tr₂, ev'', rfl⟩
              · rw [List.append_nil] at heq
                exact here tr _ rfl (heq ▸ h1)
              · rw [List.concat_eq_append] at heq h2
                obtain ⟨rfl, hlast⟩ := List.append_inj'
                  (heq.trans (List.append_assoc _ _ _).symm) rfl
                obtain rfl := (List.cons.inj hlast).1
                obtain ⟨i, op', st', seg, q', ⟨⟨pre, rfl⟩, hseg⟩, hop, hbody⟩ := ih h2
                refine ⟨i + 1, op', st', seg, q', ⟨⟨⟨.performing uo, r⟩ :: tr₁ ++ pre, ?_⟩, hseg⟩,
                  by simpa using hop, hbody⟩
                rw [Nat.add_right_comm, Nat.add_assoc]
                simp

/-! ## `main` -/

/-- The answers about the image file are those of a file with contents
`file`. -/
def ServesImage (file : List UInt8) : SysEvent → Prop
  | ⟨.fstat _, some size⟩ => size = file.length
  | ⟨.mmap _ _, some image⟩ => image.toList = file
  | _ => True

instance (file : List UInt8) : DecidablePred (ServesImage file)
  | ⟨.fstat _, some size⟩ => inferInstanceAs (Decidable (size = file.length))
  | ⟨.mmap _ _, some image⟩ => inferInstanceAs (Decidable (image.toList = file))
  | ⟨.fstat _, none⟩ | ⟨.mmap _ _, none⟩ | ⟨.i2cWrite _ _ _, _⟩ | ⟨.i2cRead _ _ _ _, _⟩
  | ⟨.emitLogMessage _, _⟩ | ⟨.performing _, _⟩ | ⟨.openFile _ _, _⟩ | ⟨.close _, _⟩
  | ⟨.ftruncate _ _, _⟩ | ⟨.calloc, _⟩ | ⟨.malloc _, _⟩ | ⟨.read _ _, _⟩ | ⟨.write _ _, _⟩
  | ⟨.lseek _ _, _⟩ | ⟨.access _, _⟩ | ⟨.mkdir _, _⟩ | ⟨.unlink _, _⟩ | ⟨.evpMdCtxNew, _⟩
  | ⟨.evpDigestInit, _⟩ | ⟨.evpDigestUpdate _, _⟩ | ⟨.evpDigestFinal, _⟩ | ⟨.evpMdCtxFree, _⟩
  | ⟨.sdBusMessageRead, _⟩ | ⟨.sdBusReplyMethodReturn, _⟩ | ⟨.sdBusReplyInvalidArgument, _⟩
  | ⟨.sdBusEmitPropertiesChanged _, _⟩ => isTrue trivial

/-- The parser can only give operations when its `calloc` succeeds. -/
theorem calloc_of_updateOps (b : Build) {image : List UInt8} {fwSize : Nat}
    (hsize : fwSize < 2 ^ 31) {pldmVersionStr : List UInt8} {calloc : Bool}
    {ops : List UpdateOperation}
    (h : (parseCompositeImage b image fwSize pldmVersionStr calloc).updateOps = some ops) :
    calloc = true := by
  cases hout : (parseImage b image fwSize pldmVersionStr calloc).outcome with
  | error exit =>
      rw [parse_error b hout] at h
      cases h
  | ok res =>
      by_cases hcomp : IsComposite image fwSize
      · rw [parseImage_composite b hcomp] at hout
        exact ((parseComposite_ok b (b.fits_size hsize)).mp hout).2.2.1
      · rw [parseImage_bare b hcomp, parseBare_outcome, ite_error_ok] at hout
        exact Bool.not_eq_false _ ▸ hout.1

/-- What the parser makes of the file `main` is given, with memory to do it. -/
def parseFor (b : Build) (file : List UInt8) (args : Arguments) : ParseResult :=
  parseCompositeImage b file file.length args.versionStr true

/-- The operations of the file `main` is given. -/
def operationsFor (b : Build) (file : List UInt8) (args : Arguments) : List UpdateOperation :=
  (parseFor b file args).updateOps.getD []

/-- `ev` was done for operation `uo` of `file`, given as `op` in the file. The
loop works on what `filterTargets` has left of the operation
(`UpdateOperation.targeted`). -/
structure DoneFor (b : Build) (file : List UInt8) (args : Arguments) (tr : List SysEvent)
    (ev : SysEvent) (uo : Nat) (op : UpdateOperation) (seg : List SysEvent) : Prop where
  inOperation : InOperation tr uo seg
  operation : (operationsFor b file args)[uo]? = some op
  accepted : (parseFor b file args).ret = 0
  body : ∃ fd st q, Trace (performUpdate b fd file (op.targeted args.retimerBitmap) st)
    (seg ++ [ev]) q

theorem InOperation.append_left {pre tr seg : List SysEvent} {uo : Nat}
    (h : InOperation tr uo seg) : InOperation (pre ++ tr) uo seg := by
  obtain ⟨⟨pre', rfl⟩, hseg⟩ := h
  exact ⟨⟨pre ++ pre', (List.append_assoc _ _ _).symm⟩, hseg⟩

theorem DoneFor.append_left {b : Build} {file : List UInt8} {args : Arguments}
    {pre tr seg : List SysEvent} {ev : SysEvent} {uo : Nat} {op : UpdateOperation}
    (h : DoneFor b file args tr ev uo op seg) : DoneFor b file args (pre ++ tr) ev uo op seg :=
  { h with inOperation := h.inOperation.append_left }

section Trigger

variable {b : Build} {file : List UInt8} {args : Arguments} {fd : Int} {tr : List SysEvent}
  {ev : SysEvent}

theorem only_readCommand : Only IsPlain (readCommand b fd args) := by
  unfold readCommand
  refine (only_perform.mpr trivial).bind fun dummyfd => Only.ite trivial ?_
  refine (only_perform.mpr trivial).bind fun truncated => ?_
  refine Only.ite ((only_perform.mpr trivial).bind fun _ => trivial) ?_
  refine (only_loading.mono fun _ => IsLoading.isPlain).bind fun ret => Only.ite trivial ?_
  refine only_readRetimerfw.bind fun ret => Only.ite trivial ?_
  refine (only_perform.mpr trivial).bind fun _ => ?_
  refine (only_fetching.mono fun _ => IsFetching.isPlain).bind fun ret => Only.ite trivial ?_
  exact (only_perform.mpr trivial).bind fun _ => trivial

theorem only_closeUnless : Only IsPlain (closeUnless fd) :=
  Only.ite (only_perform.mpr trivial) trivial

theorem updateOperations_trigger {retimerToUpdate : UInt8} {ops : List UpdateOperation}
    {q : Sys Int32}
    (h : Trace (updateOperations b fd file retimerToUpdate ops) (tr ++ [ev]) q)
    (hev : IsTrigger b ev.1) :
    ∃ uo op st seg q', InOperation tr uo seg ∧ ops[uo]? = some op
      ∧ Trace (performUpdate b fd file (op.targeted retimerToUpdate) st) (seg ++ [ev]) q' := by
  have hplain : ¬IsPlain ev.1 := fun h => h.not_trigger b hev
  obtain ⟨pre₁, ops', pre₂, rfl, hfilter, h⟩ :=
    trace_bind_marked (only_filterTargets.mono fun _ => IsMessage.isPlain) hplain h
  obtain rfl := run_filterTargets hfilter
  obtain ⟨p', h⟩ := trace_bind_unmarked (P := IsPlain) (fun _ => only_ret) hplain h
  obtain ⟨uo, op, st, seg, q', hin, hop, hbody⟩ := updateLoop_trace h hev.not_performing
  rw [Nat.zero_add] at hin
  obtain ⟨op', hop', rfl⟩ : ∃ op', ops[uo]? = some op' ∧ op'.targeted retimerToUpdate = op := by
    simpa using hop
  exact ⟨uo, op', st, seg, q', hin.append_left, hop', hbody⟩

theorem updateImage_trigger (hfile : file.length < 2 ^ 31) {q : Sys Int32}
    (h : Trace (updateImage b fd file file.length args.versionStr args.retimerBitmap)
      (tr ++ [ev]) q) (hev : IsTrigger b ev.1) :
    ∃ uo op seg, DoneFor b file args tr ev uo op seg := by
  have hplain : ¬IsPlain ev.1 := fun h => h.not_trigger b hev
  have hmsg : ∀ c, IsMessage c → IsPlain c := fun _ => IsMessage.isPlain
  obtain ⟨pre₁, calloc, pre₂, rfl, -, h⟩ :=
    trace_bind_marked (only_perform.mpr trivial) hplain h
  have hmessage : Only IsMessage (parseMessage (parseCompositeImage b file file.length
      args.versionStr calloc).message) := by
    cases (parseCompositeImage b file file.length args.versionStr calloc).message with
    | none => trivial
    | some message => exact only_genericMessageRegistry
  obtain ⟨pre₃, _, pre₄, rfl, -, h⟩ := trace_bind_marked (hmessage.mono hmsg) hplain h
  split at h
  · exact absurd (((only_prepareMessageRegistry.mono hmsg).bind fun _ => only_ret).last h) hplain
  · next hret =>
      split at h
      · split at h
        · exact absurd (((only_prepareMessageRegistry.mono hmsg).bind fun _ => only_ret).last h)
            hplain
        · obtain ⟨uo, op, -, -, -, -, hop, -⟩ := updateOperations_trigger h hev
          simp at hop
      · next ops hops =>
          obtain ⟨uo, op, st, seg, q', hin, hop, hbody⟩ := updateOperations_trigger h hev
          obtain rfl := calloc_of_updateOps b hfile hops
          refine ⟨uo, op, seg, hin.append_left.append_left, ?_, not_not.mp hret, fd, st, q', hbody⟩
          rw [operationsFor, parseFor, hops, Option.getD_some, hop]

theorem updateCommand_trigger (hfile : file.length < 2 ^ 31) {q : Sys (Int32 × Int)}
    (h : Trace (updateCommand b fd args) (tr ++ [ev]) q) (himage : ∀ e ∈ tr, ServesImage file e)
    (hev : IsTrigger b ev.1) : ∃ uo op seg, DoneFor b file args tr ev uo op seg := by
  have hplain : ¬IsPlain ev.1 := fun h => h.not_trigger b hev
  have hfail : ∀ {message : String} {res : Int32 × Int} {tr : List SysEvent}
      {q : Sys (Int32 × Int)},
      ¬Trace (fileUnavailable args.retimerBitmap message args.versionStr >>= fun _ => pure res)
        (tr ++ [ev]) q := by
    intro message res tr q h
    exact hplain (((only_prepareMessageRegistry.mono fun _ => IsMessage.isPlain).bind
      fun _ => only_ret).last h)
  obtain ⟨pre₁, imagefd, pre₂, rfl, -, h⟩ := trace_bind_marked (only_perform.mpr trivial) hplain h
  split at h
  · exact absurd h hfail
  · obtain ⟨pre₃, size, pre₄, rfl, hsize, h⟩ :=
      trace_bind_marked (only_perform.mpr trivial) hplain h
    cases size with
    | none => exact absurd h hfail
    | some fwSize =>
        obtain ⟨pre₅, image, pre₆, rfl, hmmap, h⟩ :=
          trace_bind_marked (only_perform.mpr trivial) hplain h
        cases image with
        | none => exact absurd h hfail
        | some image =>
            obtain ⟨pre₇, _, pre₈, rfl, -, h⟩ :=
              trace_bind_marked (only_perform.mpr trivial) hplain h
            obtain rfl : fwSize = file.length :=
              himage ⟨.fstat imagefd, some fwSize⟩ (by simp [run_perform.mp hsize])
            have hcontents : image.toList = file :=
              himage ⟨.mmap imagefd _, some image⟩ (by simp [run_perform.mp hmmap])
            rw [hcontents] at h
            obtain ⟨p', h⟩ := trace_bind_unmarked (P := IsPlain) (fun _ => only_ret) hplain h
            obtain ⟨uo, op, seg, hdone⟩ := updateImage_trigger hfile h hev
            exact ⟨uo, op, seg,
              hdone.append_left.append_left.append_left.append_left⟩

end Trigger

/-- A write to the update register, anywhere in a run of `main`, is part of
the body of the update loop for the operation announced last. -/
theorem main_trigger {b : Build} {fuel : Nat} {argv : List (List UInt8)} {file : List UInt8}
    (hfile : file.length < 2 ^ 31) {tr : List SysEvent} {ev : SysEvent} {q : Sys (Option Int32)}
    (h : Trace (main b fuel argv) (tr ++ [ev]) q) (himage : ∀ e ∈ tr, ServesImage file e)
    (hev : IsTrigger b ev.1) :
    ∃ args uo op seg, checkArguments b fuel argv = some (.ok args)
      ∧ DoneFor b file args tr ev uo op seg := by
  have hplain : ¬IsPlain ev.1 := fun h => h.not_trigger b hev
  unfold main at h
  split at h
  · simp [trace_ret] at h
  · simp [trace_ret] at h
  · next args hargs =>
      obtain ⟨pre₁, fd, pre₂, rfl, -, h⟩ := trace_bind_marked (only_perform.mpr trivial) hplain h
      split at h
      · exact absurd ((only_closeUnless.bind fun _ => only_ret).last h) hplain
      · obtain ⟨p', h⟩ := trace_bind_unmarked (fun _ => only_closeUnless.bind fun _ =>
          only_closeUnless.bind fun _ => only_closeUnless.bind fun _ => only_ret) hplain h
        unfold runCommand at h
        split at h
        · obtain ⟨p', h⟩ := trace_bind_unmarked (P := IsPlain) (fun _ => only_ret) hplain h
          obtain ⟨uo, op, seg, hdone⟩ := updateCommand_trigger hfile h
            (fun e he => himage e (List.mem_append_right _ he)) hev
          exact ⟨args, uo, op, seg, hargs, hdone.append_left⟩
        · split at h
          · exact absurd ((only_readCommand.bind fun _ => only_ret).last h) hplain
          · simp [trace_ret] at h

end Retimer
