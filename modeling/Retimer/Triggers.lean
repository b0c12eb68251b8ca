import Retimer.StagingSpec
import Retimer.UpdateRun

/-!
# What is in the FPGA when an update is triggered

Between the start of an operation and its triggers stands a copy that
has to succeed, and from there on nothing is written but the update
register. So the image, the size and the CRC of the operation are in
place at each trigger (`RightImage`), whatever the operations before it
left behind.

`wp_performUpdate` is the step: from any memory, with the demand on each
trigger that the memory be right at that moment. The copy is used by its
specification alone; behind it the class of the requests (`IsUpdating`)
is enough for the memory to stay. No invariant has to connect one
operation with the next, and so `main_trigger` makes the step a
statement about every run of `main`.

For which retimers a trigger is follows from the bitmaps. The first
trigger of an operation has all of its targets (`updateAttempts_first`,
`performUpdate_first`), those of a later attempt are among the retimers
of the status word, and `bitmap_targeted_disjoint` brings the disjoint
components of an accepted file (`operationsFor_sound`) through the cut
to the retimers asked for.
-/

namespace Retimer

open Interaction Interaction.Prog

/-- DPRAM and the two registers are those of `op`: the bytes at its offset in
the file, their number, and their CRC. -/
structure RightImage (m : ByteMem) (file : List UInt8) (op : UpdateOperation) : Prop where
  inside : op.startOffset + op.imageLength ≤ file.length
  image : m.load 0 op.imageLength = slice file op.startOffset op.imageLength
  size : m.load fpgaImgSizeReg.toNat 4 = leBytes 4 op.imageLength
  checksum : m.load fpgaChksumReg.toNat 4 = leBytes 4
    (crc32 (slice file op.startOffset op.imageLength) (toInt32 op.imageLength)).toNat

theorem Loaded.rightImage {m : ByteMem} {file : List UInt8} {op : UpdateOperation}
    (hinside : op.startOffset + op.imageLength ≤ file.length)
    (hcrc : op.imageCrc
      = crc32 (slice file op.startOffset op.imageLength) (toInt32 op.imageLength))
    (h : Loaded m (slice file op.startOffset op.imageLength) op.imageCrc) :
    RightImage m file op := by
  have hlen : (slice file op.startOffset op.imageLength).length = op.imageLength :=
    length_slice hinside
  have himage := h.image
  have hsize := h.size
  rw [hlen] at himage hsize
  exact ⟨hinside, himage, hsize, hcrc ▸ h.checksum⟩

/-- The requests of an update attempt leave DPRAM and the two registers alone. -/
theorem Fpga.step_updating {b : Build} {m m' : ByteMem} {c : Call} {r : Answer c}
    (hc : IsUpdating c) (h : Fpga.step b m ⟨c, r⟩ m') : KeepsStaging m m' := by
  cases c with
  | i2cWrite fd slaveId writeData =>
      have haddr : addressOf writeData = fpgaUpdateStatusReg.toNat := hc
      simp only [Fpga.step] at h
      split at h
      · cases r with
        | ok readData =>
            intro x hx
            rw [h x hx, haddr]
            exact ByteMem.store_outside x (Or.inl hx)
        | failed errno =>
            intro x hx
            exact h x hx (Or.inl (haddr ▸ hx))
      · exact h
  | i2cRead fd slaveId writeData n =>
      cases r with
      | ok readData => exact h.1
      | failed errno => exact h
  | _ => exact h

theorem Fpga.step_trigger {b : Build} {ev : SysEvent} (hev : IsTrigger b ev.1) (m : ByteMem) :
    ∃ m', Fpga.step b m ev m' := by
  obtain ⟨c, r⟩ := ev
  cases c with
  | i2cWrite fd slaveId writeData =>
      simp only [Fpga.step, if_pos hev.1]
      cases r with
      | ok readData => exact ⟨_, fun _ _ => rfl⟩
      | failed errno => exact ⟨m, .refl⟩
  | _ => exact hev.elim

section Operation

variable {b : Build} {fd : Int} {file : List UInt8} {op : UpdateOperation}

theorem wp_of_plain {α : Type} {G : ByteMem → SysEvent → Prop} {p : Sys α} (hp : Only IsPlain p)
    (hG : ∀ m ev, ¬IsTrigger b ev.1 → G m ev) (m : ByteMem) :
    wp (Fpga.step b) G p (fun _ _ => True) m :=
  wp_of_only (I := fun _ => True) hp
    (fun _ _ _ _ he _ _ => ⟨hG _ _ (he.not_trigger b), trivial⟩) trivial

/-- **One operation.** From any memory, every trigger of the operation finds
its image in place. -/
theorem wp_performUpdate (hinside : op.startOffset + op.imageLength ≤ file.length)
    (hcrc : op.imageCrc
      = crc32 (slice file op.startOffset op.imageLength) (toInt32 op.imageLength))
    (st : LoopState) (m : ByteMem) :
    wp (Fpga.step b) (fun m ev => IsTrigger b ev.1 → RightImage m file op)
      (performUpdate b fd file op st) (fun _ _ => True) m := by
  have hmsg : ∀ c, IsMessage c → IsPlain c := fun _ => IsMessage.isPlain
  have hplain : ∀ {α : Type} {p : Sys α} (m : ByteMem), Only IsPlain p →
      wp (Fpga.step b) (fun m ev => IsTrigger b ev.1 → RightImage m file op) p
        (fun _ _ => True) m :=
    fun m hp => wp_of_plain hp (fun _ _ hev htrig => absurd htrig hev) m
  unfold performUpdate
  split
  · trivial
  · refine wp_bind.mpr (wp_mono (hplain m (only_prepareMessageRegistry.mono hmsg))
      (fun _ _ h => h) fun _ m₁ _ => ?_)
    have hfrom : op.imageLength ≤ (file.drop op.startOffset).length := by
      rw [List.length_drop]
      omega
    have hcopy := (@ensures_copyImageFromMemToFpga b _ _ op.imageCrc fd hfrom m₁).of_only
      only_copyImageFromMemToFpga
    refine wp_bind.mpr (wp_mono hcopy
      (fun _ _ hev htrig => absurd htrig (hev.not_trigger b)) ?_)
    rintro ret m₂ ⟨hloaded, -⟩
    split
    · exact hplain m₂ ((only_prepareMessageRegistry.mono hmsg).bind fun _ => only_ret)
    · next hret =>
        obtain ⟨hmax, hloaded⟩ := hloaded (not_not.mp hret)
        have hsize : (slice file op.startOffset op.imageLength).length ≤ dpramSize := by
          rw [length_slice hinside]
          exact Nat.le_trans hmax b.maxFwImageSize_le
        -- every request of the update keeps what the copy put in place
        have hstart : wp (Fpga.step b) (fun m ev => IsTrigger b ev.1 → RightImage m file op)
            (startRetimerFwUpdate b fd op.applyBitmap.toUInt8 op.versionString
              st.retimerNotUpdated)
            (fun _ m => Loaded m (slice file op.startOffset op.imageLength) op.imageCrc) m₂ :=
          wp_of_only only_startRetimerFwUpdate (fun m c r m' hc hm hstep =>
            ⟨fun _ => hm.rightImage hinside hcrc,
              hm.keeps (Fpga.step_updating hc hstep) hsize⟩) hloaded
        refine wp_bind.mpr (wp_mono hstart (fun _ _ h => h) fun res m₃ _ => ?_)
        exact hplain m₃ (Only.ite ((only_reportApplyFailed.mono hmsg).bind fun _ => only_ret)
          ((only_reportUpdateSuccessful.mono hmsg).bind fun _ => only_ret))

end Operation

/-! ## First triggers -/

def triggerBitmap : Call → UInt8
  | .i2cWrite _ _ writeData => (payloadOf writeData).getD 0 0
  | _ => 0

/-- The first trigger of `updateAttempts` is for all the retimers given. -/
theorem updateAttempts_first {b : Build} {fd : Int} {versionStr : List UInt8} {attempts : Nat}
    {retimerNumber retimerNotUpdated : UInt8} {ret : Int32} {seg : List SysEvent} {ev : SysEvent}
    {q : Sys (Int32 × UInt8)}
    (h : Trace (updateAttempts b fd versionStr attempts retimerNumber ret retimerNotUpdated)
      (seg ++ [ev]) q) (hev : IsTrigger b ev.1) (hseg : ∀ e ∈ seg, ¬IsTrigger b e.1) :
    triggerBitmap ev.1 = retimerNumber := by
  cases attempts with
  | zero => simp [updateAttempts, trace_ret] at h
  | succ attempts =>
      -- the first request of the attempt is the trigger
      cases seg with
      | nil =>
          cases h with
          | cons _ => rfl
      | cons e seg =>
          cases h with
          | cons _ => exact absurd ⟨rfl, rfl⟩ (hseg _ List.mem_cons_self)

theorem performUpdate_first {b : Build} {fd : Int} {file : List UInt8} {op : UpdateOperation}
    {st : LoopState} {seg : List SysEvent} {ev : SysEvent} {q : Sys LoopState}
    (h : Trace (performUpdate b fd file op st) (seg ++ [ev]) q) (hev : IsTrigger b ev.1)
    (hseg : ∀ e ∈ seg, ¬IsTrigger b e.1) : triggerBitmap ev.1 = op.applyBitmap.toUInt8 := by
  have hplain : ¬IsPlain ev.1 := fun h => h.not_trigger b hev
  have hmsg : ∀ c, IsMessage c → IsPlain c := fun _ => IsMessage.isPlain
  unfold performUpdate at h
  split at h
  · simp [trace_ret] at h
  · obtain ⟨pre₁, _, seg₁, rfl, -, h⟩ :=
      trace_bind_marked (only_prepareMessageRegistry.mono hmsg) hplain h
    obtain ⟨pre₂, ret, seg₂, rfl, -, h⟩ :=
      trace_bind_marked only_copyImageFromMemToFpga hplain h
    split at h
    · exact absurd (((only_prepareMessageRegistry.mono hmsg).bind fun _ => only_ret).last h) hplain
    · obtain ⟨p', h⟩ : ∃ p', Trace (startRetimerFwUpdate b fd op.applyBitmap.toUInt8
          op.versionString st.retimerNotUpdated) (seg₂ ++ [ev]) p' := by
        refine trace_bind_unmarked (fun res => ?_) hplain h
        exact Only.ite ((only_reportApplyFailed.mono hmsg).bind fun _ => only_ret)
          ((only_reportUpdateSuccessful.mono hmsg).bind fun _ => only_ret)
      refine updateAttempts_first h hev fun e he => hseg e ?_
      exact List.mem_append_right _ (List.mem_append_right _ he)

/-- `B` is the bitmap of the first trigger of operation `uo`. -/
def FirstTrigger (b : Build) (tr : List SysEvent) (uo : Nat) (B : UInt8) : Prop :=
  ∃ pre ev post seg, tr = pre ++ ev :: post ∧ InOperation pre uo seg ∧ IsTrigger b ev.1
    ∧ (∀ e ∈ seg, ¬IsTrigger b e.1) ∧ triggerBitmap ev.1 = B

theorem bitmap_toUInt8 (x : UInt32) (r : UInt8) :
    ((x &&& r.toUInt32).toUInt8).toUInt32 = x &&& r.toUInt32 := by
  have hle : (x &&& r.toUInt32).toNat < 256 := by
    rw [UInt32.toNat_and]
    exact Nat.lt_of_le_of_lt Nat.and_le_right (by simpa using r.toNat_lt)
  apply UInt32.toNat_inj.mp
  simp only [UInt8.toNat_toUInt32, UInt32.toNat_toUInt8]
  exact Nat.mod_eq_of_lt hle

theorem bitmap_targeted_disjoint {x y : UInt32} {r B C : UInt8} (h : x &&& y = 0)
    (hB : B.toUInt32 = x &&& r.toUInt32) (hC : C.toUInt32 = y &&& r.toUInt32) : B &&& C = 0 := by
  have hand : (B &&& C).toUInt32 = 0 := by
    rw [UInt8.toUInt32_and, hB, hC]
    calc (x &&& r.toUInt32) &&& (y &&& r.toUInt32)
        = (x &&& y) &&& (r.toUInt32 &&& r.toUInt32) := by
          simp only [← UInt32.toBitVec_inj, UInt32.toBitVec_and]
          ac_rfl
      _ = 0 := by rw [h, UInt32.zero_and]
  have htoNat := congrArg UInt32.toNat hand
  apply UInt8.toNat_inj.mp
  simpa using htoNat

/-- The first trigger of an operation is for the component's retimers among
those asked for. -/
theorem DoneFor.first {b : Build} {file : List UInt8} {args : Arguments} {tr seg : List SysEvent}
    {ev : SysEvent} {uo : Nat} {op : UpdateOperation} (h : DoneFor b file args tr ev uo op seg)
    (hev : IsTrigger b ev.1) (hseg : ∀ e ∈ seg, ¬IsTrigger b e.1) :
    (triggerBitmap ev.1).toUInt32 = op.applyBitmap &&& args.retimerBitmap.toUInt32 := by
  obtain ⟨fd, st, q, hbody⟩ := h.body
  rw [performUpdate_first hbody hev hseg]
  exact bitmap_toUInt8 _ _

theorem operationsFor_sound (b : Build) {file : List UInt8} {args : Arguments}
    (hfile : file.length < 2 ^ 31) (hret : (parseFor b file args).ret = 0) :
    SoundOps file (operationsFor b file args).length (operationsFor b file args) :=
  (parse_accepts b hfile hret).1.sound b hfile

theorem DoneFor.rightImage {b : Build} {file : List UInt8} {args : Arguments}
    (hfile : file.length < 2 ^ 31) {tr seg : List SysEvent} {ev : SysEvent} {uo : Nat}
    {op : UpdateOperation} (h : DoneFor b file args tr ev uo op seg) (hev : IsTrigger b ev.1)
    {m₀ m : ByteMem} (hfollows : Follows (Fpga.step b) m₀ seg m) : RightImage m file op := by
  obtain ⟨fd, st, q, hbody⟩ := h.body
  have hsound := operationsFor_sound b hfile h.accepted
  have hmem : op ∈ operationsFor b file args := List.mem_of_getElem? h.operation
  have hwp : wp (Fpga.step b) (fun m ev => IsTrigger b ev.1 →
      RightImage m file (op.targeted args.retimerBitmap))
      (performUpdate b fd file (op.targeted args.retimerBitmap) st) (fun _ _ => True) m₀ :=
    @wp_performUpdate b fd file (op.targeted args.retimerBitmap) (hsound.inside op hmem)
      (hsound.crc op hmem) st m₀
  obtain ⟨m', hstep⟩ := Fpga.step_trigger hev m
  have hright := wp_event hwp hbody hfollows hstep hev
  exact ⟨hright.inside, hright.image, hright.size, hright.checksum⟩

theorem SoundOps.disjoint_at {file : List UInt8} {count : Nat} {ops : List UpdateOperation}
    (h : SoundOps file count ops) {i j : Nat} {x y : UpdateOperation} (hx : ops[i]? = some x)
    (hy : ops[j]? = some y) (hne : i ≠ j) : x.applyBitmap &&& y.applyBitmap = 0 := by
  obtain ⟨hi, rfl⟩ := List.getElem?_eq_some_iff.mp hx
  obtain ⟨hj, rfl⟩ := List.getElem?_eq_some_iff.mp hy
  have hpair := List.pairwise_iff_getElem.mp h.disjoint
  rcases Nat.lt_or_gt_of_ne hne with hlt | hlt
  · exact hpair i j hi hj hlt
  · rw [UInt32.and_comm]
    exact hpair j i hj hi hlt

/-- **The right image at every trigger.** Wherever a run of `main` writes the
update register, the image, size and CRC in the FPGA are those of the operation
announced last; the first trigger of an operation is for its component's
retimers among those asked for, and no retimer is in the first triggers of two
operations. -/
theorem main_triggers_right (b : Build) (fuel : Nat) (argv : List (List UInt8))
    (file : List UInt8) (hfile : file.length < 2 ^ 31) (tr : List SysEvent)
    (q : Sys (Option Int32)) (htr : Trace (main b fuel argv) tr q)
    (himage : ∀ ev ∈ tr, ServesImage file ev) :
    (∀ pre ev post, tr = pre ++ ev :: post → IsTrigger b ev.1 →
      ∃ args uo op seg, checkArguments b fuel argv = some (.ok args) ∧ InOperation pre uo seg
        ∧ (operationsFor b file args)[uo]? = some op
        ∧ (∀ m₀ m, Follows (Fpga.step b) m₀ pre m → RightImage m file op)
        ∧ ((∀ e ∈ seg, ¬IsTrigger b e.1) →
          (triggerBitmap ev.1).toUInt32 = op.applyBitmap &&& args.retimerBitmap.toUInt32))
      ∧ ∀ uo uo' B B', FirstTrigger b tr uo B → FirstTrigger b tr uo' B' → uo ≠ uo' →
        B &&& B' = 0 := by
  have hdone : ∀ pre ev post, tr = pre ++ ev :: post → IsTrigger b ev.1 →
      ∃ args uo op seg, checkArguments b fuel argv = some (.ok args)
        ∧ DoneFor b file args pre ev uo op seg := by
    intro pre ev post heq hev
    rw [heq, List.append_cons] at htr
    obtain ⟨p', htr, -⟩ := trace_append.mp htr
    exact main_trigger hfile htr (fun e he => himage e (heq ▸ List.mem_append_left _ he)) hev
  refine ⟨fun pre ev post heq hev => ?_, fun uo uo' B B' hB hB' hne => ?_⟩
  · obtain ⟨args, uo, op, seg, hargs, hfor⟩ := hdone pre ev post heq hev
    refine ⟨args, uo, op, seg, hargs, hfor.inOperation, hfor.operation, fun m₀ m hfollows => ?_,
      hfor.first hev⟩
    obtain ⟨pre', rfl⟩ := hfor.inOperation.1
    obtain ⟨m₁, -, m₂, -, hseg⟩ := follows_append.mp hfollows
    exact hfor.rightImage hfile hev hseg
  · obtain ⟨pre, ev, post, seg, heq, hin, hev, hseg, rfl⟩ := hB
    obtain ⟨pre', ev', post', seg', heq', hin', hev', hseg', rfl⟩ := hB'
    obtain ⟨args, uo₁, op, seg₁, hargs, hfor⟩ := hdone pre ev post heq hev
    obtain ⟨args', uo₂, op', seg₂, hargs', hfor'⟩ := hdone pre' ev' post' heq' hev'
    obtain ⟨rfl, rfl⟩ := hin.unique hfor.inOperation
    obtain ⟨rfl, rfl⟩ := hin'.unique hfor'.inOperation
    obtain rfl : args = args' := by
      rw [hargs] at hargs'
      cases hargs'
      rfl
    have hsound := operationsFor_sound b hfile hfor.accepted
    exact bitmap_targeted_disjoint (hsound.disjoint_at hfor.operation hfor'.operation hne)
      (hfor.first hev hseg) (hfor'.first hev' hseg')

/-- A run on a file of three bytes, for retimer 0, in which nothing fails. -/
def smallRun : List SysEvent :=
  (play (fun _ c => (c.succeed [1, 2, 3]).map (·, ())) 40 ()
    (main defaultBuild 10 [[], [0x33], [0x31], [0x66], [0x30]])).1

theorem main_triggers_right_small :
    (∀ pre ev post, smallRun = pre ++ ev :: post → IsTrigger defaultBuild ev.1 →
      ∃ args uo op seg,
        checkArguments defaultBuild 10 [[], [0x33], [0x31], [0x66], [0x30]] = some (.ok args)
        ∧ InOperation pre uo seg
        ∧ (operationsFor defaultBuild [1, 2, 3] args)[uo]? = some op
        ∧ (∀ m₀ m, Follows (Fpga.step defaultBuild) m₀ pre m → RightImage m [1, 2, 3] op)
        ∧ ((∀ e ∈ seg, ¬IsTrigger defaultBuild e.1) →
          (triggerBitmap ev.1).toUInt32 = op.applyBitmap &&& args.retimerBitmap.toUInt32))
      ∧ ∀ uo uo' B B', FirstTrigger defaultBuild smallRun uo B →
        FirstTrigger defaultBuild smallRun uo' B' → uo ≠ uo' → B &&& B' = 0 :=
  main_triggers_right defaultBuild 10 [[], [0x33], [0x31], [0x66], [0x30]] [1, 2, 3] (by decide)
    smallRun _ (trace_play _ _ _ _) (by decide)

end Retimer
