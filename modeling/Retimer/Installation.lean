import Retimer.Flash
import Retimer.ReadBack

/-!
# What an update installs

The FPGA with the flash memories of the retimers behind it, on a bus on
which nothing fails (`Board`). A trigger programs the retimers it names
with what is in the DPRAM, if the size and the checksum say so
(`Board.Verified`), and the update is over within the minute that the
tool waits for it (`Board.update`). On such a board an update run
returns 0, and each retimer has the image of the operation that names
it, or what it had before.

The lemmas `board_f` go up through the functions as elsewhere:
`board_copyImageFromMemToFpga` loads the FPGA and leaves the retimers
alone, `board_pollStatus` waits for as long as the update takes,
`board_startRetimerFwUpdate` is an update that is carried out at the
first attempt. `Loaded.programmed` is where the two halves meet: what
the copy has put in place, with its size and its CRC, is what the board
verifies and programs. `board_updateLoop` has the memories after the
loop as the fold of `install` over the operations.

Which retimer then has what is about that fold. No retimer is named
twice in an accepted file, also after the cut to the retimers asked for
(`disjoint_targeted`), so nothing is overwritten
(`foldl_install_of_mem`), and what no operation names stays
(`foldl_install_none`).
-/

namespace Retimer

open Interaction Interaction.Prog

/-! ## The board -/

/-- A board: the memory of the FPGA, for how many polls an update is still under
way, and the image that each retimer has. -/
structure Board where
  mem : ByteMem
  /-- The polls that will find the update under way. -/
  busy : Nat
  /-- What is in the flash memory of each retimer. -/
  flash : Nat → List UInt8

namespace Board

/-- The image that the size register tells. -/
def staged (s : Board) : List UInt8 := s.mem.load 0 (leNat (s.mem.load fpgaImgSizeReg.toNat 4))

/-- The checksum register is that of the staged image. -/
def Verified (s : Board) : Prop :=
  s.mem.load fpgaChksumReg.toNat 4
    = leBytes 4 (crc32 s.staged (toInt32 s.staged.length)).toNat

instance (s : Board) : Decidable s.Verified := inferInstanceAs (Decidable (_ = _))

/-- The flash memories once `targets` are updated. -/
def programmed (s : Board) (targets : UInt8) : Nat → List UInt8 :=
  fun r => if Has targets r ∧ s.Verified then s.staged else s.flash r

/-- What a transaction does to the update that is under way. -/
def update (b : Build) (s : Board) : SysEvent → Board → Prop
  | ⟨.i2cWrite fd slaveId writeData, _⟩, s' =>
      if IsTrigger b (.i2cWrite fd slaveId writeData) then
        s'.busy < maxTimeoutSec
          ∧ s'.flash = s.programmed (triggerBitmap (.i2cWrite fd slaveId writeData))
      else s'.busy = s.busy ∧ s'.flash = s.flash
  | ⟨.i2cRead _ slaveId writeData _, .ok word⟩, s' =>
      s'.flash = s.flash ∧
        if slaveId = b.fpgaI2cCntrlAddr ∧ addressOf writeData = fpgaUpdateStatusReg.toNat then
          s'.busy = s.busy - 1
            ∧ if s.busy = 0 then ∀ x ∈ word.toList, x = 0 else word.toList.getD 0 0 ≠ 0
        else s'.busy = s.busy
  | _, s' => s'.busy = s.busy ∧ s'.flash = s.flash

def step (b : Build) : Env Call Answer Board :=
  fun s ev s' => Completes ev ∧ Fpga.step b s.mem ev s'.mem ∧ s.update b ev s'

end Board

section Board

variable {b : Build} {fd : Int} {s : Board}

theorem Board.update_staging {s s' : Board} {c : Call} {a : Answer c} (hc : IsStaging c)
    (h : s.update b ⟨c, a⟩ s') : s'.flash = s.flash := by
  cases c with
  | i2cWrite fd slaveId writeData =>
      rw [Board.update, if_neg (hc.isPlain.not_trigger b)] at h
      exact h.2
  | i2cRead fd slaveId writeData n =>
      cases a with
      | ok word => exact h.1
      | failed errno => exact h.2
  | emitLogMessage m => exact h.2
  | _ => exact hc.elim

/-- A copy loads the FPGA and leaves the retimers alone. The board is the FPGA
of the copy with something added that the copy does not touch. -/
theorem board_copyImageFromMemToFpga {x : List UInt8} {crc : UInt32}
    (hmax : x.length ≤ b.maxFwImageSize) :
    Ensures (Board.step b) (copyImageFromMemToFpga b x x.length crc fd b.fpgaI2cCntrlAddr)
      (fun ret s' => ret = 0 ∧ Loaded s'.mem x crc ∧ s'.flash = s.flash) s := by
  have hcompletes : Ensures (Board.step b)
      (copyImageFromMemToFpga b x x.length crc fd b.fpgaI2cCntrlAddr) (fun ret _ => ret = 0) s :=
    Ensures.simulate (I := fun _ => True) (π := fun _ => ()) only_staging
      (fun _ _ _ _ _ _ hstep => ⟨hstep.1, trivial⟩) trivial
      (completes_copyImageFromMemToFpga hmax)
  have hloads : Ensures (Board.step b)
      (copyImageFromMemToFpga b x x.length crc fd b.fpgaI2cCntrlAddr) (fun ret s' =>
        (ret = 0 → x.length ≤ b.maxFwImageSize ∧ Loaded s'.mem (x.take x.length) crc)
          ∧ ∀ a, x.length ≤ a → a < dpramSize → s'.mem a = s.mem a) s :=
    Ensures.simulate (I := fun _ => True) (π := Board.mem) only_staging
      (fun _ _ _ _ _ _ hstep => ⟨hstep.2.1, trivial⟩) trivial
      (ensures_copyImageFromMemToFpga crc (Nat.le_refl x.length) s.mem)
  have hkeeps : Ensures (Board.step b)
      (copyImageFromMemToFpga b x x.length crc fd b.fpgaI2cCntrlAddr)
      (fun _ s' => s'.flash = s.flash) s :=
    wp_of_only only_staging (fun s₁ c a s₂ hc hs hstep =>
      ⟨trivial, (Board.update_staging hc hstep.2.2).trans hs⟩) rfl
  refine wp_mono (hcompletes.and (hloads.and hkeeps)) (fun _ _ h => h) ?_
  rintro ret s' ⟨hret, ⟨hloaded, -⟩, hflash⟩
  have himage := (hloaded hret).2
  rw [List.take_length] at himage
  exact ⟨hret, himage, hflash⟩

theorem board_sendI2cCmdWrite {slaveId : UInt8} {writeData : List UInt8} {Q : Int32 → Board → Prop}
    (hQ : ∀ s', s.update b ⟨.i2cWrite fd slaveId writeData, .ok (Vector.replicate 0 0)⟩ s' →
      Q 0 s') :
    Ensures (Board.step b) (sendI2cCmdWrite b fd slaveId writeData) Q s := by
  intro answer s' hstep
  cases answer with
  | ok readData => exact ⟨trivial, hQ s' hstep.2.2⟩
  | failed errno => exact hstep.1.elim

theorem board_sendI2cCmdRead {slaveId : UInt8} {writeData : List UInt8} {n : Nat}
    {Q : Int32 × Vector UInt8 n → Board → Prop}
    (hQ : ∀ word s', s.update b ⟨.i2cRead fd slaveId writeData n, .ok word⟩ s' → Q (0, word) s') :
    Ensures (Board.step b) (sendI2cCmdRead b fd slaveId writeData n) Q s := by
  intro answer s' hstep
  cases answer with
  | ok readData => exact ⟨trivial, hQ readData s' hstep.2.2⟩
  | failed errno => exact hstep.1.elim

theorem board_pollStatus {turns : Nat} {word : Vector UInt8 4} (hbusy : s.busy < turns) :
    Ensures (Board.step b) (pollStatus b fd fpgaUpdateStatusReg (· ≠ fwUpdateCompleteFlag) turns
        word)
      (fun res s' => res.1 = 0 ∧ Clear res.2 ∧ s'.flash = s.flash) s := by
  induction turns generalizing s word with
  | zero => exact absurd hbusy (Nat.not_lt_zero _)
  | succ turns ih =>
      unfold pollStatus
      refine wp_bind.mpr (board_sendI2cCmdRead fun word' s₁ hupdate => ?_)
      obtain ⟨hflash, hpoll⟩ := hupdate
      rw [if_pos ⟨rfl, rfl⟩] at hpoll
      obtain ⟨hleft, hword⟩ := hpoll
      dsimp only
      rw [if_neg (not_not.mpr rfl)]
      by_cases hzero : s.busy = 0
      · rw [if_pos hzero] at hword
        have hbyte : ∀ i (hi : i < 4), word'[i] = 0 := fun i hi =>
          hword _ (Vector.mem_toList_iff.mpr (Vector.getElem_mem hi))
        rw [if_neg]
        · exact ⟨rfl, ⟨hbyte 0 (by decide), hbyte 1 (by decide), hbyte 2 (by decide),
            hbyte 3 (by decide)⟩, hflash⟩
        · rw [hbyte 0 (by decide)]
          decide
      · rw [if_neg hzero, getD_toList_zero] at hword
        have hmore : decide (word'[0] ≠ fwUpdateCompleteFlag) = true := decide_eq_true hword
        rw [if_pos hmore]
        refine wp_mono (ih (by omega)) (fun _ _ h => h) fun res s' h => ?_
        exact ⟨h.1, h.2.1, h.2.2.trans hflash⟩

/-- An update that is carried out at the first attempt. -/
theorem board_startRetimerFwUpdate {versionStr : List UInt8} {targets nu : UInt8} :
    Ensures (Board.step b) (startRetimerFwUpdate b fd targets versionStr nu)
      (fun res s' => res = (0, nu) ∧ s'.flash = s.programmed targets) s := by
  rw [startRetimerFwUpdate, maxUpdateRetryCount, updateAttempts]
  refine wp_bind.mpr (board_sendI2cCmdWrite fun s₁ hupdate => ?_)
  have htrigger : IsTrigger b (.i2cWrite fd b.fpgaI2cCntrlAddr
      (regAddress fpgaUpdateStatusReg ++ [targets, 0x00, 0x00, 0x00])) :=
    ⟨rfl, addressOf_updateStatus _⟩
  rw [Board.update, if_pos htrigger] at hupdate
  obtain ⟨hbusy, hflash⟩ := hupdate
  rw [if_neg (not_not.mpr rfl)]
  refine wp_bind.mpr (wp_mono (board_pollStatus hbusy) (fun _ _ h => h) ?_)
  rintro ⟨ret, word⟩ s₂ ⟨hret, hclear, hflash₂⟩
  have hzero : word[0] = 0 ∧ word[1] = 0 ∧ word[2] = 0 ∧ word[3] = 0 := hclear
  dsimp only at hret ⊢
  rw [if_neg (not_not.mpr hret), if_pos hzero]
  exact ⟨by rw [hret], hflash₂.trans hflash⟩

end Board

/-! ## The update loop -/

/-- The flash memories once the operation is carried out. -/
def install (file : List UInt8) (flash : Nat → List UInt8) (op : UpdateOperation) :
    Nat → List UInt8 :=
  fun r => if Has op.applyBitmap.toUInt8 r then slice file op.startOffset op.imageLength
    else flash r

section Loop

variable {b : Build} {fd : Int} {file : List UInt8} {s : Board}

theorem board_quiet {α : Type} {p : Sys α} (hp : Only (fun c => (quiet c).isSome) p) :
    Ensures (Board.step b) p (fun _ s' => s'.flash = s.flash) s :=
  wp_of_only hp (fun s₁ c a s₂ hc hs hstep => ⟨trivial, by
    cases c with
    | emitLogMessage m => exact hstep.2.2.2.trans hs
    | performing uo => exact hstep.2.2.2.trans hs
    | close fd => exact hstep.2.2.2.trans hs
    | _ => cases hc⟩) rfl

theorem board_messages {α : Type} {p : Sys α} (hp : Only IsMessage p) :
    Ensures (Board.step b) p (fun _ s' => s'.flash = s.flash) s :=
  board_quiet (hp.mono fun _ => IsMessage.quiet)

theorem Board.flash_of_quiet {α : Type} {p : Sys α} {tr : List SysEvent} {res : α} {s' : Board}
    (hp : Only (fun c => (quiet c).isSome) p) (hrun : Run p tr res)
    (hboard : Follows (Board.step b) s tr s') : s'.flash = s.flash := by
  have hkeeps : Ensures (Board.step b) p (fun _ s' => s'.flash = s.flash) s := board_quiet hp
  have hend := wp_run hkeeps hrun hboard
  exact hend

theorem Loaded.programmed {x : List UInt8} {targets : UInt8}
    (h : Loaded s.mem x (crc32 x (toInt32 x.length))) (hsize : x.length < 2 ^ 32) :
    s.programmed targets = fun r => if Has targets r then x else s.flash r := by
  have hlen : leNat (leBytes 4 x.length) = x.length := by
    rw [leNat_leBytes]
    exact Nat.mod_eq_of_lt hsize
  have hstaged : s.staged = x := by
    rw [Board.staged, h.size, hlen, h.image]
  have hverified : s.Verified := by
    rw [Board.Verified, hstaged]
    exact h.checksum
  funext r
  rw [Board.programmed, hstaged]
  by_cases hr : Has targets r
  · rw [if_pos ⟨hr, hverified⟩, if_pos hr]
  · rw [if_neg fun h => hr h.1, if_neg hr]

theorem board_performUpdate {op : UpdateOperation} {st : LoopState} (h : Flashable file op)
    (hmax : op.imageLength ≤ b.maxFwImageSize) (hst : Carries st 0) :
    Ensures (Board.step b) (performUpdate b fd file op st)
      (fun st' s' => Carries st' 0 ∧ s'.flash = install file s.flash op) s := by
  have hlen : (imageOf file op).1.length = op.imageLength := length_slice h.inside
  unfold performUpdate
  by_cases hbitmap : op.applyBitmap = 0
  · rw [if_pos hbitmap]
    refine ⟨hst, ?_⟩
    funext r
    rw [install, hbitmap, if_neg]
    exact not_has_zero
  · rw [if_neg hbitmap]
    refine wp_bind.mpr (wp_mono (board_messages only_prepareMessageRegistry) (fun _ _ h => h) ?_)
    intro _ s₁ hflash₁
    rw [← copyOperation, copyOperation_eq h]
    refine wp_bind.mpr (wp_mono (board_copyImageFromMemToFpga (hlen.trans_le hmax))
      (fun _ _ h => h) ?_)
    rintro ret s₂ ⟨rfl, hloaded, hflash₂⟩
    rw [if_neg (not_not.mpr rfl)]
    refine wp_bind.mpr (wp_mono board_startRetimerFwUpdate (fun _ _ h => h) ?_)
    rintro _ s₃ ⟨rfl, hflash₃⟩
    dsimp only
    rw [if_neg (not_not.mpr rfl)]
    refine wp_bind.mpr (wp_mono (board_messages only_reportUpdateSuccessful) (fun _ _ h => h) ?_)
    intro _ s₄ hflash₄
    refine ⟨⟨hst.firstErr, fun hne => absurd rfl hne⟩, ?_⟩
    have hmaxSize := b.maxFwImageSize_le
    rw [hflash₄, hflash₃, hloaded.programmed (by omega), hflash₂, hflash₁]
    rfl

theorem board_updateLoop {ops : List UpdateOperation} {uo : Nat} {st : LoopState}
    (h : ∀ op ∈ ops, Flashable file op) (hmax : ∀ op ∈ ops, op.imageLength ≤ b.maxFwImageSize)
    (hst : Carries st 0) :
    Ensures (Board.step b) (updateLoop b fd file uo ops st)
      (fun st' s' => Carries st' 0 ∧ s'.flash = ops.foldl (install file) s.flash) s := by
  induction ops generalizing uo st s with
  | nil => exact ⟨hst, rfl⟩
  | cons op ops ih =>
      obtain ⟨hop, hops⟩ := List.forall_mem_cons.mp h
      obtain ⟨hopMax, hopsMax⟩ := List.forall_mem_cons.mp hmax
      rw [updateLoop]
      refine wp_bind.mpr fun _ s₁ hstep => ⟨trivial, ?_⟩
      have hflash₁ : s₁.flash = s.flash := hstep.2.2.2
      refine wp_bind.mpr (wp_mono (board_performUpdate hop hopMax hst) (fun _ _ h => h) ?_)
      rintro st' s₂ ⟨hst', hflash₂⟩
      refine wp_mono (ih hops hopsMax hst') (fun _ _ h => h) ?_
      rintro st'' s₃ ⟨hst'', hflash₃⟩
      exact ⟨hst'', by rw [hflash₃, hflash₂, hflash₁, List.foldl_cons]⟩

theorem board_filterTargets {retimerToUpdate : UInt8} {ops : List UpdateOperation} :
    Ensures (Board.step b) (filterTargets retimerToUpdate ops)
      (fun ops' s' => ops' = ops.map (·.targeted retimerToUpdate) ∧ s'.flash = s.flash) s := by
  induction ops generalizing s with
  | nil => exact ⟨rfl, rfl⟩
  | cons op ops ih =>
      rw [filterTargets]
      refine wp_bind.mpr (wp_mono (board_messages only_prepareMessageRegistry) (fun _ _ h => h) ?_)
      intro _ s₁ hflash₁
      refine wp_bind.mpr (wp_mono ih (fun _ _ h => h) ?_)
      rintro _ s₂ ⟨rfl, hflash₂⟩
      exact ⟨rfl, hflash₂.trans hflash₁⟩

theorem board_updateOperations {ops : List UpdateOperation} {retimerToUpdate : UInt8}
    (h : ∀ op ∈ ops.map (·.targeted retimerToUpdate), Flashable file op)
    (hmax : ∀ op ∈ ops, op.imageLength ≤ b.maxFwImageSize) :
    Ensures (Board.step b) (updateOperations b fd file retimerToUpdate ops)
      (fun ret s' => ret = 0
        ∧ s'.flash = (ops.map (·.targeted retimerToUpdate)).foldl (install file) s.flash) s := by
  have hinitial : Carries initialLoopState 0 := ⟨rfl, fun hne => absurd rfl hne⟩
  have hfitting : ∀ op ∈ ops.map (·.targeted retimerToUpdate), op.imageLength ≤ b.maxFwImageSize :=
    List.forall_mem_map.mpr hmax
  rw [updateOperations]
  refine wp_bind.mpr (wp_mono board_filterTargets (fun _ _ h => h) ?_)
  rintro _ s₁ ⟨rfl, hflash₁⟩
  refine wp_bind.mpr (wp_mono (board_updateLoop h hfitting hinitial) (fun _ _ h => h) ?_)
  rintro st s₂ ⟨hst, hflash₂⟩
  exact ⟨hst.loopRet, by rw [hflash₂, hflash₁]⟩

end Loop

/-! ## Which retimer gets what -/

section Install

variable {file : List UInt8} {flash : Nat → List UInt8} {ops : List UpdateOperation} {r : Nat}

theorem foldl_install_none (h : ∀ op ∈ ops, ¬Has op.applyBitmap.toUInt8 r) :
    ops.foldl (install file) flash r = flash r := by
  induction ops generalizing flash with
  | nil => rfl
  | cons op ops ih =>
      obtain ⟨hop, hops⟩ := List.forall_mem_cons.mp h
      rw [List.foldl_cons, ih hops, install, if_neg hop]

/-- No retimer is named twice, so nothing is overwritten: the last operation for
a retimer is the only one. -/
theorem foldl_install_of_mem {op : UpdateOperation} (hmem : op ∈ ops)
    (hdisjoint : ops.Pairwise fun x y =>
      ¬(Has x.applyBitmap.toUInt8 r ∧ Has y.applyBitmap.toUInt8 r))
    (h : Has op.applyBitmap.toUInt8 r) :
    ops.foldl (install file) flash r = slice file op.startOffset op.imageLength := by
  induction ops generalizing flash with
  | nil => exact absurd hmem List.not_mem_nil
  | cons op' ops ih =>
      obtain ⟨hfirst, hrest⟩ := List.pairwise_cons.mp hdisjoint
      rw [List.foldl_cons]
      rcases List.mem_cons.mp hmem with rfl | hmem
      · rw [foldl_install_none fun y hy hhas => hfirst y hy ⟨h, hhas⟩, install, if_pos h]
      · exact ih hmem hrest

theorem has_and {x y : UInt8} : Has (x &&& y) r ↔ Has x r ∧ Has y r := by
  simp only [Has, UInt8.toNat_and, Nat.testBit_and, Bool.and_eq_true]

theorem has_targeted {op : UpdateOperation} {retimerToUpdate : UInt8} :
    Has (op.targeted retimerToUpdate).applyBitmap.toUInt8 r
      ↔ Has op.applyBitmap.toUInt8 r ∧ Has retimerToUpdate r := by
  rw [UpdateOperation.targeted, UInt32.toUInt8_and, UInt8.toUInt8_toUInt32, has_and]

theorem disjoint_targeted {retimerToUpdate : UInt8}
    (h : ops.Pairwise fun x y => x.applyBitmap &&& y.applyBitmap = 0) :
    (ops.map (·.targeted retimerToUpdate)).Pairwise fun x y =>
      ¬(Has x.applyBitmap.toUInt8 r ∧ Has y.applyBitmap.toUInt8 r) := by
  refine List.pairwise_map.mpr (h.imp fun {x y} hxy => ?_)
  rintro ⟨hx, hy⟩
  have hboth := has_and.mpr ⟨(has_targeted.mp hx).1, (has_targeted.mp hy).1⟩
  rw [← UInt32.toUInt8_and, hxy] at hboth
  exact not_has_zero hboth

end Install

/-- **What an update installs.** On a board on which nothing fails, an update run
with an accepted file returns 0, and every retimer asked for that an operation
of the file names has the image of that operation; the others have what they
had. -/
theorem main_installs (b : Build) (fuel : Nat) (argv : List (List UInt8)) (args : Arguments)
    (fd imagefd : Int) (file : List UInt8) (ops : List UpdateOperation) (tr : List SysEvent)
    (res : Option Int32) (s s' : Board)
    (hargs : checkArguments b fuel argv = some (.ok args))
    (hcommand : args.command = retimerFwUpdate) (hfd : ¬fd < 0) (himagefd : ¬imagefd < 0)
    (hsize : file.length < 2 ^ 31)
    (hret : (parseCompositeImage b file file.length args.versionStr true).ret = 0)
    (hops : (parseCompositeImage b file file.length args.versionStr true).updateOps = some ops)
    (hmax : ∀ op ∈ ops, op.imageLength ≤ b.maxFwImageSize)
    (h : Run (main b fuel argv)
      (openedWith args fd imagefd file.length ⟨file.toArray, rfl⟩ true ++ tr) res)
    (hboard : Follows (Board.step b) s tr s') :
    res = some 0
      ∧ (∀ op ∈ ops, ∀ r, Has op.applyBitmap.toUInt8 r → Has args.retimerBitmap r →
        s'.flash r = slice file op.startOffset op.imageLength)
      ∧ ∀ r, (∀ op ∈ ops, ¬(Has op.applyBitmap.toUInt8 r ∧ Has args.retimerBitmap r)) →
        s'.flash r = s.flash r := by
  obtain ⟨hparsed, -⟩ := parse_accepts b hsize hret
  have hsound := hparsed.sound b hsize
  have hflashable := flashable_targeted hparsed hsize args.retimerBitmap
  rw [hops, Option.getD_some] at hsound hflashable
  rw [run_main_openedWith hargs hcommand hfd himagefd] at h
  have hrun := (run_updateImage_accepted hsize hret).mp h
  rw [hops, Option.getD_some] at hrun
  -- the run from the accepted file on, up to the closing of the device
  obtain ⟨tr₁, _, tr₂, rfl, hmessage, hrun₂⟩ := run_bind.mp hrun
  obtain ⟨tr₃, ret, tr₄, rfl, hupdate, hrun₄⟩ := run_bind.mp hrun₂
  obtain ⟨tr₅, _, tr₆, rfl, hclose, hrun₆⟩ := run_bind.mp hrun₄
  obtain ⟨rfl, rfl⟩ := run_ret.mp hrun₆
  obtain ⟨s₁, hboard₁, hboard₂⟩ := follows_append.mp hboard
  obtain ⟨s₂, hboard₃, hboard₄⟩ := follows_append.mp hboard₂
  have hflash₁ : s₁.flash = s.flash :=
    Board.flash_of_quiet (only_parseMessage.mono fun _ => IsMessage.quiet) hmessage hboard₁
  have hupdates : Ensures (Board.step b) (updateOperations b fd file args.retimerBitmap ops)
      (fun ret s' => ret = 0 ∧ s'.flash
        = (ops.map (·.targeted args.retimerBitmap)).foldl (install file) s₁.flash) s₁ :=
    board_updateOperations hflashable hmax
  have hend := wp_run hupdates hupdate hboard₃
  obtain ⟨hret₂, hflash₂⟩ : ret = 0 ∧ s₂.flash
      = (ops.map (·.targeted args.retimerBitmap)).foldl (install file) s₁.flash := hend
  rw [List.append_nil] at hboard₄
  have hflash₄ : s'.flash = s₂.flash :=
    Board.flash_of_quiet (closes_closeUnless.mono fun _ => IsClose.quiet) hclose hboard₄
  rw [hflash₁] at hflash₂
  refine ⟨by rw [hret₂], fun op hop r hhas hasked => ?_, fun r hnone => ?_⟩
  · have hmem : op.targeted args.retimerBitmap ∈ ops.map (·.targeted args.retimerBitmap) :=
      List.mem_map_of_mem hop
    rw [hflash₄, hflash₂, foldl_install_of_mem hmem (disjoint_targeted hsound.disjoint)
      (has_targeted.mpr ⟨hhas, hasked⟩)]
    rfl
  · rw [hflash₄, hflash₂]
    exact foldl_install_none (List.forall_mem_map.mpr fun op hop hhas =>
      hnone op hop (has_targeted.mp hhas))

section Small

def boardReply (b : Build) (s : Board) : (c : Call) → Option (Answer c × Board)
  | .i2cWrite fd slaveId writeData =>
      let mem :=
        if slaveId = b.fpgaI2cCntrlAddr then
          s.mem.store (addressOf writeData) (payloadOf writeData)
        else s.mem
      some (.ok (Vector.replicate 0 0),
        if IsTrigger b (.i2cWrite fd slaveId writeData) then
          ⟨mem, 2, s.programmed (triggerBitmap (.i2cWrite fd slaveId writeData))⟩
        else ⟨mem, s.busy, s.flash⟩)
  | .i2cRead _ slaveId writeData n =>
      if addressOf writeData + n ≤ dpramSize then
        none
      else if slaveId = b.fpgaI2cCntrlAddr ∧ addressOf writeData = fpgaUpdateStatusReg.toNat then
        if s.busy = 0 then
          some (.ok (Vector.replicate n 0), s)
        else if n = 0 then
          none
        else some (.ok (Vector.replicate n 1), { s with busy := s.busy - 1 })
      else some (.ok (Vector.replicate n 0), s)
  | c => (c.succeed []).map (·, s)

theorem boardReply_sound {b : Build} {s s' : Board} {c : Call} {a : Answer c}
    (h : boardReply b s c = some (a, s')) : Board.step b s ⟨c, a⟩ s' := by
  have hkeeps : ∀ {m : ByteMem}, KeepsStaging m m := fun _ _ => rfl
  cases c with
  | i2cWrite fd slaveId writeData =>
      obtain ⟨rfl, rfl⟩ := Prod.mk.inj (Option.some.inj h)
      refine ⟨trivial, ?_, ?_⟩
      · show if _ then _ else _
        by_cases hslave : slaveId = b.fpgaI2cCntrlAddr
        · simp only [if_pos hslave]
          split <;> exact hkeeps
        · simp only [if_neg hslave]
          split <;> exact hkeeps
      · rw [Board.update]
        by_cases htrigger : IsTrigger b (.i2cWrite fd slaveId writeData)
        · rw [if_pos htrigger, if_pos htrigger]
          have hminute : 2 < maxTimeoutSec := by decide
          exact ⟨hminute, rfl⟩
        · rw [if_neg htrigger, if_neg htrigger]
          exact ⟨rfl, rfl⟩
  | i2cRead fd slaveId writeData n =>
      simp only [boardReply] at h
      by_cases hdpram : addressOf writeData + n ≤ dpramSize
      · rw [if_pos hdpram] at h
        cases h
      rw [if_neg hdpram] at h
      by_cases hstatus : slaveId = b.fpgaI2cCntrlAddr
          ∧ addressOf writeData = fpgaUpdateStatusReg.toNat
      · rw [if_pos hstatus] at h
        by_cases hbusy : s.busy = 0
        · rw [if_pos hbusy] at h
          obtain ⟨rfl, rfl⟩ := Prod.mk.inj (Option.some.inj h)
          refine ⟨trivial, ⟨hkeeps, fun _ hin => absurd hin hdpram⟩, rfl, ?_⟩
          rw [if_pos hstatus, if_pos hbusy]
          exact ⟨by omega, by simp⟩
        · rw [if_neg hbusy] at h
          by_cases hn : n = 0
          · rw [if_pos hn] at h
            cases h
          rw [if_neg hn] at h
          obtain ⟨rfl, rfl⟩ := Prod.mk.inj (Option.some.inj h)
          refine ⟨trivial, ⟨hkeeps, fun _ hin => absurd hin hdpram⟩, rfl, ?_⟩
          rw [if_pos hstatus, if_neg hbusy]
          exact ⟨rfl, by simp [Nat.pos_of_ne_zero hn]⟩
      · rw [if_neg hstatus] at h
        obtain ⟨rfl, rfl⟩ := Prod.mk.inj (Option.some.inj h)
        refine ⟨trivial, ⟨hkeeps, fun _ hin => absurd hin hdpram⟩, rfl, ?_⟩
        rw [if_neg hstatus]
  | write fd buf =>
      obtain ⟨rfl, rfl⟩ := Prod.mk.inj (Option.some.inj h)
      exact ⟨rfl, hkeeps, rfl, rfl⟩
  | segfault => cases h
  | mmap fd n =>
      obtain ⟨rfl, rfl⟩ := Prod.mk.inj (Option.some.inj h)
      exact ⟨trivial, hkeeps, rfl, rfl⟩
  | _ =>
      obtain ⟨rfl, rfl⟩ := Prod.mk.inj (Option.some.inj h)
      exact ⟨trivial, hkeeps, rfl, rfl⟩

def pairMapped : Sys (Option Int32) :=
  (play (servingReply pairPackage.encode) 6 () (main defaultBuild 10 (targetArgv 3))).2.1

def blankBoard : Board := ⟨fun _ => 0, 0, fun _ => []⟩

def boardRun : List SysEvent × Sys (Option Int32) × Board :=
  play (boardReply defaultBuild) 80 blankBoard pairMapped

set_option maxRecDepth 4000 in
theorem run_boardRun : Run (main defaultBuild 10 (targetArgv 3))
    (openedWith (targetArguments 3) 3 3 pairPackage.encode.length
      ⟨pairPackage.encode.toArray, rfl⟩ true ++ boardRun.1) (some 0) := by
  have hmapped : Trace (main defaultBuild 10 (targetArgv 3))
      (openedWith (targetArguments 3) 3 3 pairPackage.encode.length
        ⟨pairPackage.encode.toArray, rfl⟩ true) pairMapped :=
    trace_play (servingReply pairPackage.encode) 6 () _
  have hrun : Run pairMapped boardRun.1 (some 0) := run_play rfl
  exact trace_append.mpr ⟨pairMapped, hmapped, hrun⟩

set_option maxRecDepth 4000 in
theorem follows_boardRun :
    Follows (Board.step defaultBuild) blankBoard boardRun.1 boardRun.2.2 :=
  follows_play (fun _ _ _ _ => boardReply_sound) 80 blankBoard pairMapped

set_option maxRecDepth 4000 in
theorem main_installs_pair : boardRun.2.2.flash 0 = [1, 2, 3] ∧ boardRun.2.2.flash 1 = [1, 2, 3]
    ∧ boardRun.2.2.flash 2 = [] := by
  have hfitting : ∀ op ∈ pairOperations, op.imageLength ≤ defaultBuild.maxFwImageSize := by decide
  obtain ⟨-, hnamed, hother⟩ := main_installs defaultBuild 10 (targetArgv 3) (targetArguments 3) 3 3
    pairPackage.encode pairOperations boardRun.1 (some 0) blankBoard boardRun.2.2 rfl rfl
    (by decide) (by decide) (pairPackage.length_encode.trans_lt pairPackage.size_lt)
    (parse_pairPackage _).1 (parse_pairPackage _).2 hfitting run_boardRun follows_boardRun
  have hfirst : pairOperations.head (by decide) ∈ pairOperations := List.head_mem _
  have hout : ¬Has (3 : UInt8) 2 := by decide
  have hnone : ∀ op ∈ pairOperations, ¬(Has op.applyBitmap.toUInt8 2 ∧ Has (3 : UInt8) 2) :=
    fun _ _ h => hout h.2
  have hblank := hother 2 hnone
  exact ⟨hnamed _ hfirst 0 rfl rfl, hnamed _ hfirst 1 rfl rfl, hblank⟩

end Small

end Retimer
