import Retimer.PublishedHash

/-!
# A hash service on a working machine

The other half of what the hash service promises: where every call does
what it is asked to and the FPGA is done with a read within the minute
that the service waits for it, every request that is served ends, and
every retimer that was asked for has the hash of its firmware. The
exception is an image size that is no number of pages, with which
nothing is ever published.

`Working.step` has both conditions, with the polls that are left as its
state: a call succeeds in full (`Succeeds`), and the poll that ends a
read finds it done (`Prompt`). The lemmas `working_f` go through the
request: the first attempt gets the firmware (`working_readRetimerfw`),
the copies return 0, the file has its full length and so the loop over
its blocks ends (`working_hashBlocks`). Where images are no number of
pages, `unpaged_readFirmware` has every read-back refused.

Whose firmware it is comes from the reading engine, which may take no
notice of a trigger while it is busy. On this machine it is never asked
to: `Idles` is the property of a program that sends no trigger while a
read is under way and leaves none behind, from a poll that has found the
read done (`idles_readRetimerfw`). So an FPGA that is idle at the start
takes notice of every trigger (`Idles.obedient`), and what is published
is what was delivered.

`Current` is the invariant between requests: the digest of every retimer
asked for is the hash of firmware that was delivered for it, `Refreshed`
what one request adds. `working_requests` is the induction.
-/

namespace Retimer

open Interaction Interaction.Prog

/-! ## The machine -/

/-- The call did what it was asked to, and in full. The directory may be there
or not, and a request may be unreadable. -/
def Succeeds : SysEvent → Prop
  | ⟨.i2cWrite _ _ _, .failed _⟩ | ⟨.i2cRead _ _ _ _, .failed _⟩ => False
  | ⟨.openFile _ _, fd⟩ => 0 ≤ fd
  | ⟨.fstat _, none⟩ | ⟨.ftruncate _ _, false⟩ | ⟨.malloc _, none⟩ | ⟨.read _ _, none⟩ => False
  | ⟨.write _ _, none⟩ | ⟨.lseek _ _, false⟩ | ⟨.mkdir _, false⟩ | ⟨.unlink _, false⟩ => False
  | ⟨.write _ buf, some n⟩ => n.val = buf.length
  | ⟨.evpMdCtxNew, false⟩ | ⟨.evpDigestInit, false⟩ | ⟨.evpDigestUpdate _, false⟩ => False
  | ⟨.evpDigestFinal, none⟩ | ⟨.sdBusReplyMethodReturn, false⟩ => False
  | _ => True

/-- How many polls will find the read under way, and what the one after them
finds. -/
def Prompt (b : Build) (left : Nat) : SysEvent → Nat → Prop
  | ⟨.i2cWrite _ slaveId writeData, _⟩, left' =>
      if IsReadTrigger b slaveId writeData then left' < maxTimeoutSec else left' = left
  | ⟨.i2cRead _ slaveId writeData _, .ok word⟩, left' =>
      if slaveId = b.fpgaI2cCntrlAddr ∧ addressOf writeData = fpgaReadStatusReg.toNat then
        left' = left - 1 ∧ if left = 0 then ReadDone word.toList else ReadBusy word.toList
      else left' = left
  | _, left' => left' = left

/-- The machine, on the polls that are left. -/
def Working.step (b : Build) : Env Call Answer Nat :=
  fun left ev left' => Succeeds ev ∧ Prompt b left ev left'

theorem Succeeds.completes {ev : SysEvent} (h : Succeeds ev) : Completes ev := by
  obtain ⟨c, a⟩ := ev
  cases c with
  | i2cWrite fd slaveId writeData => cases a <;> exact h
  | i2cRead fd slaveId writeData n => cases a <;> exact h
  | fstat fd => cases a <;> exact h
  | lseek fd off => cases a <;> exact h
  | write fd buf => cases a <;> exact h
  | _ => trivial

section Working

variable {b : Build} {fd dummyfd : Int} {tr : List SysEvent} {left left' r fuel : Nat} {ret : Int32}

theorem Working.succeeds (h : Follows (Working.step b) left tr left') :
    ∀ ev ∈ tr, Succeeds ev :=
  h.forall_mem fun _ _ _ hstep => hstep.1

theorem Working.completes (h : Follows (Working.step b) left tr left') :
    ∀ ev ∈ tr, Completes ev :=
  fun ev hev => (Working.succeeds h ev hev).completes

/-! ## Reading the firmware -/

theorem working_sendI2cCmdRead {slaveId : UInt8} {writeData : List UInt8} {n : Nat}
    {Q : Int32 × Vector UInt8 n → Nat → Prop}
    (hQ : ∀ word left', Prompt b left ⟨.i2cRead fd slaveId writeData n, .ok word⟩ left' →
      Q (0, word) left') :
    Ensures (Working.step b) (sendI2cCmdRead b fd slaveId writeData n) Q left := by
  intro answer left' hstep
  cases answer with
  | ok readData => exact ⟨trivial, hQ readData left' hstep.2⟩
  | failed errno => exact hstep.1.elim

theorem working_pollStatus {turns : Nat} {word : Vector UInt8 4} (hleft : left < turns) :
    Ensures (Working.step b) (pollStatus b fd fpgaReadStatusReg (· &&& fwReadStatusMask ≠ 0x0) turns
      word) (fun res _ => res.1 = 0 ∧ ReadDone res.2.toList) left := by
  induction turns generalizing left word with
  | zero => exact absurd hleft (Nat.not_lt_zero _)
  | succ turns ih =>
      unfold pollStatus
      refine wp_bind.mpr (working_sendI2cCmdRead fun word' left₁ hprompt => ?_)
      rw [Prompt, if_pos ⟨rfl, rfl⟩] at hprompt
      obtain ⟨rfl, hword⟩ := hprompt
      have hbyte : word'.toList.getD 0 0 = word'[0] := by simp
      dsimp only
      rw [if_neg (not_not.mpr rfl)]
      by_cases hzero : left = 0
      · rw [if_pos hzero] at hword
        have hdone := hword.1
        rw [ReadBusy, hbyte] at hdone
        rw [if_neg (by rwa [decide_eq_true_eq])]
        exact ⟨rfl, hword⟩
      · rw [if_neg hzero, ReadBusy, hbyte] at hword
        rw [if_pos (decide_eq_true hword)]
        exact ih (by omega)

/-- The first attempt gets the firmware. -/
theorem working_readRetimerfw {retimerNumber : UInt8}
    (h : Run (readRetimerfw b fd retimerNumber) tr ret)
    (hworking : Follows (Working.step b) left tr left') :
    ret = 0 ∧ ∃ word, (readStatuses b tr).getLast? = some word ∧ ReadDone word := by
  rw [readRetimerfw, maxUpdateRetryCount, readAttempts] at h
  obtain ⟨tr₁, ret₁, tr₂, rfl, hwrite, h₁⟩ := run_bind.mp h
  obtain ⟨left₁, hworking₁, hworking₂⟩ := follows_append.mp hworking
  obtain ⟨answer, tr₃, rfl, hanswer⟩ := run_perform_bind.mp hwrite
  obtain ⟨left₂, hstep, hworking₃⟩ := hworking₁
  cases answer with
  | failed errno => exact hstep.1.elim
  | ok readData =>
      obtain ⟨rfl, rfl⟩ := run_ret.mp hanswer
      obtain rfl := follows_nil.mp hworking₃
      have htrigger : IsReadTrigger b b.fpgaI2cCntrlAddr (regAddress fpgaReadStatusReg ++
          [((retimerNumber &&& nibble) <<< 4) ||| setRetimerFwRead, 0x0, 0x0, 0x0]) :=
        isReadTrigger_readTrigger
      have hprompt := hstep.2
      rw [Prompt, if_pos htrigger] at hprompt
      rw [if_neg (not_not.mpr rfl)] at h₁
      obtain ⟨tr₄, ⟨ret₂, w⟩, tr₅, rfl, hpoll, h₂⟩ := run_bind.mp h₁
      obtain ⟨left₃, hworking₄, -⟩ := follows_append.mp hworking₂
      have hend := wp_run (working_pollStatus hprompt) hpoll hworking₄
      obtain ⟨hret₂, hdone⟩ : ret₂ = 0 ∧ ReadDone w.toList := hend
      subst hret₂
      have hbyte₀ : w.toList.getD 0 0 = w[0] := by simp
      have hbyte₁ : w.toList.getD 1 0 = w[1] := by simp
      have hidle : w[0] &&& fwReadStatusMask = 0x0 := hbyte₀ ▸ not_not.mp hdone.1
      have hnack : ¬w[1] &&& fwReadNackMask ≠ 0 := hbyte₁ ▸ hdone.2
      dsimp only at h₂
      rw [if_neg (not_not.mpr rfl), if_pos hidle, if_neg hnack] at h₂
      obtain ⟨rfl, rfl⟩ := run_ret.mp h₂
      refine ⟨rfl, w.toList, ?_, hdone⟩
      rw [List.append_nil, readStatuses_append, List.getLast?_append,
        readStatuses_poll hpoll (by decide)]
      rfl

theorem working_copyImageFromFileToFpga {path : String} {f f' : TempFile}
    (h : Run (copyImageFromFileToFpga b f.fd fd b.fpgaI2cCntrlAddr) tr ret)
    (hok : ∀ ev ∈ tr, Succeeds ev) (hfile : Follows (TempFile.step path) f tr f')
    (hlength : f.contents.length = b.maxFwImageSize) : ret = 0 := by
  obtain ⟨size, tr₁, rfl, h₁⟩ := run_perform_bind.mp h
  obtain ⟨hstat, hok₁⟩ := List.forall_mem_cons.mp hok
  obtain ⟨f₁, hsized, -⟩ := hfile
  cases size with
  | none => exact hstat.elim
  | some size =>
      obtain ⟨-, hlen⟩ := hsized
      obtain rfl : size = b.maxFwImageSize := (hlen rfl).trans hlength
      have hmin := b.maxFwImageSize_ge
      dsimp only at h₁
      rw [if_neg (by omega)] at h₁
      obtain ⟨fwBuf, tr₂, rfl, h₂⟩ := run_perform_bind.mp h₁
      obtain ⟨halloc, hok₂⟩ := List.forall_mem_cons.mp hok₁
      cases fwBuf with
      | none => exact halloc.elim
      | some fwBuf =>
          obtain ⟨bytes, tr₃, rfl, h₃⟩ := run_perform_bind.mp h₂
          obtain ⟨hread, hok₃⟩ := List.forall_mem_cons.mp hok₂
          cases bytes with
          | none => exact hread.elim
          | some bytes =>
              have hcompletes := Completes.follows fun ev hev => (hok₃ ev hev).completes
              have hend := wp_run (completes_copyImageFromMemToFpga (Nat.le_refl _)) h₃ hcompletes
              exact hend

/-- An image size that is no number of pages cannot be read back: the copy
checks for it and fails. -/
theorem unpaged_copyImageFromFpga {path : String} {f f' : TempFile}
    (h : Run (copyImageFromFpga b f.fd fd b.fpgaI2cCntrlAddr) tr ret)
    (hfile : Follows (TempFile.step path) f tr f')
    (hpages : f.contents.length % bytePerPage ≠ 0) : ret ≠ 0 := by
  rintro rfl
  obtain ⟨size, fwBuf, pages, tr₁, sought, n, hpage, rfl, hread⟩ := success_copyImageFromFpga h
  obtain ⟨f₁, ⟨-, hlen⟩, -⟩ := hfile
  rw [hlen rfl] at hpage
  exact hpages hpage

/-- The file as it is read back. -/
theorem TempFile.follows_cleared {path : String} {f f' : TempFile}
    {load read rest : List SysEvent} {size : Nat}
    (h : Follows (TempFile.step path) f (⟨.ftruncate f.fd size, true⟩ :: (load ++ (read
      ++ ⟨.lseek f.fd 0, true⟩ :: rest))) f')
    (hload : ∀ ev ∈ load, IsLoading ev.1) (hread : ∀ ev ∈ read, IsBus ev.1) :
    ∃ f₁ : TempFile, f₁.fd = f.fd ∧ f₁.contents.length = size
      ∧ Follows (TempFile.step path) f₁ rest f' := by
  obtain ⟨f₁, hf₁, hfile₁⟩ := h
  obtain rfl : f₁ = f.truncate size := hf₁.trans (if_pos rfl)
  obtain ⟨f₂, hfile₂, hfile₃⟩ := follows_append.mp hfile₁
  obtain ⟨hcontents, hfd⟩ := TempFile.follows_loading hfile₂ hload
  obtain ⟨f₃, hfile₄, f₄, hf₄, hfile₅⟩ := follows_append.mp hfile₃
  obtain rfl := TempFile.follows_bus hfile₄ hread
  have hsame : f.fd = f₃.fd := hfd.symm
  rw [hsame] at hf₄
  obtain rfl := TempFile.step_rewind hf₄
  refine ⟨f₃.rewound true, hfd, ?_, hfile₅⟩
  rw [TempFile.rewound_contents, hcontents, TempFile.length_truncate]

theorem bus_readRetimerfw {retimerNumber : UInt8} :
    Only IsBus (readRetimerfw b fd retimerNumber) :=
  only_readAttempts (fun _ h => h.isBus) (fun _ => trivial) trivial

theorem length_readPages {slaveId : UInt8} {count i : Nat} :
    Returns (fun res => ∀ pages, res = .ok pages → pages.length = count * bytePerPage)
      (readPages b fd slaveId count i) := by
  induction count generalizing i with
  | zero =>
      rintro _ ⟨⟩
      rfl
  | succ count ih =>
      unfold readPages
      refine returns_sendI2cCmdRead.bind fun res _ => Returns.ite (fun _ => ?_) fun _ => ?_
      · rintro _ ⟨⟩
      · refine ih.bind fun rest hrest => ?_
        cases rest with
        | error ret => rintro _ ⟨⟩
        | ok pages =>
            rintro _ ⟨⟩
            rw [List.length_append, hrest pages rfl, Vector.length_toList, Nat.succ_mul,
              Nat.add_comm]

/-- A read-back does not make the file longer. -/
theorem TempFile.length_fetched {path : String} {f f' : TempFile}
    (h : Run (copyImageFromFpga b f.fd fd b.fpgaI2cCntrlAddr) tr 0)
    (hfile : Follows (TempFile.step path) f tr f') (hseek : ∀ ev ∈ tr, Seeks ev) :
    f'.contents.length = f.contents.length := by
  obtain ⟨size, fwBuf, pages, tr₁, sought, n, -, rfl, hread⟩ := success_copyImageFromFpga h
  obtain ⟨rfl, rfl⟩ := follows_written (only_readPages_isBus.run hread) hfile
  have hsought : sought = true := hseek ⟨.lseek f.fd 0, sought⟩ (by simp)
  have hpages := length_readPages.run hread pages rfl
  have hin : pages.length ≤ f.contents.length := by
    rw [hpages]
    exact Nat.le_trans (Nat.div_mul_le_self _ _) (Nat.mod_le _ _)
  rw [TempFile.writeAt_start (TempFile.rewound_offset (Or.inr hsought)),
    TempFile.rewound_contents]
  simp only [List.length_append, List.length_take, List.length_drop, List.length_replicate]
  omega

theorem working_readFirmware {path : String} {f f' : TempFile}
    (h : Run (readFirmware b fd f.fd r) tr ret)
    (hworking : Follows (Working.step b) left tr left')
    (hfile : Follows (TempFile.step path) f tr f') (hpaged : b.maxFwImageSize % bytePerPage = 0) :
    ret = 0 := by
  have hmin := b.maxFwImageSize_ge
  have hsucceeds := Working.succeeds hworking
  obtain ⟨truncated, tr₁, rfl, h₁⟩ := run_perform_bind.mp h
  obtain ⟨htruncated, hsucceeds₁⟩ := List.forall_mem_cons.mp hsucceeds
  cases truncated with
  | false => exact htruncated.elim
  | true =>
      rw [if_neg Bool.true_eq_false.mp] at h₁
      obtain ⟨load, ret₁, tr₂, rfl, hload, h₂⟩ := run_bind.mp h₁
      obtain ⟨hsucceeds₂, hsucceeds₃⟩ := List.forall_mem_append.mp hsucceeds₁
      obtain ⟨left₁, -, hworking₁⟩ := hworking
      obtain ⟨left₂, -, hworking₂⟩ := follows_append.mp hworking₁
      have hret₁ : ret₁ = 0 := by
        obtain ⟨f₁, hf₁, hfile₁⟩ := hfile
        obtain rfl : f₁ = f.truncate b.maxFwImageSize := hf₁.trans (if_pos rfl)
        obtain ⟨f₂, hfile₂, -⟩ := follows_append.mp hfile₁
        have hload' : Run (copyImageFromFileToFpga b (f.truncate b.maxFwImageSize).fd fd
          b.fpgaI2cCntrlAddr) load ret₁ := hload
        exact working_copyImageFromFileToFpga hload' hsucceeds₂ hfile₂
          (TempFile.length_truncate _ _)
      rw [if_neg (not_not.mpr hret₁)] at h₂
      obtain ⟨read, ret₂, tr₃, rfl, hread, h₃⟩ := run_bind.mp h₂
      obtain ⟨-, hsucceeds₄⟩ := List.forall_mem_append.mp hsucceeds₃
      obtain ⟨left₃, hworking₃, -⟩ := follows_append.mp hworking₂
      obtain ⟨rfl, -⟩ := working_readRetimerfw hread hworking₃
      rw [if_neg (not_not.mpr rfl)] at h₃
      obtain ⟨sought, tr₄, rfl, h₄⟩ := run_perform_bind.mp h₃
      obtain ⟨hsought, hsucceeds₅⟩ := List.forall_mem_cons.mp hsucceeds₄
      cases sought with
      | false => exact hsought.elim
      | true =>
          rw [if_neg Bool.true_eq_false.mp] at h₄
          obtain ⟨f₁, hfd, hlength, hfile₁⟩ := TempFile.follows_cleared hfile
            (only_loading.run hload) (bus_readRetimerfw.run hread)
          obtain ⟨fetch, ret₃, tr₅, rfl, hfetch, h₅⟩ := run_bind.mp h₄
          obtain ⟨hsucceeds₆, hsucceeds₇⟩ := List.forall_mem_append.mp hsucceeds₅
          obtain ⟨f₂, hfile₂, -⟩ := follows_append.mp hfile₁
          rw [← hfd] at hfetch
          obtain rfl := completes_copyImageFromFpga hfetch hfile₂
            (fun ev hev => (hsucceeds₆ ev hev).completes) (by omega) (by rw [hlength, hpaged])
          rw [if_neg (not_not.mpr rfl)] at h₅
          obtain ⟨sought, tr₆, rfl, h₆⟩ := run_perform_bind.mp h₅
          have hsought' := (List.forall_mem_cons.mp hsucceeds₇).1
          cases sought with
          | false => exact hsought'.elim
          | true =>
              rw [if_neg Bool.true_eq_false.mp] at h₆
              exact (run_ret.mp h₆).2

/-- What is no number of pages does not get into the file. -/
theorem unpaged_readFirmware {path : String} {f f' : TempFile}
    (h : Run (readFirmware b fd f.fd r) tr ret) (hfile : Follows (TempFile.step path) f tr f')
    (hpaged : b.maxFwImageSize % bytePerPage ≠ 0) : ret ≠ 0 := by
  rintro rfl
  obtain ⟨load, read, fetch, rfl, hload, hread, hfetch⟩ := success_readFirmware h
  obtain ⟨f₁, hfd, hlength, hfile₁⟩ := TempFile.follows_cleared hfile (only_loading.run hload)
    (bus_readRetimerfw.run hread)
  obtain ⟨f₂, hfile₂, -⟩ := follows_append.mp hfile₁
  rw [← hfd] at hfetch
  exact unpaged_copyImageFromFpga hfetch hfile₂ (hlength ▸ hpaged) rfl

/-- The status word that ended the read is the last one of all. On a machine
that answers in time it is neither busy nor a NACK. -/
theorem lastReadDone_readFirmware (h : Run (readFirmware b fd dummyfd r) tr 0)
    (hworking : Follows (Working.step b) left tr left') : LastReadDone b tr := by
  obtain ⟨load, read, fetch, rfl, -, hread, hfetch⟩ := success_readFirmware h
  obtain ⟨left₁, -, hworking₁⟩ := hworking
  obtain ⟨left₂, -, hworking₂⟩ := follows_append.mp hworking₁
  obtain ⟨left₃, hworking₃, -⟩ := follows_append.mp hworking₂
  obtain ⟨-, word, hlast, hdone⟩ := working_readRetimerfw hread hworking₃
  have hrest : readStatuses b (⟨.lseek dummyfd 0, true⟩
      :: (fetch ++ [⟨.lseek dummyfd 0, true⟩]) : List SysEvent) = [] :=
    readStatuses_fetch (only_fetching.run hfetch)
  intro word' hword'
  rw [← List.cons_append, readStatuses_append, readStatuses_append, hrest, List.append_nil,
    List.getLast?_append, hlast] at hword'
  obtain rfl := Option.some.inj hword'
  exact hdone

/-! ## Hashing it -/

theorem working_hashBlocks {path : String} {f : TempFile}
    (hfuel : f.contents.length - f.offset < fuel) :
    Ensures ((Working.step b).prod (TempFile.step path)) (hashBlocks f.fd fuel)
      (fun res _ => res = some .endOfFile) (left, f) := by
  induction fuel generalizing left f with
  | zero => exact absurd hfuel (Nat.not_lt_zero _)
  | succ fuel ih =>
      unfold hashBlocks
      refine wp_bind.mpr (wp_perform.mpr ?_)
      rintro block ⟨left₁, f₁⟩ ⟨hworking, hfile⟩
      refine ⟨trivial, ?_⟩
      cases block with
      | none => exact hworking.1.elim
      | some block =>
          obtain ⟨hblock, -, hf₁⟩ : block.val = slice f.contents f.offset block.val.length
              ∧ (block.val = [] → blockSize = 0 ∨ f.contents.length ≤ f.offset)
              ∧ f₁ = { f with offset := f.offset + block.val.length } := by
            simpa only [TempFile.step, if_pos] using hfile
          dsimp only
          by_cases hempty : block.val = []
          · rw [if_pos hempty]
            rfl
          · rw [if_neg hempty]
            refine wp_bind.mpr (wp_perform.mpr ?_)
            rintro updated ⟨left₂, f₂⟩ ⟨hworking₂, hfile₂⟩
            refine ⟨trivial, ?_⟩
            cases updated with
            | false => exact hworking₂.1.elim
            | true =>
                obtain rfl : f₂ = f₁ := hfile₂
                subst hf₁
                rw [if_neg Bool.true_eq_false.mp]
                have hpos := List.length_pos_iff.mpr hempty
                have hlen := congrArg List.length hblock
                rw [slice, List.length_take, List.length_drop] at hlen
                have hless : f.contents.length - (f.offset + block.val.length) < fuel := by omega
                exact ih (f := { f with offset := f.offset + block.val.length }) hless

theorem working_computeSha384 {path : String} {f : TempFile}
    (hfuel : f.contents.length - f.offset < fuel) :
    Ensures ((Working.step b).prod (TempFile.step path)) (computeSha384 fuel f.fd)
      (fun res _ => ∃ hash, res = some (.ok hash)) (left, f) := by
  unfold computeSha384
  refine wp_bind.mpr (wp_perform.mpr ?_)
  rintro ctx ⟨left₁, f₁⟩ ⟨hworking, rfl⟩
  refine ⟨trivial, ?_⟩
  cases ctx with
  | false => exact hworking.1.elim
  | true =>
      rw [if_neg Bool.true_eq_false.mp]
      refine wp_bind.mpr (wp_perform.mpr ?_)
      rintro init ⟨left₂, f₂⟩ ⟨hworking₂, rfl⟩
      refine ⟨trivial, ?_⟩
      cases init with
      | false => exact hworking₂.1.elim
      | true =>
          rw [if_neg Bool.true_eq_false.mp]
          refine wp_bind.mpr (wp_mono (working_hashBlocks hfuel) (fun _ _ h => h) ?_)
          rintro _ ⟨left₃, f₃⟩ rfl
          refine wp_bind.mpr (wp_perform.mpr ?_)
          rintro final ⟨left₄, f₄⟩ ⟨hworking₄, -⟩
          refine ⟨trivial, ?_⟩
          cases final with
          | none => exact hworking₄.1.elim
          | some hash => exact fun _ _ _ => ⟨trivial, hash, rfl⟩

theorem length_readFirmware {path : String} {f f' : TempFile}
    (h : Run (readFirmware b fd f.fd r) tr 0) (hfile : Follows (TempFile.step path) f tr f')
    (hok : ∀ ev ∈ tr, Succeeds ev) : f'.contents.length = b.maxFwImageSize := by
  obtain ⟨load, read, fetch, rfl, hload, hread, hfetch⟩ := success_readFirmware h
  obtain ⟨f₁, hfd, hlength, hfile₁⟩ := TempFile.follows_cleared hfile (only_loading.run hload)
    (bus_readRetimerfw.run hread)
  obtain ⟨f₂, hfile₂, f₃, hseek, rfl⟩ := follows_append.mp hfile₁
  rw [← hfd] at hfetch
  have hseeks : ∀ ev ∈ fetch, Seeks ev := fun ev hev =>
    (hok ev (by simp [hev])).completes.seeks
  rw [← hlength, ← TempFile.length_fetched hfetch hfile₂ hseeks]
  cases TempFile.effect_of_step hseek with
  | moved offset => rfl

end Working

/-! ## Triggers -/

/-- From an FPGA that reads nothing, `p` sends no trigger while a read is under
way, and leaves the FPGA reading nothing. The second half is what lets such
programs follow each other. -/
def Idles (b : Build) (sha384 : List UInt8 → Vector UInt8 48) {α : Type} (p : Sys α) : Prop :=
  ∀ s : Nat × ReadEngine × TempFile × List UInt8, s.2.1.reading = none →
    wp ((Working.step b).prod (serviceEnv b sha384)) (fun s ev => s.2.1.TriggersIdle b ev) p
      (fun _ s' => s'.2.1.reading = none) s

section Idles

variable {b : Build} {sha384 : List UInt8 → Vector UInt8 48} {fd dummyfd : Int} {fuel r : Nat}
  {behind : UInt8} {digests : Digests} {α β : Type} {p : Sys α}

theorem Idles.bind {f : α → Sys β} (hp : Idles b sha384 p) (hf : ∀ a, Idles b sha384 (f a)) :
    Idles b sha384 (p >>= f) :=
  fun s hs => wp_bind.mpr (wp_mono (hp s hs) (fun _ _ h => h) fun a s' hs' => hf a s' hs')

theorem Idles.ite {P : Prop} [Decidable P] {q : Sys α} (hp : Idles b sha384 p)
    (hq : Idles b sha384 q) : Idles b sha384 (if P then p else q) := by
  split
  · exact hp
  · exact hq

theorem idles_of_only (hp : Only StartsNoRead p) : Idles b sha384 p := fun _ hs =>
  wp_of_only hp (fun _ _ _ _ he hs henv => ⟨ReadEngine.StartsNoRead.triggersIdle he,
    ReadEngine.step_idle henv.2.1 he hs⟩) hs

/-- What the machine and the FPGA each see to, without a trigger. -/
theorem wp_of_only_startsNoRead {Q : α → Nat → Prop} {Q' : α → ReadEngine → Prop}
    {s : Nat × ReadEngine × TempFile × List UInt8} (hp : Only StartsNoRead p)
    (hworking : Ensures (Working.step b) p Q s.1)
    (hengine : Ensures (ReadEngine.step b) p Q' s.2.1) :
    wp ((Working.step b).prod (serviceEnv b sha384)) (fun s ev => s.2.1.TriggersIdle b ev) p
      (fun a s' => Q a s'.1 ∧ Q' a s'.2.1) s := by
  have hleft : Ensures ((Working.step b).prod (serviceEnv b sha384)) p (fun a s' => Q a s'.1) s :=
    Ensures.simulate (I := fun _ => True) hp (fun _ _ _ _ _ _ h => ⟨h.1, trivial⟩) trivial hworking
  have hright : Ensures ((Working.step b).prod (serviceEnv b sha384)) p
      (fun a s' => Q' a s'.2.1) s := by
    have hstep : ∀ (s : Nat × ReadEngine × TempFile × List UInt8) (c : Call) (a : Answer c)
        (s' : Nat × ReadEngine × TempFile × List UInt8), StartsNoRead c → True →
        ((Working.step b).prod (serviceEnv b sha384)) s ⟨c, a⟩ s' →
        ReadEngine.step b s.2.1 ⟨c, a⟩ s'.2.1 ∧ True :=
      fun _ _ _ _ _ _ h => ⟨h.2.1, trivial⟩
    exact Ensures.simulate (I := fun _ => True)
      (π := fun s : Nat × ReadEngine × TempFile × List UInt8 => s.2.1) hp hstep trivial hengine
  exact wp_mono ((hleft.and hright).of_only hp)
    (fun _ _ he => ReadEngine.StartsNoRead.triggersIdle he) fun _ _ h => h

/-- The minute is enough, so the read is over before the next trigger. On this
machine a second attempt is only made after a word that is not busy. -/
theorem idles_readRetimerfw {retimerNumber : UInt8} :
    Idles b sha384 (readRetimerfw b fd retimerNumber) := by
  intro s hs
  have hwrite : wp ((Working.step b).prod (serviceEnv b sha384))
      (fun s ev => s.2.1.TriggersIdle b ev)
      (sendI2cCmdWrite b fd b.fpgaI2cCntrlAddr (readTrigger retimerNumber))
      (fun ret s' => ret = 0 ∧ s'.1 < maxTimeoutSec) s := by
    rintro answer s₁ ⟨⟨hsucceeds, hprompt⟩, -⟩
    refine ⟨fun _ => hs, ?_⟩
    cases answer with
    | failed errno => exact hsucceeds.elim
    | ok readData =>
        rw [Prompt, if_pos isReadTrigger_readTrigger] at hprompt
        exact ⟨rfl, hprompt⟩
  have hpolls : Only StartsNoRead (pollStatus b fd fpgaReadStatusReg
      (· &&& fwReadStatusMask ≠ 0x0) maxTimeoutSec clearedBuffer) :=
    only_pollStatus (fun _ hmsg => IsMessage.startsNoRead hmsg.isMessage) trivial
  rw [readRetimerfw, maxUpdateRetryCount, readAttempts]
  refine wp_bind.mpr (wp_mono hwrite (fun _ _ h => h) ?_)
  rintro _ s₁ ⟨rfl, hprompt⟩
  rw [if_neg (not_not.mpr rfl)]
  refine wp_bind.mpr (wp_mono (wp_of_only_startsNoRead hpolls (working_pollStatus hprompt)
    (idle_pollStatus (by decide))) (fun _ _ h => h) ?_)
  rintro ⟨ret, w⟩ s₂ ⟨⟨rfl, hdone⟩, hidle⟩
  have hbyte₀ : w.toList.getD 0 0 = w[0] := by simp
  have hbyte₁ : w.toList.getD 1 0 = w[1] := by simp
  have hover : w[0] &&& fwReadStatusMask = 0x0 := hbyte₀ ▸ not_not.mp hdone.1
  have hnack : ¬w[1] &&& fwReadNackMask ≠ 0 := hbyte₁ ▸ hdone.2
  dsimp only
  rw [if_neg (not_not.mpr rfl), if_pos hover, if_neg hnack]
  exact hidle rfl hdone.1

theorem Idles.request {c : Call} {f : Answer c → Sys β} (hc : StartsNoRead c)
    (hf : ∀ r, Idles b sha384 (f r)) : Idles b sha384 (Sys.request c >>= f) :=
  Idles.bind (idles_of_only (only_perform.mpr hc)) hf

theorem idles_readFirmware : Idles b sha384 (readFirmware b fd dummyfd r) := by
  have hret : ∀ {ret : Int32}, Idles b sha384 (.ret ret) := idles_of_only trivial
  have hload : Only StartsNoRead (copyImageFromFileToFpga b dummyfd fd b.fpgaI2cCntrlAddr) :=
    only_loading.mono fun _ => IsLoading.startsNoRead
  have hfetch : Only StartsNoRead (copyImageFromFpga b dummyfd fd b.fpgaI2cCntrlAddr) :=
    only_fetching.mono fun _ h => (ReadEngine.isQuiet_of_fetching h).startsNoRead
  unfold readFirmware
  refine Idles.request trivial fun truncated => Idles.ite hret ?_
  refine (idles_of_only hload).bind fun ret => Idles.ite hret ?_
  refine idles_readRetimerfw.bind fun ret => Idles.ite hret ?_
  refine Idles.request trivial fun sought => Idles.ite hret ?_
  refine (idles_of_only hfetch).bind fun ret => Idles.ite hret ?_
  exact Idles.request trivial fun sought => Idles.ite hret hret

theorem idles_hashFirmware :
    Idles b sha384 (hashFirmware b fuel behind fd dummyfd r digests) := by
  have hhash : Only StartsNoRead (computeSha384 fuel dummyfd) :=
    hashing_computeSha384.mono fun c hc => by
      cases c with
      | i2cWrite fd slaveId writeData => exact hc.elim
      | _ => trivial
  unfold hashFirmware
  refine idles_readFirmware.bind fun ret => Idles.ite (idles_of_only trivial) ?_
  refine (idles_of_only hhash).bind fun res => ?_
  rcases res with _ | ret | hash <;> exact idles_of_only trivial

theorem idles_readFWImagenComputeHash :
    Idles b sha384 (readFWImagenComputeHash b fuel behind r digests) := by
  have hclosed : ∀ {fd : Int} {res : Option (Int32 × Digests)},
      Idles b sha384 (Sys.close fd >>= fun _ => .ret res) :=
    Idles.request trivial fun _ => idles_of_only trivial
  have hdelete : ∀ {dummyfd : Int} {ret : Int32}, Idles b sha384 (deleteFile dummyfd ret) :=
    Idles.request trivial fun _ => Idles.request trivial fun _ =>
      idles_of_only trivial
  have hfound : Idles b sha384 hashDirectory :=
    Idles.request trivial fun _ => Idles.ite (idles_of_only trivial)
      (idles_of_only (only_perform.mpr trivial))
  unfold readFWImagenComputeHash
  refine Idles.request trivial fun fd => Idles.ite hclosed ?_
  refine hfound.bind fun directory => Idles.ite hclosed ?_
  refine Idles.request trivial fun dummyfd => Idles.ite ?_ ?_
  · exact Idles.ite (hdelete.bind fun ret => hclosed) hclosed
  · refine idles_hashFirmware.bind fun res => ?_
    cases res with
    | none => exact idles_of_only trivial
    | some res => exact hdelete.bind fun ret => hclosed

theorem idles_methodComputeHash :
    Idles b sha384 (methodComputeHash b fuel behind digests) := by
  unfold methodComputeHash
  refine Idles.request trivial fun retimerId => ?_
  cases retimerId with
  | none => exact idles_of_only trivial
  | some retimerId =>
      refine Idles.ite (Idles.request trivial fun ret => idles_of_only trivial) ?_
      refine Idles.request trivial fun replied => Idles.ite (idles_of_only trivial) ?_
      refine idles_readFWImagenComputeHash.bind fun res => ?_
      cases res with
      | none => exact idles_of_only trivial
      | some res => exact Idles.request trivial fun _ => idles_of_only trivial

/-- So the FPGA takes notice of every trigger. -/
theorem Idles.obedient {tr : List SysEvent} {a : α}
    {s s' : Nat × ReadEngine × TempFile × List UInt8} (hp : Idles b sha384 p) (h : Run p tr a)
    (henv : Follows ((Working.step b).prod (serviceEnv b sha384)) s tr s')
    (hidle : s.2.1.reading = none) :
    Follows ((Working.step b).prod (obedientEnv b sha384)) s tr s' ∧ s'.2.1.reading = none := by
  have hend := wp_run (hp s hidle) h henv
  refine ⟨?_, hend⟩
  exact (wp_follows (hp s hidle) h henv).map (π := id) fun _ _ _ hstep =>
    ⟨hstep.2.1, ReadEngine.obedient_of_idle hstep.2.2.1 hstep.1, hstep.2.2.2⟩

end Idles

/-! ## A request -/

/-- The digests with the hash of firmware that was delivered for `r`, where an
image is a number of pages. -/
def Refreshed (b : Build) (sha384 : List UInt8 → Vector UInt8 48) (r : Nat)
    (delivered : List (Nat × List UInt8)) (digests digests' : Digests) : Prop :=
  if b.maxFwImageSize % bytePerPage = 0 then
    ∃ fw, (r, fw) ∈ delivered ∧ digests' = digests.store r (hexText (sha384 fw) ++ [0])
  else digests' = digests

def Asked (tr : List SysEvent) (r : Nat) : Prop :=
  ∃ retimerId : UInt32, ⟨.sdBusMessageRead, some retimerId⟩ ∈ tr ∧ retimerId.toNat = r

/-- Anything but reading a request. -/
def NoRequest (c : Call) : Prop := c ≠ .sdBusMessageRead

section Requests

variable {b : Build} {sha384 : List UInt8 → Vector UInt8 48} {fd dummyfd : Int} {fuel r : Nat}
  {behind : UInt8} {digests : Digests} {tr : List SysEvent} {left left' : Nat}
  {s s' : ReadEngine × TempFile × List UInt8}

theorem Refreshed.mono {delivered delivered' : List (Nat × List UInt8)} {digests' : Digests}
    (h : Refreshed b sha384 r delivered digests digests') (hsub : delivered ⊆ delivered') :
    Refreshed b sha384 r delivered' digests digests' := by
  unfold Refreshed at h ⊢
  by_cases hpaged : b.maxFwImageSize % bytePerPage = 0
  · rw [if_pos hpaged] at h ⊢
    obtain ⟨fw, hfw, hdigests⟩ := h
    exact ⟨fw, hsub hfw, hdigests⟩
  · rw [if_neg hpaged] at h ⊢
    exact h

theorem working_hashFirmware {res : Option (Int32 × Digests)} (hr : r < maxRetimers)
    (hfuel : b.maxFwImageSize < fuel)
    (h : Run (hashFirmware b fuel behind fd s.2.1.fd r digests) tr res)
    (henv : Follows ((Working.step b).prod (obedientEnv b sha384)) (left, s) tr (left', s')) :
    ∃ ret digests', res = some (ret, digests')
      ∧ Refreshed b sha384 r s'.1.delivered digests digests' := by
  obtain ⟨tr₁, ret, tr₂, rfl, hread, h₁⟩ := run_bind.mp h
  obtain ⟨⟨left₁, s₁⟩, henv₁, henv₂⟩ := follows_append.mp henv
  unfold Refreshed
  by_cases hpaged : b.maxFwImageSize % bytePerPage = 0
  · obtain rfl := working_readFirmware hread henv₁.left henv₁.right.right.left hpaged
    have hlength : s₁.2.1.contents.length = b.maxFwImageSize :=
      length_readFirmware hread henv₁.right.right.left (Working.succeeds henv₁.left)
    obtain ⟨hdelivered, hoffset, hfd⟩ := run_readFirmware hr hread henv₁.right.left
      henv₁.right.right.left (lastReadDone_readFirmware hread henv₁.left)
      (Completes.lastWriteFull (Working.completes henv₁.left))
    rw [if_neg (not_not.mpr rfl)] at h₁
    obtain ⟨tr₃, res₃, tr₄, rfl, hhash, h₂⟩ := run_bind.mp h₁
    obtain ⟨⟨left₂, s₂⟩, henv₃, henv₄⟩ := follows_append.mp henv₂
    have hleft : s₁.2.1.contents.length - s₁.2.1.offset < fuel := by omega
    have hfile : Follows ((Working.step b).prod (TempFile.step hashFile)) (left₁, s₁.2.1) tr₃
        (left₂, s₂.2.1) :=
      Follows.map (π := fun s => (s.1, s.2.2.1)) (fun _ _ _ hstep => ⟨hstep.1, hstep.2.2.1⟩) henv₃
    rw [← hfd] at hhash
    have hend := wp_run (working_computeSha384 hleft) hhash hfile
    obtain ⟨hash, hres⟩ : ∃ hash, res₃ = some (.ok hash) := hend
    subst hres
    obtain ⟨hgiven, -⟩ := run_computeSha384 hhash henv₃.right.right
    obtain ⟨rfl, rfl⟩ := run_ret.mp h₂
    refine ⟨0, _, rfl, ?_⟩
    rw [if_pos hpaged, encodeHash_initial]
    have hsha := hgiven rfl
    rw [hoffset, List.drop_zero] at hsha
    refine ⟨s₁.2.1.contents, ?_, by rw [hsha]⟩
    exact ReadEngine.delivered_subset henv₂.right.left hdelivered
  · have hret := unpaged_readFirmware hread henv₁.right.right.left hpaged
    rw [if_pos hret] at h₁
    obtain ⟨-, rfl⟩ := run_ret.mp h₁
    refine ⟨ret, digests, rfl, ?_⟩
    rw [if_neg hpaged]

theorem working_hashDirectory {found : Bool} (h : Run hashDirectory tr found)
    (hok : ∀ ev ∈ tr, Succeeds ev) : found = true := by
  obtain ⟨there, tr₁, rfl, h₁⟩ := run_perform_bind.mp h
  cases there with
  | true => exact (run_ret.mp h₁).2
  | false =>
      obtain ⟨made, tr₂, rfl, h₂⟩ := run_perform_bind.mp h₁
      obtain ⟨rfl, rfl⟩ := run_ret.mp h₂
      have hmade := hok ⟨.mkdir "/tmp/hash", found⟩ (by simp)
      cases found with
      | true => rfl
      | false => exact hmade.elim

theorem working_readFWImagenComputeHash {res : Option (Int32 × Digests)} (hr : r < maxRetimers)
    (hfuel : b.maxFwImageSize < fuel)
    (h : Run (readFWImagenComputeHash b fuel behind r digests) tr res)
    (henv : Follows ((Working.step b).prod (obedientEnv b sha384)) (left, s) tr (left', s')) :
    ∃ ret digests', res = some (ret, digests')
      ∧ Refreshed b sha384 r s'.1.delivered digests digests' := by
  have hsucceeds := Working.succeeds henv.left
  obtain ⟨fd, tr₁, rfl, h₁⟩ := run_perform_bind.mp h
  obtain ⟨hfd, hsucceeds₁⟩ := List.forall_mem_cons.mp hsucceeds
  have hfd : 0 ≤ fd := hfd
  rw [if_neg (Int.not_lt.mpr hfd)] at h₁
  obtain ⟨tr₂, found, tr₃, rfl, hdir, h₂⟩ := run_bind.mp h₁
  obtain ⟨hsucceeds₂, hsucceeds₃⟩ := List.forall_mem_append.mp hsucceeds₁
  obtain rfl := working_hashDirectory hdir hsucceeds₂
  rw [if_neg Bool.true_eq_false.mp] at h₂
  obtain ⟨dummyfd, tr₄, rfl, h₃⟩ := run_perform_bind.mp h₂
  obtain ⟨hdummyfd, -⟩ := List.forall_mem_cons.mp hsucceeds₃
  have hdummyfd : 0 ≤ dummyfd := hdummyfd
  rw [if_neg (Int.not_lt.mpr hdummyfd)] at h₃
  obtain ⟨tr₅, res₁, tr₆, rfl, hhash, h₄⟩ := run_bind.mp h₃
  -- the file that was opened is the one that is read and hashed
  obtain ⟨s₁, -, henv₁⟩ := henv
  obtain ⟨s₂, -, s₃, ⟨-, -, hopen, -⟩, henv₃⟩ := follows_append.mp henv₁
  obtain ⟨s₄, henv₄, henv₅⟩ := follows_append.mp henv₃
  have hfile : s₃.2.2.1.fd = dummyfd := by
    rw [hopen.trans (if_pos ⟨rfl, hdummyfd⟩)]
  rw [← hfile] at hhash
  obtain ⟨ret, digests', rfl, hrefreshed⟩ := working_hashFirmware hr hfuel hhash henv₄
  obtain ⟨tr₇, ret', tr₈, rfl, hdelete, h₅⟩ := run_bind.mp h₄
  obtain ⟨_, tr₉, rfl, h₆⟩ := run_perform_bind.mp h₅
  obtain ⟨rfl, rfl⟩ := run_ret.mp h₆
  exact ⟨ret', digests', rfl, hrefreshed.mono (ReadEngine.delivered_subset henv₅.right.left)⟩

theorem noRequest_readFWImagenComputeHash :
    Only NoRequest (readFWImagenComputeHash b fuel behind r digests) := by
  have hgeneric : ∀ c, IsGeneric c → NoRequest c := by
    rintro _ hc rfl
    exact hc
  have hload : ∀ c, IsLoading c → NoRequest c := by
    rintro _ hc rfl
    exact hc
  have hfetch : ∀ c, IsFetching c → NoRequest c := by
    rintro _ hc rfl
    exact hc
  have hhashing : ∀ c, IsHashing c → NoRequest c := by
    rintro _ hc rfl
    exact hc
  obtain ⟨k, heq, hopened⟩ := @opened_computeHash fuel b r behind digests
  rw [heq]
  refine (only_perform.mpr nofun).bind fun fd => hopened _ fd nofun nofun nofun nofun nofun
    fun dummyfd => only_readAndHash ?_ (hashing_computeSha384.mono hhashing)
  exact only_reading (only_loading.mono hload) (only_readAttempts hgeneric nofun nofun)
    (only_fetching.mono hfetch) nofun nofun

/-! ## All requests -/

theorem not_asked (h : ∀ ev ∈ tr, NoRequest ev.1) : ¬Asked tr r := by
  rintro ⟨retimerId, hmem, -⟩
  exact h _ hmem rfl

theorem asked_append {tr' : List SysEvent} : Asked (tr ++ tr') r ↔ Asked tr r ∨ Asked tr' r := by
  simp only [Asked, List.mem_append, or_and_right, exists_or]

theorem asked_cons {retimerId : UInt32} (h : ∀ ev ∈ tr, NoRequest ev.1) :
    Asked (⟨.sdBusMessageRead, some retimerId⟩ :: tr) r ↔ r = retimerId.toNat := by
  constructor
  · rintro ⟨retimerId', hmem, rfl⟩
    rcases List.mem_cons.mp hmem with heq | hmem
    · cases heq
      rfl
    · exact absurd ⟨retimerId', hmem, rfl⟩ (not_asked h)
  · rintro rfl
    exact ⟨retimerId, List.mem_cons_self, rfl⟩

/-- Every retimer that was asked for has the hash of firmware that was
delivered for it, and the others have none. -/
def Current (b : Build) (sha384 : List UInt8 → Vector UInt8 48) (asked : Nat → Prop)
    (delivered : List (Nat × List UInt8)) (digests : Digests) : Prop :=
  ∀ r, (r < maxRetimers ∧ asked r ∧ b.maxFwImageSize % bytePerPage = 0 →
      ∃ fw, (r, fw) ∈ delivered ∧ digests.property r = hexText (sha384 fw))
    ∧ (¬(r < maxRetimers ∧ asked r ∧ b.maxFwImageSize % bytePerPage = 0) →
      digests.property r = [])

section Current

variable {asked asked' : Nat → Prop} {delivered delivered' : List (Nat × List UInt8)}
  {digests' : Digests}

theorem current_initial : Current b sha384 (fun _ => False) delivered initialDigests :=
  fun _ => ⟨fun h => h.2.1.elim, fun _ => rfl⟩

theorem Current.mono (h : Current b sha384 asked delivered digests)
    (hsub : delivered ⊆ delivered') : Current b sha384 asked delivered' digests := by
  intro r
  refine ⟨fun hasked => ?_, (h r).2⟩
  obtain ⟨fw, hfw, hhash⟩ := (h r).1 hasked
  exact ⟨fw, hsub hfw, hhash⟩

theorem Current.congr (h : Current b sha384 asked delivered digests)
    (hasked : ∀ r < maxRetimers, asked' r ↔ asked r) :
    Current b sha384 asked' delivered digests := by
  intro r
  have hiff : (r < maxRetimers ∧ asked' r ∧ b.maxFwImageSize % bytePerPage = 0)
      ↔ r < maxRetimers ∧ asked r ∧ b.maxFwImageSize % bytePerPage = 0 :=
    and_congr_right fun hr => and_congr_left' (hasked r hr)
  rw [hiff]
  exact h r

theorem Refreshed.other (h : Refreshed b sha384 r delivered (digests.store r []) digests')
    {r' : Nat} (hr : r' ≠ r) : digests'.property r' = digests.property r' := by
  unfold Refreshed at h
  by_cases hpaged : b.maxFwImageSize % bytePerPage = 0
  · rw [if_pos hpaged] at h
    obtain ⟨fw, -, rfl⟩ := h
    rw [property_store_ne hr, property_store_ne hr]
  · rw [if_neg hpaged] at h
    rw [h, property_store_ne hr]

/-- One retimer is asked for. -/
theorem Current.refreshed (h : Current b sha384 asked delivered digests) (hr : r < maxRetimers)
    (hrefreshed : Refreshed b sha384 r delivered (digests.store r []) digests') :
    Current b sha384 (fun r' => asked r' ∨ r' = r) delivered digests' := by
  intro r'
  by_cases hr' : r' = r
  · subst hr'
    unfold Refreshed at hrefreshed
    by_cases hpaged : b.maxFwImageSize % bytePerPage = 0
    · rw [if_pos hpaged] at hrefreshed
      obtain ⟨fw, hfw, rfl⟩ := hrefreshed
      exact ⟨fun _ => ⟨fw, hfw, property_store_hexText⟩,
        fun hnot => absurd ⟨hr, Or.inr rfl, hpaged⟩ hnot⟩
    · rw [if_neg hpaged] at hrefreshed
      subst hrefreshed
      exact ⟨fun hasked => absurd hasked.2.2 hpaged, fun _ => property_store_nil⟩
  · have hsame : asked r' ∨ r' = r ↔ asked r' := or_iff_left hr'
    dsimp only
    rw [hrefreshed.other hr', hsame]
    exact h r'

theorem working_methodComputeHash {res : Option (Int32 × Digests)}
    (hfuel : b.maxFwImageSize < fuel)
    (h : Run (methodComputeHash b fuel behind digests) tr res)
    (henv : Follows ((Working.step b).prod (serviceEnv b sha384)) (left, s) tr (left', s'))
    (hidle : s.1.reading = none) (hcurrent : Current b sha384 asked s.1.delivered digests) :
    s'.1.reading = none ∧ ∃ ret digests', res = some (ret, digests')
      ∧ Current b sha384 (fun r => asked r ∨ Asked tr r) s'.1.delivered digests' := by
  obtain ⟨henv, hidle'⟩ := idles_methodComputeHash.obedient h henv hidle
  refine ⟨hidle', ?_⟩
  have hlater := hcurrent.mono (ReadEngine.delivered_subset henv.right.left)
  obtain ⟨retimerId, tr₁, rfl, h₁⟩ := run_perform_bind.mp h
  obtain ⟨-, hsucceeds⟩ := List.forall_mem_cons.mp (Working.succeeds henv.left)
  cases retimerId with
  | none =>
      obtain ⟨rfl, rfl⟩ := run_ret.mp h₁
      refine ⟨exitFailure, digests, rfl, hlater.congr fun r _ => or_iff_left ?_⟩
      rintro ⟨retimerId, hmem, -⟩
      cases List.mem_singleton.mp hmem
  | some retimerId =>
      dsimp only at h₁
      split at h₁
      · next hinvalid =>
          obtain ⟨ret, tr₂, rfl, h₂⟩ := run_perform_bind.mp h₁
          obtain ⟨rfl, rfl⟩ := run_ret.mp h₂
          refine ⟨ret, digests, rfl, hlater.congr fun r hr => or_iff_left ?_⟩
          have hanswer : ∀ ev ∈ ([⟨.sdBusReplyInvalidArgument, ret⟩] : List SysEvent),
              NoRequest ev.1 := by
            intro ev hev
            obtain rfl := List.mem_singleton.mp hev
            nofun
          rw [asked_cons hanswer]
          omega
      · next hvalid =>
          obtain ⟨replied, tr₂, rfl, h₂⟩ := run_perform_bind.mp h₁
          have hreplied := (List.forall_mem_cons.mp hsucceeds).1
          cases replied with
          | false => exact hreplied.elim
          | true =>
              rw [if_neg Bool.true_eq_false.mp] at h₂
              obtain ⟨seg, res₁, tr₃, rfl, hread, h₃⟩ := run_bind.mp h₂
              obtain ⟨⟨left₁, s₁⟩, -, ⟨left₂, s₂⟩, -, henv₂⟩ := henv
              obtain ⟨⟨left₃, s₃⟩, henv₃, henv₄⟩ := follows_append.mp henv₂
              obtain ⟨ret, digests', rfl, hrefreshed⟩ :=
                working_readFWImagenComputeHash (Nat.not_le.mp hvalid) hfuel hread henv₃
              obtain ⟨_, tr₄, rfl, h₄⟩ := run_perform_bind.mp h₃
              obtain ⟨rfl, rfl⟩ := run_ret.mp h₄
              refine ⟨ret, digests', rfl, ?_⟩
              have hafter := hlater.refreshed (Nat.not_le.mp hvalid)
                (hrefreshed.mono (ReadEngine.delivered_subset henv₄.right.left))
              refine hafter.congr fun r _ => or_congr_right (asked_cons ?_)
              refine List.forall_mem_cons.mpr ⟨nofun, List.forall_mem_append.mpr ⟨?_, ?_⟩⟩
              · exact noRequest_readFWImagenComputeHash.run hread
              · intro ev hev
                obtain rfl := List.mem_singleton.mp hev
                nofun

theorem working_requests {count : Nat} {res : Option Digests} (hfuel : b.maxFwImageSize < fuel)
    (h : Run (serveRequests b fuel behind count digests) tr res)
    (henv : Follows ((Working.step b).prod (serviceEnv b sha384)) (left, s) tr (left', s'))
    (hidle : s.1.reading = none) (hcurrent : Current b sha384 asked s.1.delivered digests) :
    ∃ digests', res = some digests'
      ∧ Current b sha384 (fun r => asked r ∨ Asked tr r) s'.1.delivered digests' := by
  induction count generalizing digests tr left s asked with
  | zero =>
      obtain ⟨rfl, rfl⟩ := run_ret.mp h
      obtain ⟨rfl, rfl⟩ := Prod.mk.inj (follows_nil.mp henv)
      exact ⟨digests, rfl, hcurrent.congr fun r _ => or_iff_left (not_asked fun _ hev =>
        absurd hev List.not_mem_nil)⟩
  | succ count ih =>
      obtain ⟨tr₁, res₁, tr₂, rfl, hrequest, hrest⟩ := run_bind.mp h
      obtain ⟨⟨left₁, s₁⟩, henv₁, henv₂⟩ := follows_append.mp henv
      obtain ⟨hidle₁, ret, digests₁, rfl, hcurrent₁⟩ :=
        working_methodComputeHash hfuel hrequest henv₁ hidle hcurrent
      obtain ⟨digests', rfl, hcurrent'⟩ := ih hrest henv₂ hidle₁ hcurrent₁
      refine ⟨digests', rfl, hcurrent'.congr fun r _ => ?_⟩
      rw [asked_append, or_assoc]

end Current

end Requests

section Small

/-- The FPGA is done with a read when it is first asked. -/
def promptReply (b : Build) (s : ReadEngine × TempFile × List UInt8) (c : Call) :
    Option (Answer c × ReadEngine × TempFile × List UInt8) :=
  if s.1.nacked then none else serviceReply b false s c

theorem endRead_acked {g : ReadEngine} (h : g.nacked = false) :
    (endRead false g).nacked = false := by
  unfold endRead
  split
  · exact h
  · rfl

theorem readDone_blank {n : Nat} : ReadDone ((Vector.replicate n 0).setIfInBounds 1 0).toList := by
  have hzero : ∀ i, ((Vector.replicate n (0 : UInt8)).setIfInBounds 1 0).toList.getD i 0 = 0 := by
    intro i
    rw [List.getD_eq_getElem?_getD, Vector.getElem?_toList]
    simp only [Vector.getElem?_setIfInBounds, Vector.getElem?_replicate]
    split <;> split <;> rfl
  rw [ReadDone, ReadBusy, ReadNacked, hzero, hzero]
  decide

theorem promptReply_sound {b : Build} (hmax : b.maxFwImageSize = smallFirmware.length)
    {s s' : ReadEngine × TempFile × List UInt8} {c : Call} {a : Answer c}
    (h : promptReply b s c = some (a, s')) :
    Working.step b 0 ⟨c, a⟩ 0 ∧ serviceEnv b smallSha384 s ⟨c, a⟩ s' := by
  unfold promptReply at h
  split at h
  · cases h
  · next hacked =>
      refine ⟨?_, serviceReply_sound hmax h⟩
      obtain ⟨g, f, given⟩ := s
      cases c with
      | i2cWrite fd slaveId writeData =>
          cases h
          refine ⟨trivial, ?_⟩
          rw [Prompt]
          split
          · decide
          · rfl
      | i2cRead fd slaveId writeData n =>
          simp only [serviceReply] at h
          split at h
          · next hstatus =>
              cases h
              refine ⟨trivial, ?_⟩
              rw [Prompt, if_pos hstatus, if_pos rfl,
                endRead_acked (Bool.eq_false_of_not_eq_true hacked)]
              exact ⟨rfl, readDone_blank⟩
          · next hdata =>
              cases h
              refine ⟨trivial, ?_⟩
              rw [Prompt, if_neg hdata]
      | openFile p flags =>
          cases h
          have hfd : (0 : Int) ≤ 5 := by decide
          exact ⟨hfd, rfl⟩
      | read fd n =>
          simp only [serviceReply] at h
          split at h
          · cases h
            exact ⟨trivial, rfl⟩
          · cases h
      | write fd buf =>
          cases h
          exact ⟨rfl, rfl⟩
      | fstat _ | evpDigestFinal | unlink _ | ftruncate _ _ | lseek _ _ | malloc _
      | evpDigestInit | evpDigestUpdate _ | access _ | evpMdCtxNew | sdBusReplyMethodReturn
      | sdBusMessageRead | close _ | evpMdCtxFree | sdBusEmitPropertiesChanged _ =>
          cases h
          exact ⟨trivial, rfl⟩
      | _ => cases h

def promptRequest : List SysEvent × Sys (Option Digests) × ReadEngine × TempFile × List UInt8 :=
  play (promptReply smallestBuild) 60 smallService
    (serveRequests smallestBuild 257 0 1 initialDigests)

def promptDigests : Digests :=
  (promptRequest.2.1.result.getD none).getD initialDigests

theorem promptRequest_result : (promptRequest.2.1.result.getD none).isSome = true
    ∧ ∃ ev ∈ promptRequest.1, IsTransaction ev.1 := by
  decide +kernel

theorem run_promptRequest : Run (serveRequests smallestBuild 257 0 1 initialDigests)
    promptRequest.1 (some promptDigests) :=
  run_play_some promptRequest_result.1

theorem follows_promptRequest :
    Follows ((Working.step smallestBuild).prod (serviceEnv smallestBuild smallSha384))
      (0, smallService) promptRequest.1 (0, promptRequest.2.2) := by
  have hplay : Follows (fun s ev s' => Working.step smallestBuild 0 ev 0
      ∧ serviceEnv smallestBuild smallSha384 s ev s') smallService promptRequest.1
      promptRequest.2.2 :=
    follows_play (fun _ _ _ _ => promptReply_sound List.length_replicate.symm) 60 smallService _
  exact Follows.map (π := fun s => (0, s)) (fun _ _ _ hstep => hstep) hplay

end Small

end Retimer
