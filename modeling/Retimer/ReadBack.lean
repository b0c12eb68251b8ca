import Retimer.StagingSpec
import Retimer.TempFile

/-!
# Writing the DPRAM and reading it back

When nothing fails, `copyImageFromFpga` leaves in its file what
`copyImageFromMemToFpga` put into the DPRAM, and behind it what was
there before. Both page loops stay below the registers, whatever fails.

For the loops there are again one bound on the requests
(`only_copyPages_inDpram`, `only_readPages_inDpram`) and one
specification: `ensures_readPages`, the pages read are the ones in the
DPRAM, by induction on the iterations left. For the functions on files
there are the lists of the ways through them, `FileStore` for
`copyImageFromFpga` and `FileLoad` for `copyImageFromFileToFpga`. The
results are then about runs of the tool in the FPGA and the file at
once: `run_copyImageFromFpga` (what a return of 0 leaves in the file)
and `run_copyImageFromFileToFpga` (what it leaves in the FPGA, if the
file was read in full).

That nothing fails is a property of events, `Completes`. The environment
of it alone is enough for the functions to return 0, as the lemmas
`completes_f` say for one function `f` after the other; where all of it
is more than is needed, `Seeks`, `ReadsWhole` and `LastWriteFull` are
the parts that matter.

`workingReply` is a machine that does everything it is asked, for runs
on fixed inputs.
-/

namespace Retimer

open Interaction Interaction.Prog

/-! ## Data accesses -/

def InDpram : Call → Prop
  | .i2cWrite _ _ writeData => addressOf writeData + (payloadOf writeData).length ≤ dpramSize
  | .i2cRead _ _ writeData n => addressOf writeData + n ≤ dpramSize
  | _ => True

theorem IsMessage.inDpram {c : Call} (h : IsMessage c) : InDpram c := by
  cases c <;> trivial

theorem IsGeneric.isBus {c : Call} (h : IsGeneric c) : IsBus c := by
  cases c with
  | emitLogMessage m => trivial
  | _ => exact h.elim

theorem IsStaging.isBus {c : Call} (h : IsStaging c) : IsBus c := by
  cases c with
  | i2cWrite fd slaveId writeData => trivial
  | i2cRead fd slaveId writeData n => trivial
  | emitLogMessage m => trivial
  | _ => exact h.elim

section Loops

variable {b : Build} {fwAddr : List UInt8} {fwSize : Nat} {fd : Int} {slaveId : UInt8}

theorem only_copyPages_inDpram (hsize : fwSize ≤ dpramSize) {count i : Nat}
    (hi : i + count = fwSize / bytePerPage + 1) :
    Only InDpram (copyPages b fwAddr fwSize (fwSize / bytePerPage) fd slaveId count i) := by
  induction count generalizing i with
  | zero => trivial
  | succ count ih =>
      unfold copyPages
      refine Only.ite trivial ((only_sendI2cCmdWrite (fun _ h => h.isMessage.inDpram) ?_).bind
        fun _ => Only.ite trivial (ih (by omega)))
      obtain ⟨k, hk⟩ : ∃ k, k = if i < fwSize / bytePerPage then bytePerPage
        else fwSize - fwSize / bytePerPage * bytePerPage := ⟨_, rfl⟩
      have hnext := pages_next (show i ≤ fwSize / bytePerPage by omega) hk
      have hlt : i < 2 ^ 16 := by
        simp only [bytePerPage, dpramSize] at *
        omega
      have hlen : (slice fwAddr (i * bytePerPage) k).length ≤ k := List.length_take_le _ _
      simp only [InDpram, addressOf_page_nat hlt, payloadOf_page, ← hk]
      omega

theorem only_readPages_inDpram {count i : Nat} (h : (i + count) * bytePerPage ≤ dpramSize) :
    Only InDpram (readPages b fd slaveId count i) := by
  induction count generalizing i with
  | zero => trivial
  | succ count ih =>
      have hlt : i < 2 ^ 16 := by
        simp only [bytePerPage, dpramSize] at *
        omega
      have hpage : addressOf (pageAddress (UInt32.ofNat i)) = i * bytePerPage :=
        addressOf_page_nat hlt []
      unfold readPages
      refine (only_sendI2cCmdRead (fun _ h => h.isMessage.inDpram) ?_).bind fun _ =>
        Only.ite trivial ((ih ?_).bind fun res => ?_)
      · simp only [InDpram, hpage, bytePerPage, dpramSize] at *
        omega
      · rwa [Nat.add_right_comm, Nat.add_assoc]
      · cases res <;> trivial

theorem only_readPages_isBus {count i : Nat} : Only IsBus (readPages b fd slaveId count i) := by
  induction count generalizing i with
  | zero => trivial
  | succ count ih =>
      unfold readPages
      refine (only_sendI2cCmdRead (fun _ => IsGeneric.isBus) trivial).bind fun _ =>
        Only.ite trivial (ih.bind fun res => ?_)
      cases res <;> trivial

/-- The pages read are the ones in the DPRAM. -/
theorem ensures_readPages {count i : Nat} (h : (i + count) * bytePerPage ≤ dpramSize)
    (m : ByteMem) : Ensures (Fpga.step b) (readPages b fd b.fpgaI2cCntrlAddr count i)
      (fun res m' => KeepsStaging m m'
        ∧ ∀ pages, res = .ok pages → pages = m.load (i * bytePerPage) (count * bytePerPage)) m := by
  induction count generalizing i m with
  | zero =>
      refine ⟨fun _ _ => rfl, fun pages hres => ?_⟩
      rw [Nat.zero_mul]
      exact (Except.ok.inj hres).symm
  | succ count ih =>
      have hlt : i < 2 ^ 16 := by
        simp only [bytePerPage, dpramSize] at *
        omega
      have hpage : addressOf (pageAddress (UInt32.ofNat i)) = i * bytePerPage :=
        addressOf_page_nat hlt []
      have hin : i * bytePerPage + bytePerPage ≤ dpramSize := by
        simp only [bytePerPage, dpramSize] at *
        omega
      have hturn : i + 1 + count = i + (count + 1) := by omega
      have hnext : (i + 1 + count) * bytePerPage ≤ dpramSize := hturn ▸ h
      unfold readPages
      refine wp_bind.mpr (ensures_sendI2cCmdRead ?_ ?_)
      · intro readData m₁ hkeep hread
        rw [hpage] at hread
        have hdata := hread rfl hin
        refine wp_bind.mpr (wp_mono (ih hnext m₁) (fun _ _ h => h) ?_)
        rintro res m₂ ⟨hkeep₂, hrest⟩
        cases res with
        | error ret =>
            refine ⟨hkeep.trans hkeep₂, fun pages hres => ?_⟩
            cases hres
        | ok rest =>
            refine ⟨hkeep.trans hkeep₂, fun pages hres => ?_⟩
            obtain rfl := Except.ok.inj hres
            have hreg : dpramSize ≤ fpgaUpdateStatusReg.toNat := by decide
            have hend : (i + 1) * bytePerPage + count * bytePerPage
                ≤ fpgaUpdateStatusReg.toNat := by
              rw [← Nat.add_mul]
              exact Nat.le_trans hnext hreg
            rw [hdata, hrest rest rfl, hkeep.load hend, Nat.succ_mul, Nat.succ_mul,
              Nat.add_comm (count * bytePerPage), ByteMem.load_append]
      · intro readData m₁ hkeep
        refine ⟨hkeep, fun pages hres => ?_⟩
        cases hres

end Loops

/-! ## Nothing fails -/

/-- The call did what it was asked to, and in full: no transaction and no seek
failed, the size of the file could be read, and a write took all it was given. -/
def Completes : SysEvent → Prop
  | ⟨.i2cWrite _ _ _, .failed _⟩ => False
  | ⟨.i2cRead _ _ _ _, .failed _⟩ => False
  | ⟨.fstat _, none⟩ => False
  | ⟨.lseek _ _, false⟩ => False
  | ⟨.write _ _, none⟩ => False
  | ⟨.write _ buf, some n⟩ => n.val = buf.length
  | _ => True

/-- The environment in which nothing fails. -/
def Completes.env : Env Call Answer Unit := fun _ ev _ => Completes ev

theorem Completes.follows_iff {tr : List SysEvent} :
    Follows Completes.env () tr () ↔ ∀ ev ∈ tr, Completes ev := by
  induction tr with
  | nil => simp
  | cons ev tr ih =>
      rw [List.forall_mem_cons, ← ih]
      exact ⟨fun ⟨_, h1, h2⟩ => ⟨h1, h2⟩, fun ⟨h1, h2⟩ => ⟨(), h1, h2⟩⟩

theorem Completes.follows {tr : List SysEvent} (h : ∀ ev ∈ tr, Completes ev) :
    Follows Completes.env () tr () :=
  Completes.follows_iff.mpr h

section Completes

variable {b : Build} {fwAddr : List UInt8} {fwSize pageCount : Nat} {fd : Int} {slaveId : UInt8}

theorem completes_sendI2cCmdWrite {writeData : List UInt8} :
    Ensures Completes.env (sendI2cCmdWrite b fd slaveId writeData) (fun ret _ => ret = 0) () := by
  intro answer _ hstep
  cases answer with
  | ok readData => exact ⟨trivial, rfl⟩
  | failed errno => exact hstep.elim

theorem completes_sendI2cCmdRead {writeData : List UInt8} {n : Nat} :
    Ensures Completes.env (sendI2cCmdRead b fd slaveId writeData n)
      (fun res _ => res.1 = 0) () := by
  intro answer _ hstep
  cases answer with
  | ok readData => exact ⟨trivial, rfl⟩
  | failed errno => exact hstep.elim

theorem completes_copyPages {count i : Nat} :
    Ensures Completes.env (copyPages b fwAddr fwSize pageCount fd slaveId count i)
      (fun ret _ => ret = 0) () := by
  induction count generalizing i with
  | zero => rfl
  | succ count ih =>
      unfold copyPages
      generalize (if i < pageCount then bytePerPage else fwSize - pageCount * bytePerPage) = k
      dsimp only
      split
      · rfl
      · refine wp_bind.mpr (wp_mono completes_sendI2cCmdWrite (fun _ _ h => h) fun ret _ hret => ?_)
        rw [if_neg (not_not.mpr hret)]
        exact ih

theorem completes_writeRegister {reg value : UInt32} :
    Ensures Completes.env (writeRegister b fd slaveId reg value) (fun ret _ => ret = 0) () := by
  refine wp_bind.mpr (wp_mono completes_sendI2cCmdWrite (fun _ _ h => h) fun ret _ hret => ?_)
  rw [if_neg (not_not.mpr hret)]
  exact wp_bind.mpr (wp_mono completes_sendI2cCmdRead (fun _ _ h => h) fun res _ hres => hres)

theorem completes_copyImageFromMemToFpga {fwCrc32 : UInt32} (hmax : fwSize ≤ b.maxFwImageSize) :
    Ensures Completes.env (copyImageFromMemToFpga b fwAddr fwSize fwCrc32 fd slaveId)
      (fun ret _ => ret = 0) () := by
  unfold copyImageFromMemToFpga
  rw [if_neg (Nat.not_lt.mpr hmax)]
  refine wp_bind.mpr (wp_mono completes_copyPages (fun _ _ h => h) fun ret _ hret => ?_)
  rw [if_neg (not_not.mpr hret)]
  refine wp_bind.mpr (wp_mono completes_writeRegister (fun _ _ h => h) fun ret _ hret => ?_)
  rw [if_neg (not_not.mpr hret)]
  exact completes_writeRegister

theorem completes_readPages {count i : Nat} :
    Ensures Completes.env (readPages b fd slaveId count i) (fun res _ => ∃ pages, res = .ok pages)
      () := by
  induction count generalizing i with
  | zero => exact ⟨[], rfl⟩
  | succ count ih =>
      unfold readPages
      refine wp_bind.mpr (wp_mono completes_sendI2cCmdRead (fun _ _ h => h) fun res _ hret => ?_)
      obtain ⟨ret, readBuffer⟩ := res
      obtain rfl : ret = 0 := hret
      refine wp_bind.mpr (wp_mono ih (fun _ _ h => h) ?_)
      rintro _ _ ⟨pages, rfl⟩
      exact ⟨_, rfl⟩

end Completes

/-! ## The file afterwards -/

/-- Whether a write to a file took all it was given. -/
def writtenFully : SysEvent → Option Bool
  | ⟨.write _ buf, some n⟩ => some (n.val = buf.length)
  | _ => none

/-- The last write to a file took all it was given. -/
def LastWriteFull (tr : List SysEvent) : Prop :=
  ∀ full ∈ (tr.filterMap writtenFully).getLast?, full = true

theorem lastWriteFull_concat {tr : List SysEvent} {fd : Int} {buf : List UInt8}
    {n : Fin (buf.length + 1)} (h : LastWriteFull (tr ++ [⟨.write fd buf, some n⟩])) :
    n.val = buf.length := by
  refine of_decide_eq_true (h _ ?_)
  rw [List.filterMap_append, List.getLast?_append]
  rfl

def Seeks : SysEvent → Prop
  | ⟨.lseek _ _, sought⟩ => sought = true
  | _ => True

theorem Completes.lastWriteFull {tr : List SysEvent} (h : ∀ ev ∈ tr, Completes ev) :
    LastWriteFull tr := by
  intro full hlast
  obtain ⟨⟨c, r⟩, hev, hfull⟩ := List.mem_filterMap.mp (List.mem_of_getLast? hlast)
  have hok := h _ hev
  cases c with
  | write fd buf =>
      cases r with
      | none => cases hfull
      | some n =>
          cases hfull
          exact decide_eq_true hok
  | _ => cases hfull

theorem Completes.seeks {ev : SysEvent} (h : Completes ev) : Seeks ev := by
  obtain ⟨c, r⟩ := ev
  cases c with
  | lseek fd off =>
      cases r with
      | false => exact h.elim
      | true => rfl
  | _ => trivial

section ReadBack

variable {b : Build} {fd : Int} {path : String} {tr : List SysEvent} {f f' : TempFile}

/-- The ways through `copyImageFromFpga`: the file has no size or none that is a
number of pages, a page cannot be read, or the pages are there and are written
or not. A `malloc` that fails ends in a crash and not in a return. -/
inductive FileStore (b : Build) (fwFd fd : Int) (slaveId : UInt8) :
    List SysEvent → Int32 → Prop where
  | unsized : FileStore b fwFd fd slaveId [⟨.fstat fwFd, none⟩, ⟨.close fwFd, ()⟩] (-1)
  | refused {size : Nat} (hsize : size = 0 ∨ size % bytePerPage ≠ 0) :
      FileStore b fwFd fd slaveId [⟨.fstat fwFd, some size⟩, ⟨.close fwFd, ()⟩]
        (-errorWrongFirmware)
  | lost {size : Nat} {fwBuf : Vector UInt8 size} {tr : List SysEvent} {ret : Int32}
      (hpages : Run (readPages b fd slaveId (size % 2 ^ 32 / bytePerPage) 0) tr (.error ret)) :
      FileStore b fwFd fd slaveId
        (⟨.fstat fwFd, some size⟩ :: ⟨.malloc size, some fwBuf⟩ :: tr) ret
  | unwritten {size : Nat} {fwBuf : Vector UInt8 size} {tr : List SysEvent}
      {pages : List UInt8} {sought : Bool}
      (hpages : Run (readPages b fd slaveId (size % 2 ^ 32 / bytePerPage) 0) tr (.ok pages)) :
      FileStore b fwFd fd slaveId
        (⟨.fstat fwFd, some size⟩ :: ⟨.malloc size, some fwBuf⟩ :: (tr
          ++ [⟨.lseek fwFd 0, sought⟩,
            ⟨.write fwFd (pages ++ List.replicate (size - pages.length) 0), none⟩,
            ⟨.close fwFd, ()⟩])) (-errorOpenFirmware)
  | written {size : Nat} {fwBuf : Vector UInt8 size} {tr : List SysEvent}
      {pages : List UInt8} {sought : Bool}
      {n : Fin ((pages ++ List.replicate (size - pages.length) (0 : UInt8)).length + 1)}
      (hsize : ¬(size = 0 ∨ size % bytePerPage ≠ 0))
      (hpages : Run (readPages b fd slaveId (size % 2 ^ 32 / bytePerPage) 0) tr (.ok pages)) :
      FileStore b fwFd fd slaveId
        (⟨.fstat fwFd, some size⟩ :: ⟨.malloc size, some fwBuf⟩ :: (tr
          ++ [⟨.lseek fwFd 0, sought⟩,
            ⟨.write fwFd (pages ++ List.replicate (size - pages.length) 0), some n⟩])) 0

theorem run_fileStore {fwFd : Int} {slaveId : UInt8} {ret : Int32}
    (h : Run (copyImageFromFpga b fwFd fd slaveId) tr ret) :
    FileStore b fwFd fd slaveId tr ret := by
  obtain ⟨size, tr₁, rfl, h₁⟩ := run_perform_bind.mp h
  cases size with
  | none =>
      obtain ⟨_, tr₂, rfl, hret⟩ := run_perform_bind.mp h₁
      obtain ⟨rfl, rfl⟩ := run_ret.mp hret
      exact .unsized
  | some size =>
      dsimp only at h₁
      split at h₁
      · next hsize =>
          obtain ⟨_, tr₂, rfl, hret⟩ := run_perform_bind.mp h₁
          obtain ⟨rfl, rfl⟩ := run_ret.mp hret
          exact .refused hsize
      · next hsize =>
          obtain ⟨fwBuf, tr₂, rfl, h₂⟩ := run_perform_bind.mp h₁
          cases fwBuf with
          | none =>
              obtain ⟨crash, -⟩ := run_perform_bind.mp h₂
              cases crash
          | some fwBuf =>
              obtain ⟨tr₃, res, tr₄, rfl, hpages, h₃⟩ := run_bind.mp h₂
              cases res with
              | error code =>
                  obtain ⟨rfl, rfl⟩ := run_ret.mp h₃
                  rw [List.append_nil]
                  exact .lost hpages
              | ok pages =>
                  obtain ⟨sought, tr₅, rfl, h₄⟩ := run_perform_bind.mp h₃
                  obtain ⟨written, tr₆, rfl, h₅⟩ := run_perform_bind.mp h₄
                  cases written with
                  | none =>
                      obtain ⟨_, tr₇, rfl, hret⟩ := run_perform_bind.mp h₅
                      obtain ⟨rfl, rfl⟩ := run_ret.mp hret
                      exact .unwritten hpages
                  | some n =>
                      obtain ⟨rfl, rfl⟩ := run_ret.mp h₅
                      exact .written hsize hpages

/-- Memory is asked for once the size has been accepted. -/
theorem size_of_malloc_store {fwFd : Int} {slaveId : UInt8} {size : Nat}
    {fwBuf : Option (Vector UInt8 size)} {ret : Int32}
    (h : Run (copyImageFromFpga b fwFd fd slaveId)
      (⟨.fstat fwFd, some size⟩ :: ⟨.malloc size, fwBuf⟩ :: tr) ret) :
    ¬(size = 0 ∨ size % bytePerPage ≠ 0) := by
  intro hsize
  obtain ⟨_, _, heq, h₁⟩ := run_perform_bind.mp h
  cases heq
  dsimp only at h₁
  rw [if_pos hsize] at h₁
  obtain ⟨_, _, hclose, -⟩ := run_perform_bind.mp h₁
  cases hclose

/-- What a return of 0 takes: every page was read, and something was written. -/
theorem success_copyImageFromFpga {fwFd : Int} {slaveId : UInt8}
    (h : Run (copyImageFromFpga b fwFd fd slaveId) tr 0) :
    ∃ size fwBuf pages tr₁ sought n, size % bytePerPage = 0
      ∧ tr = ⟨.fstat fwFd, some size⟩ :: ⟨.malloc size, some fwBuf⟩ :: (tr₁
        ++ [⟨.lseek fwFd 0, sought⟩,
          ⟨.write fwFd (pages ++ List.replicate (size - pages.length) 0), some n⟩])
      ∧ Run (readPages b fd slaveId (size % 2 ^ 32 / bytePerPage) 0) tr₁ (.ok pages) := by
  obtain ⟨ret, hret⟩ : ∃ ret : Int32, ret = 0 := ⟨0, rfl⟩
  rw [← hret] at h
  cases run_fileStore h with
  | unsized => exact absurd hret (by decide)
  | refused hsize => exact absurd hret (by decide)
  | lost hpages =>
      rw [returns_readPages.run hpages ret rfl] at hret
      exact absurd hret (by decide)
  | unwritten hpages => exact absurd hret (by decide)
  | @written size fwBuf tr₁ pages sought n hsize hpages =>
      obtain ⟨-, hpage⟩ := not_or.mp hsize
      exact ⟨size, fwBuf, pages, tr₁, sought, n, not_not.mp hpage, rfl, hpages⟩

/-- What a copy that comes to its end does to its file: from where the seek
left it, the bytes that the write took. -/
theorem follows_written {size : Nat} {fwBuf : Vector UInt8 size} {tr₁ : List SysEvent}
    {sought : Bool} {buf : List UInt8} {n : Fin (buf.length + 1)} (hbus : ∀ ev ∈ tr₁, IsBus ev.1)
    (h : Follows (TempFile.step path) f (⟨.fstat f.fd, some size⟩ :: ⟨.malloc size, some fwBuf⟩
      :: (tr₁ ++ [⟨.lseek f.fd 0, sought⟩, ⟨.write f.fd buf, some n⟩])) f') :
    size = f.contents.length ∧ f' = (f.rewound sought).writeAt (buf.take n.val) := by
  obtain ⟨f₁, ⟨rfl, hlen⟩, f₂, rfl, hrest⟩ := h
  obtain ⟨f₃, hpages, f₄, hseek, f₅, hwrite, rfl⟩ := follows_append.mp hrest
  obtain rfl := TempFile.follows_bus hpages hbus
  obtain rfl := TempFile.step_rewind hseek
  exact ⟨hlen rfl, Eq.trans hwrite (if_pos (TempFile.rewound_fd f₃ sought).symm)⟩

/-- The pages of a file that is not larger than the DPRAM are what the DPRAM
holds. The reads leave the memory alone, so all of them see the same. -/
theorem load_of_readPages {m m' : ByteMem} {size : Nat} {pages : List UInt8}
    (h : Run (readPages b fd b.fpgaI2cCntrlAddr (size % 2 ^ 32 / bytePerPage) 0) tr (.ok pages))
    (hfpga : Follows (Fpga.step b) m tr m') (hsize : size ≤ dpramSize)
    (hpage : size % bytePerPage = 0) : pages = m.load 0 size := by
  have hcount : size % 2 ^ 32 / bytePerPage * bytePerPage = size := by
    simp only [bytePerPage, dpramSize] at *
    omega
  have hin : (0 + size % 2 ^ 32 / bytePerPage) * bytePerPage ≤ dpramSize := by
    rw [Nat.zero_add, hcount]
    exact hsize
  have hpages := (wp_run (ensures_readPages hin m) h hfpga).2 pages rfl
  rwa [Nat.zero_mul, hcount] at hpages

/-- The buffer that is written: the DPRAM as far as the file reaches. The size
is a number of pages, so nothing is left of the zeros that the buffer was
cleared with. -/
theorem buffer_of_readPages {m m' : ByteMem} {size : Nat} {fwFd : Int} {fwBuf : Vector UInt8 size}
    {tr₁ rest : List SysEvent} {pages : List UInt8}
    (h : Run (readPages b fd b.fpgaI2cCntrlAddr (size % 2 ^ 32 / bytePerPage) 0) tr₁ (.ok pages))
    (hfpga : Follows (Fpga.step b) m (⟨.fstat fwFd, some size⟩ :: ⟨.malloc size, some fwBuf⟩
      :: (tr₁ ++ rest)) m') (hsize : size ≤ dpramSize) (hpage : size % bytePerPage = 0) :
    pages ++ List.replicate (size - pages.length) 0 = m.load 0 size := by
  obtain ⟨m₁, hm₁, m₂, hm₂, hrest⟩ := hfpga
  obtain ⟨m₃, hread, -⟩ := follows_append.mp hrest
  have hload := load_of_readPages h hread hsize hpage
  have hlength : size - pages.length = 0 := by rw [hload, ByteMem.length_load, Nat.sub_self]
  have hreg : 0 + size ≤ fpgaUpdateStatusReg.toNat := by
    rw [Nat.zero_add]
    exact Nat.le_trans hsize (by decide)
  rw [hlength, List.replicate_zero, List.append_nil, hload]
  exact (KeepsStaging.trans hm₁ hm₂).load hreg

/-- What `copyImageFromFpga` leaves in its file when it returns 0. The seek to
the start may fail where the file is there already. -/
theorem run_copyImageFromFpga {m m' : ByteMem}
    (hrun : Run (copyImageFromFpga b f.fd fd b.fpgaI2cCntrlAddr) tr 0)
    (hfpga : Follows (Fpga.step b) m tr m') (hfile : Follows (TempFile.step path) f tr f')
    (hfull : LastWriteFull tr) (hseek : f.offset = 0 ∨ ∀ ev ∈ tr, Seeks ev)
    (hsize : f.contents.length ≤ dpramSize) :
    f'.contents = m.load 0 f.contents.length ∧ f'.fd = f.fd := by
  obtain ⟨size, fwBuf, pages, tr₁, sought, n, hpage, rfl, hread⟩ := success_copyImageFromFpga hrun
  obtain ⟨rfl, rfl⟩ := follows_written (only_readPages_isBus.run hread) hfile
  have hbuf := buffer_of_readPages hread hfpga hsize hpage
  have hwritten : n.val
      = (pages ++ List.replicate (f.contents.length - pages.length) 0).length := by
    rw [← List.cons_append, ← List.cons_append, List.append_cons] at hfull
    exact lastWriteFull_concat hfull
  have hoffset : (f.rewound sought).offset = 0 := TempFile.rewound_offset
    (hseek.imp_right fun hseek => hseek ⟨.lseek f.fd 0, sought⟩ (by simp))
  refine ⟨?_, TempFile.rewound_fd f sought⟩
  rw [TempFile.writeAt_start hoffset, hwritten, List.take_length, hbuf, ByteMem.length_load,
    TempFile.rewound_contents, List.drop_length, List.append_nil]

/-- When nothing fails, it returns 0. A size of 0 or of a part of a page is
refused before the first page is read. -/
theorem completes_copyImageFromFpga {ret : Int32}
    (hrun : Run (copyImageFromFpga b f.fd fd b.fpgaI2cCntrlAddr) tr ret)
    (hfile : Follows (TempFile.step path) f tr f') (hok : ∀ ev ∈ tr, Completes ev)
    (hpos : f.contents.length ≠ 0) (hpages : f.contents.length % bytePerPage = 0) : ret = 0 := by
  cases run_fileStore hrun with
  | unsized => exact (hok _ List.mem_cons_self).elim
  | @refused size hsize =>
      obtain ⟨f₁, ⟨rfl, hlen⟩, -⟩ := hfile
      rw [hlen rfl] at hsize
      rcases hsize with hzero | hpage
      · exact absurd hzero hpos
      · exact absurd hpages hpage
  | lost hlost =>
      obtain ⟨pages, hpages⟩ := wp_run completes_readPages hlost (Completes.follows fun ev hev =>
        hok ev (List.mem_cons_of_mem _ (List.mem_cons_of_mem _ hev)))
      cases hpages
  | @unwritten size fwBuf tr₁ pages sought hread =>
      exact (hok ⟨.write f.fd (pages ++ List.replicate (size - pages.length) 0), none⟩
        (by simp)).elim
  | written hsize hread => rfl

end ReadBack

/-! ## The file in the DPRAM -/

/-- A read of a file delivered all it was asked for. -/
def ReadsWhole : SysEvent → Prop
  | ⟨.read _ n, some bs⟩ => bs.val.length = n
  | _ => True

instance : DecidablePred ReadsWhole
  | ⟨.read _ n, some bs⟩ => inferInstanceAs (Decidable (bs.val.length = n))
  | ⟨.read _ _, none⟩ => isTrue trivial
  | ⟨.i2cWrite _ _ _, _⟩ | ⟨.i2cRead _ _ _ _, _⟩ | ⟨.emitLogMessage _, _⟩ | ⟨.performing _, _⟩
  | ⟨.openFile _ _, _⟩ | ⟨.close _, _⟩ | ⟨.fstat _, _⟩ | ⟨.ftruncate _ _, _⟩ | ⟨.mmap _ _, _⟩
  | ⟨.calloc, _⟩ | ⟨.malloc _, _⟩ | ⟨.segfault, _⟩ | ⟨.write _ _, _⟩ | ⟨.lseek _ _, _⟩
  | ⟨.access _, _⟩ | ⟨.mkdir _, _⟩ | ⟨.unlink _, _⟩ | ⟨.evpMdCtxNew, _⟩ | ⟨.evpDigestInit, _⟩
  | ⟨.evpDigestUpdate _, _⟩ | ⟨.evpDigestFinal, _⟩ | ⟨.evpMdCtxFree, _⟩ | ⟨.sdBusMessageRead, _⟩
  | ⟨.sdBusReplyMethodReturn, _⟩ | ⟨.sdBusReplyInvalidArgument, _⟩
  | ⟨.sdBusEmitPropertiesChanged _, _⟩ => isTrue trivial

/-- A file that is read in full overwrites all that `malloc` left in the
buffer. -/
theorem TempFile.buffer_of_read {path : String} {f f' : TempFile} {n : Nat}
    {bytes : {bs : List UInt8 // bs.length ≤ n}} {fwBuf : Vector UInt8 n}
    (h : TempFile.step path f ⟨.read f.fd n, some bytes⟩ f') (hfull : bytes.val.length = n)
    (hoffset : f.offset = 0) (hlength : f.contents.length = n) :
    bytes.val ++ fwBuf.toList.drop bytes.val.length = f.contents := by
  simp only [TempFile.step, if_pos] at h
  have hbytes : bytes.val = f.contents := by
    rw [h.1, hfull, hoffset, ← hlength]
    exact List.take_length
  rw [List.drop_eq_nil_of_le (by simp [hfull]), List.append_nil, hbytes]

/-- The ways through `copyImageFromFileToFpga`. -/
inductive FileLoad (b : Build) (fwFd fd : Int) (slaveId : UInt8) :
    List SysEvent → Int32 → Prop where
  | unsized : FileLoad b fwFd fd slaveId [⟨.fstat fwFd, none⟩, ⟨.close fwFd, ()⟩] (-1)
  | refused {size : Nat} (hsize : size = 0 ∨ size > b.maxFwImageSize) :
      FileLoad b fwFd fd slaveId [⟨.fstat fwFd, some size⟩, ⟨.close fwFd, ()⟩]
        (-errorWrongFirmware)
  | noMemory {size : Nat} : FileLoad b fwFd fd slaveId
      [⟨.fstat fwFd, some size⟩, ⟨.malloc size, none⟩] (-errorMallocFailure)
  | unread {size : Nat} {fwBuf : Vector UInt8 size} : FileLoad b fwFd fd slaveId
      [⟨.fstat fwFd, some size⟩, ⟨.malloc size, some fwBuf⟩, ⟨.read fwFd size, none⟩,
        ⟨.close fwFd, ()⟩] (-errorOpenFirmware)
  | copied {size : Nat} {fwBuf : Vector UInt8 size} {bytes : {bs : List UInt8 // bs.length ≤ size}}
      {tr : List SysEvent} {ret : Int32} (hsize : ¬(size = 0 ∨ size > b.maxFwImageSize))
      (hcopy : Run (copyImageFromMemToFpga b (bytes.val ++ fwBuf.toList.drop bytes.val.length) size
        (crc32 (bytes.val ++ fwBuf.toList.drop bytes.val.length) (toInt32 size)) fd slaveId)
        tr ret) :
      FileLoad b fwFd fd slaveId (⟨.fstat fwFd, some size⟩ :: ⟨.malloc size, some fwBuf⟩
        :: ⟨.read fwFd size, some bytes⟩ :: tr) ret

theorem run_fileLoad {b : Build} {fwFd fd : Int} {slaveId : UInt8} {tr : List SysEvent}
    {ret : Int32} (h : Run (copyImageFromFileToFpga b fwFd fd slaveId) tr ret) :
    FileLoad b fwFd fd slaveId tr ret := by
  obtain ⟨size, tr₁, rfl, h₁⟩ := run_perform_bind.mp h
  cases size with
  | none =>
      obtain ⟨_, tr₂, rfl, hret⟩ := run_perform_bind.mp h₁
      obtain ⟨rfl, rfl⟩ := run_ret.mp hret
      exact .unsized
  | some size =>
      dsimp only at h₁
      split at h₁
      · next hsize =>
          obtain ⟨_, tr₂, rfl, hret⟩ := run_perform_bind.mp h₁
          obtain ⟨rfl, rfl⟩ := run_ret.mp hret
          exact .refused hsize
      · next hsize =>
          obtain ⟨fwBuf, tr₂, rfl, h₂⟩ := run_perform_bind.mp h₁
          cases fwBuf with
          | none =>
              obtain ⟨rfl, rfl⟩ := run_ret.mp h₂
              exact .noMemory
          | some fwBuf =>
              obtain ⟨bytes, tr₃, rfl, h₃⟩ := run_perform_bind.mp h₂
              cases bytes with
              | none =>
                  obtain ⟨_, tr₄, rfl, hret⟩ := run_perform_bind.mp h₃
                  obtain ⟨rfl, rfl⟩ := run_ret.mp hret
                  exact .unread
              | some bytes => exact .copied hsize h₃

/-- Memory is asked for once the size has been accepted. -/
theorem size_of_malloc_load {b : Build} {fwFd fd : Int} {slaveId : UInt8} {size : Nat}
    {fwBuf : Option (Vector UInt8 size)} {tr : List SysEvent} {ret : Int32}
    (h : Run (copyImageFromFileToFpga b fwFd fd slaveId)
      (⟨.fstat fwFd, some size⟩ :: ⟨.malloc size, fwBuf⟩ :: tr) ret) :
    ¬(size = 0 ∨ size > b.maxFwImageSize) := by
  intro hsize
  obtain ⟨_, _, heq, h₁⟩ := run_perform_bind.mp h
  cases heq
  dsimp only at h₁
  rw [if_pos hsize] at h₁
  obtain ⟨_, _, hclose, -⟩ := run_perform_bind.mp h₁
  cases hclose

/-- Where the file is read in full from its start, a return of 0 means that
all of it is in the FPGA. -/
theorem run_copyImageFromFileToFpga {b : Build} {fd : Int} {path : String} {tr : List SysEvent}
    {f f' : TempFile} {m m' : ByteMem}
    (hrun : Run (copyImageFromFileToFpga b f.fd fd b.fpgaI2cCntrlAddr) tr 0)
    (hfpga : Follows (Fpga.step b) m tr m') (hfile : Follows (TempFile.step path) f tr f')
    (hwhole : ∀ ev ∈ tr, ReadsWhole ev) (hoffset : f.offset = 0) :
    Loaded m' f.contents (crc32 f.contents (toInt32 f.contents.length)) := by
  obtain ⟨ret, hret⟩ : ∃ ret : Int32, ret = 0 := ⟨0, rfl⟩
  rw [← hret] at hrun
  cases run_fileLoad hrun with
  | unsized => exact absurd hret (by decide)
  | refused hsize => exact absurd hret (by decide)
  | noMemory => exact absurd hret (by decide)
  | unread => exact absurd hret (by decide)
  | @copied size fwBuf bytes tr₁ ret hsize hcopy =>
      obtain ⟨m₁, -, m₂, -, m₃, -, hfpga₃⟩ := hfpga
      obtain ⟨f₁, ⟨rfl, hlen⟩, f₂, rfl, f₃, hread, -⟩ := hfile
      obtain rfl := hlen rfl
      have hfull := hwhole ⟨.read f₂.fd f₂.contents.length, some bytes⟩ (by simp)
      rw [TempFile.buffer_of_read hread hfull hoffset rfl] at hcopy
      have hloaded := (wp_run (ensures_copyImageFromMemToFpga _ (Nat.le_refl _) m₃) hcopy
        hfpga₃).1 hret
      rw [List.take_length] at hloaded
      exact hloaded.2

/-- **Writing and reading back.** With every call completing, the file holds
the image and, behind it, what the DPRAM held before; nothing behind the image
was changed, and neither page loop goes beyond the DPRAM. -/
theorem copy_readBack (b : Build) (x : List UInt8) (hx : x.length ≤ b.maxFwImageSize)
    (fwCrc32 : UInt32) (fd fd' : Int) (path : String) (D D₁ D₂ : ByteMem) (f f' : TempFile)
    (tr₁ tr₂ : List SysEvent) (ret₁ ret₂ : Int32)
    (hrun₁ : Run (copyImageFromMemToFpga b x x.length fwCrc32 fd b.fpgaI2cCntrlAddr) tr₁ ret₁)
    (hrun₂ : Run (copyImageFromFpga b f.fd fd' b.fpgaI2cCntrlAddr) tr₂ ret₂)
    (hfpga₁ : Follows (Fpga.step b) D tr₁ D₁) (hfpga₂ : Follows (Fpga.step b) D₁ tr₂ D₂)
    (hfile : Follows (TempFile.step path) f tr₂ f') (hok : ∀ ev ∈ tr₁ ++ tr₂, Completes ev)
    (hpos : f.contents.length ≠ 0) (hpages : f.contents.length % bytePerPage = 0)
    (hsize : f.contents.length ≤ dpramSize) :
    ret₁ = 0 ∧ ret₂ = 0
      ∧ f'.contents = (x ++ D.load x.length (dpramSize - x.length)).take f.contents.length
      ∧ (∀ a, x.length ≤ a → a < dpramSize → D₁ a = D a)
      ∧ Only InDpram (copyPages b x x.length (x.length / bytePerPage) fd b.fpgaI2cCntrlAddr
          (x.length / bytePerPage + 1) 0)
      ∧ Only InDpram (readPages b fd' b.fpgaI2cCntrlAddr (f.contents.length / bytePerPage) 0) := by
  have hdpram : x.length ≤ dpramSize := Nat.le_trans hx b.maxFwImageSize_le
  have hret₁ := wp_run (completes_copyImageFromMemToFpga hx) hrun₁
    (Completes.follows fun ev hev => hok ev (List.mem_append_left _ hev))
  change ret₁ = 0 at hret₁
  obtain ⟨hloaded, hframe⟩ := wp_run (ensures_copyImageFromMemToFpga fwCrc32 (Nat.le_refl _) D)
    hrun₁ hfpga₁
  have himage := (hloaded hret₁).2.image
  rw [List.take_length] at himage
  have hok₂ : ∀ ev ∈ tr₂, Completes ev := fun ev hev => hok ev (List.mem_append_right _ hev)
  obtain rfl := completes_copyImageFromFpga hrun₂ hfile hok₂ hpos hpages
  obtain ⟨hcontents, -⟩ := run_copyImageFromFpga hrun₂ hfpga₂ hfile
    (Completes.lastWriteFull hok₂) (Or.inr fun ev hev => (hok₂ ev hev).seeks) hsize
  refine ⟨hret₁, rfl, ?_, hframe, only_copyPages_inDpram hdpram (Nat.zero_add _),
    only_readPages_inDpram ?_⟩
  · have hrest : D₁.load (0 + x.length) (dpramSize - x.length)
        = D.load x.length (dpramSize - x.length) := by
      rw [Nat.zero_add]
      exact ByteMem.load_congr fun a hlo hhi => hframe a hlo (by omega)
    have hall : D₁.load 0 dpramSize = x ++ D.load x.length (dpramSize - x.length) := by
      calc D₁.load 0 dpramSize
          = D₁.load 0 x.length ++ D₁.load (0 + x.length) (dpramSize - x.length) := by
            rw [ByteMem.load_append, Nat.add_sub_cancel' hdpram]
        _ = x ++ D.load x.length (dpramSize - x.length) := by rw [himage, hrest]
    rw [hcontents, ← hall, ByteMem.take_load hsize]
  · rw [Nat.zero_add, Nat.div_mul_cancel (Nat.dvd_of_mod_eq_zero hpages)]
    exact hsize

/-! ## A machine that works -/

/-- The FPGA and the file, each doing what it is asked. -/
def workingReply (b : Build) :
    ByteMem × TempFile → (c : Call) → Option (Answer c × ByteMem × TempFile)
  | (m, f), .i2cWrite _ slaveId writeData =>
      some (.ok (Vector.replicate 0 0), if slaveId = b.fpgaI2cCntrlAddr then
        m.store (addressOf writeData) (payloadOf writeData) else m, f)
  | (m, f), .i2cRead _ _ writeData n =>
      some (.ok ⟨(m.load (addressOf writeData) n).toArray, by simp⟩, m, f)
  | (m, f), .fstat _ => some (some f.contents.length, m, f)
  | (m, f), .malloc n => some (some (Vector.replicate n 0), m, f)
  | (m, f), .lseek fd off => some (true, m, if fd = f.fd then { f with offset := off } else f)
  | (m, f), .write fd buf =>
      some (some (Fin.last buf.length), m, if fd = f.fd then f.writeAt buf else f)
  | _, _ => none

theorem workingReply_sound {b : Build} (path : String) {s s' : ByteMem × TempFile} {c : Call}
    {r : Answer c} (h : workingReply b s c = some (r, s')) :
    Fpga.step b s.1 ⟨c, r⟩ s'.1 ∧ TempFile.step path s.2 ⟨c, r⟩ s'.2 ∧ Completes ⟨c, r⟩ := by
  obtain ⟨m, f⟩ := s
  cases c with
  | i2cWrite fd slaveId writeData =>
      obtain ⟨rfl, rfl⟩ := Prod.mk.inj (Option.some.inj h)
      refine ⟨?_, rfl, trivial⟩
      simp only [Fpga.step]
      split
      · exact fun _ _ => rfl
      · exact fun _ _ => rfl
  | i2cRead fd slaveId writeData n =>
      obtain ⟨rfl, rfl⟩ := Prod.mk.inj (Option.some.inj h)
      exact ⟨⟨fun _ _ => rfl, fun _ _ => rfl⟩, rfl, trivial⟩
  | fstat fd =>
      obtain ⟨rfl, rfl⟩ := Prod.mk.inj (Option.some.inj h)
      exact ⟨fun _ _ => rfl, ⟨rfl, fun _ => rfl⟩, trivial⟩
  | malloc n =>
      obtain ⟨rfl, rfl⟩ := Prod.mk.inj (Option.some.inj h)
      exact ⟨fun _ _ => rfl, rfl, trivial⟩
  | lseek fd off =>
      obtain ⟨rfl, rfl⟩ := Prod.mk.inj (Option.some.inj h)
      exact ⟨fun _ _ => rfl, rfl, trivial⟩
  | write fd buf =>
      obtain ⟨rfl, rfl⟩ := Prod.mk.inj (Option.some.inj h)
      refine ⟨fun _ _ => rfl, ?_, rfl⟩
      simp only [TempFile.step, Fin.val_last, List.take_length]
  | _ => cases h

section Small

def smallImage : List UInt8 := [7, 8, 9]

def smallMachine : ByteMem × TempFile := (fun _ => 1, ⟨true, 4, List.replicate 256 0, 0⟩)

def smallWrite : List SysEvent × Sys Int32 × ByteMem × TempFile :=
  play (workingReply defaultBuild) 20 smallMachine (copyImageFromMemToFpga defaultBuild smallImage
    smallImage.length 5 3 defaultBuild.fpgaI2cCntrlAddr)

def smallRead : List SysEvent × Sys Int32 × ByteMem × TempFile :=
  play (workingReply defaultBuild) 20 (smallWrite.2.2.1, smallMachine.2)
    (copyImageFromFpga defaultBuild smallMachine.2.fd 3 defaultBuild.fpgaI2cCntrlAddr)

/-- Both parts of the machine, on which nothing fails. -/
def workingEnv (b : Build) (path : String) : Env Call Answer (ByteMem × TempFile) :=
  fun s ev s' => Fpga.step b s.1 ev s'.1 ∧ TempFile.step path s.2 ev s'.2 ∧ Completes ev

theorem follows_workingReply {b : Build} (path : String) {n : Nat} {m : ByteMem} {f : TempFile}
    {p : Sys Int32} {out : List SysEvent × Sys Int32 × ByteMem × TempFile}
    (hout : out = play (workingReply b) n (m, f) p) :
    Follows (Fpga.step b) m out.1 out.2.2.1 ∧ Follows (TempFile.step path) f out.1 out.2.2.2
      ∧ ∀ ev ∈ out.1, Completes ev := by
  have h : Follows (workingEnv b path) (m, f) out.1 out.2.2 :=
    hout ▸ follows_play (fun _ _ _ _ => workingReply_sound path) n (m, f) p
  exact ⟨h.map fun _ _ _ h => h.1, h.map fun _ _ _ h => h.2.1, h.forall_mem fun _ _ _ h => h.2.2⟩

theorem smallWrite_eq : smallWrite = play (workingReply defaultBuild) 20
    (smallMachine.1, smallMachine.2) (copyImageFromMemToFpga defaultBuild smallImage
      smallImage.length 5 3 defaultBuild.fpgaI2cCntrlAddr) := rfl

theorem smallRead_eq : smallRead = play (workingReply defaultBuild) 20
    (smallWrite.2.2.1, smallMachine.2)
    (copyImageFromFpga defaultBuild smallMachine.2.fd 3 defaultBuild.fpgaI2cCntrlAddr) := rfl

theorem run_smallWrite : Run (copyImageFromMemToFpga defaultBuild smallImage smallImage.length 5 3
    defaultBuild.fpgaI2cCntrlAddr) smallWrite.1 0 :=
  run_play rfl

theorem run_smallRead : Run (copyImageFromFpga defaultBuild smallMachine.2.fd 3
    defaultBuild.fpgaI2cCntrlAddr) smallRead.1 0 :=
  run_play (by decide +kernel)

theorem copy_readBack_small :
    (0 : Int32) = 0 ∧ (0 : Int32) = 0
      ∧ smallRead.2.2.2.contents
        = (smallImage ++ smallMachine.1.load smallImage.length
            (dpramSize - smallImage.length)).take smallMachine.2.contents.length
      ∧ (∀ a, smallImage.length ≤ a → a < dpramSize → smallWrite.2.2.1 a = smallMachine.1 a)
      ∧ Only InDpram (copyPages defaultBuild smallImage smallImage.length
          (smallImage.length / bytePerPage) 3 defaultBuild.fpgaI2cCntrlAddr
          (smallImage.length / bytePerPage + 1) 0)
      ∧ Only InDpram (readPages defaultBuild 3 defaultBuild.fpgaI2cCntrlAddr
          (smallMachine.2.contents.length / bytePerPage) 0) := by
  obtain ⟨hfpga₁, -, hok₁⟩ := follows_workingReply "" smallWrite_eq
  obtain ⟨hfpga₂, hfile₂, hok₂⟩ := follows_workingReply "" smallRead_eq
  have hok : ∀ ev ∈ smallWrite.1 ++ smallRead.1, Completes ev := fun ev hev =>
    (List.mem_append.mp hev).elim (hok₁ ev) (hok₂ ev)
  have hsmall : smallImage.length ≤ defaultBuild.maxFwImageSize := by decide
  have hpos : smallMachine.2.contents.length ≠ 0 := by decide +kernel
  have hpages : smallMachine.2.contents.length % bytePerPage = 0 := by decide +kernel
  have hsize : smallMachine.2.contents.length ≤ dpramSize := by decide +kernel
  exact copy_readBack defaultBuild smallImage hsmall 5 3 3 "" smallMachine.1 smallWrite.2.2.1
    smallRead.2.2.1 smallMachine.2 smallRead.2.2.2 smallWrite.1 smallRead.1 0 0 run_smallWrite
    run_smallRead hfpga₁ hfpga₂ hfile₂ hok hpos hpages hsize

end Small

end Retimer
