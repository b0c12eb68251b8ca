import Retimer.Attempts
import Retimer.ReadBack

/-!
# The transfers of an image

Which transactions `copyImageFromMemToFpga` makes, in which order, and
where it stops: the pages of the image, its size and its CRC, each
register written and read back. What is read back is printed and not
looked at, so a return of 0 says nothing about it.

`Transfers` compares the transactions of a trace with a list of calls
that is written down in advance: they are those of the list, up to the
first one that fails, and the result is 0 or the error of that one.
`transfers_bind` puts two lists in a row with the early return in
between, so that the list of a function is found from those of its
statements (`transfers_write`, `transfers_read`, `transfers_copyPages`,
`transfers_writeRegister`); `transfers_copyImageFromMemToFpga` is the
whole.

That the list is the right one is a separate matter, and about lists of
bytes only: `CoversImage` says that the messages put every byte of the
image into its place once, in pages of which only the last one may be
short, and within the buffer of the source. `covers_pageWrites` has the
page messages do so.

The second half is about the read-back. The registers are read back once
each where everything went through (`readBacks_of_all`), and any answer
goes with a return of 0; so it agrees with what was written just if the
device answers so.
-/

namespace Retimer

open Interaction Interaction.Prog

/-! ## A list of transfers -/

def transactions (tr : List SysEvent) : List SysEvent := tr.filter (IsTransaction ·.1)

def transacted : SysEvent → Bool
  | ⟨.i2cWrite _ _ _, answer⟩ => answer.completed
  | ⟨.i2cRead _ _ _ _, answer⟩ => answer.completed
  | _ => true

/-- `WRITE_BUF_SIZE` -/
def writeBufSize (b : Build) : Nat := b.maxFwImageSize + 4

/-- The transactions of the trace are those of the list, up to the first one
that fails, and `ret` is 0 or the error of that one. Messages in between do not
count. -/
inductive Transfers (calls : List Call) (tr : List SysEvent) : Int32 → Prop where
  | all (hcalls : (transactions tr).map (·.1) = calls)
      (hall : ∀ ev ∈ transactions tr, transacted ev = true) : Transfers calls tr 0
  | failed {done : List SysEvent} {ev : SysEvent} {left : List Call}
      (htr : transactions tr = done ++ [ev]) (hcalls : calls = done.map (·.1) ++ ev.1 :: left)
      (hdone : ∀ ev ∈ done, transacted ev = true) (hev : transacted ev = false) :
      Transfers calls tr (-errorIoctlI2cRdwrFailure)

section Transfers

variable {b : Build} {fd : Int} {slaveId : UInt8} {writeData : List UInt8} {c₁ c₂ : List Call}
  {tr tr₁ tr₂ : List SysEvent} {ret : Int32}

@[simp] theorem transactions_append :
    transactions (tr₁ ++ tr₂) = transactions tr₁ ++ transactions tr₂ :=
  List.filter_append _ _

theorem transactions_of_messages (h : ∀ ev ∈ tr, IsMessage ev.1) : transactions tr = [] := by
  refine List.filter_eq_nil_iff.mpr fun ev hev => ?_
  rw [decide_eq_true_eq]
  exact (h ev hev).not_transaction

theorem mem_transactions {ev : SysEvent} : ev ∈ transactions tr ↔ ev ∈ tr ∧ IsTransaction ev.1 := by
  rw [transactions, List.mem_filter, decide_eq_true_eq]

theorem Transfers.nil : Transfers [] [] 0 := .all rfl fun _ hev => absurd hev List.not_mem_nil

/-- What fails in the first part ends the whole. -/
theorem Transfers.append_left (h : Transfers c₁ tr ret) (hret : ret ≠ 0) :
    Transfers (c₁ ++ c₂) tr ret := by
  cases h with
  | all => exact absurd rfl hret
  | @failed done ev left htr hcalls hdone hev =>
      have hcalls' : c₁ ++ c₂ = done.map (·.1) ++ ev.1 :: (left ++ c₂) := by
        rw [hcalls, List.append_assoc]
        rfl
      exact .failed htr hcalls' hdone hev

theorem Transfers.append (h₁ : Transfers c₁ tr₁ 0) (h₂ : Transfers c₂ tr₂ ret) :
    Transfers (c₁ ++ c₂) (tr₁ ++ tr₂) ret := by
  obtain ⟨hcalls₁, hall₁⟩ : (transactions tr₁).map (·.1) = c₁
      ∧ ∀ ev ∈ transactions tr₁, transacted ev = true := by
    generalize hzero : (0 : Int32) = code at h₁
    cases h₁ with
    | all hcalls hall => exact ⟨hcalls, hall⟩
    | failed => exact absurd hzero (by decide)
  cases h₂ with
  | all hcalls hall =>
      refine .all ?_ ?_
      · rw [transactions_append, List.map_append, hcalls₁, hcalls]
      · rw [transactions_append]
        exact fun ev hev => (List.mem_append.mp hev).elim (hall₁ ev) (hall ev)
  | @failed done ev left htr hcalls hdone hev =>
      have htr' : transactions (tr₁ ++ tr₂) = (transactions tr₁ ++ done) ++ [ev] := by
        rw [transactions_append, htr, List.append_assoc]
      refine .failed htr' (?_ : _ = _ ++ ev.1 :: left) ?_ hev
      · rw [hcalls, List.map_append, hcalls₁, List.append_assoc]
      · exact fun ev hev => (List.mem_append.mp hev).elim (hall₁ ev) (hdone ev)

/-- One transfer list after the other, with the early return in between. -/
theorem transfers_bind {p q : Sys Int32} (hp : ∀ tr ret, Run p tr ret → Transfers c₁ tr ret)
    (hq : ∀ tr ret, Run q tr ret → Transfers c₂ tr ret)
    (h : Run (p >>= fun ret => if ret ≠ 0 then pure ret else q) tr ret) :
    Transfers (c₁ ++ c₂) tr ret := by
  obtain ⟨tr₁, ret₁, tr₂, rfl, h₁, h₂⟩ := run_bind.mp h
  split at h₂
  · next hret =>
      obtain ⟨rfl, rfl⟩ := run_ret.mp h₂
      rw [List.append_nil]
      exact (hp _ _ h₁).append_left hret
  · next hret =>
      obtain rfl := not_not.mp hret
      exact (hp _ _ h₁).append (hq _ _ h₂)

theorem transfers_of_event (ev : SysEvent) {msgs : List SysEvent}
    (htransaction : IsTransaction ev.1)
    (hmsgs : ∀ ev ∈ msgs, IsMessage ev.1) (h : (transacted ev = true ∧ ret = 0)
      ∨ (transacted ev = false ∧ ret = -errorIoctlI2cRdwrFailure)) :
    Transfers [ev.1] (ev :: msgs) ret := by
  have htr : transactions (ev :: msgs) = [ev] := by
    have hcons : transactions (ev :: msgs) = ev :: transactions msgs :=
      List.filter_cons_of_pos (decide_eq_true htransaction)
    rw [hcons, transactions_of_messages hmsgs]
  rcases h with ⟨hok, rfl⟩ | ⟨hfailed, rfl⟩
  · refine .all (by rw [htr]; rfl) ?_
    rw [htr]
    exact fun e he => List.mem_singleton.mp he ▸ hok
  · have htr' : transactions (ev :: msgs) = [] ++ [ev] := htr
    exact .failed htr' rfl (fun e he => absurd he List.not_mem_nil) hfailed

theorem transfers_write (h : Run (sendI2cCmdWrite b fd slaveId writeData) tr ret) :
    Transfers [.i2cWrite fd slaveId writeData] tr ret := by
  obtain ⟨answer, msgs, rfl, hmsgs, hanswer⟩ := run_sendI2cCmdWrite h
  exact transfers_of_event ⟨.i2cWrite fd slaveId writeData, answer⟩ trivial hmsgs hanswer

theorem transfers_read {n : Nat} {res : Int32 × Vector UInt8 n}
    (h : Run (sendI2cCmdRead b fd slaveId writeData n) tr res) :
    Transfers [.i2cRead fd slaveId writeData n] tr res.1 := by
  rcases run_sendI2cCmdRead h with ⟨readData, rfl, rfl⟩ | ⟨errno, msgs, rfl, hmsgs, hret⟩
  · exact transfers_of_event ⟨.i2cRead fd slaveId writeData n, .ok readData⟩ trivial
      (fun e he => absurd he List.not_mem_nil) (Or.inl ⟨rfl, rfl⟩)
  · exact transfers_of_event ⟨.i2cRead fd slaveId writeData n, .failed errno⟩ trivial hmsgs
      (Or.inr ⟨rfl, hret⟩)

end Transfers

/-! ## The pages of an image -/

/-- The number of pages, the last one included. -/
def pagesFor (n : Nat) : Nat := (n + (bytePerPage - 1)) / bytePerPage

def pageWrite (image : List UInt8) (i : Nat) : List UInt8 :=
  pageAddress (UInt32.ofNat i) ++ slice image (i * bytePerPage) bytePerPage

/-- Messages that put the image into the DPRAM, each byte once and in its
place, in pages of which only the last one may be short. -/
structure CoversImage (b : Build) (image : List UInt8) (writes : List (List UInt8)) : Prop where
  whole : writes.flatMap payloadOf = image
  address : ∀ i wd, writes[i]? = some wd → addressOf wd = i * bytePerPage
  nonempty : ∀ wd ∈ writes, payloadOf wd ≠ []
  length : ∀ i wd, writes[i]? = some wd → (payloadOf wd).length = bytePerPage
    ∨ (i + 1 = writes.length ∧ (payloadOf wd).length = image.length % bytePerPage)
  below : ∀ wd ∈ writes, addressOf wd + (payloadOf wd).length ≤ dpramSize
  fits : ∀ wd ∈ writes, wd.length = 3 + (payloadOf wd).length ∧ wd.length ≤ writeBufSize b

theorem flatMap_pages (image : List UInt8) (k : Nat) :
    ((List.range k).flatMap fun i => slice image (i * bytePerPage) bytePerPage)
      = image.take (k * bytePerPage) := by
  induction k with
  | zero => simp
  | succ k ih =>
      rw [List.range_succ, List.flatMap_append, ih, List.flatMap_singleton, Nat.succ_mul,
        List.take_add]
      rfl

section Pages

variable {b : Build} {image beyond : List UInt8} {fd : Int} {slaveId : UInt8} {tr : List SysEvent}
  {ret : Int32}

theorem length_page {i : Nat} (hi : i < pagesFor image.length) :
    (slice image (i * bytePerPage) bytePerPage).length
      = min bytePerPage (image.length - i * bytePerPage) ∧ i * bytePerPage < image.length := by
  rw [slice, List.length_take, List.length_drop]
  refine ⟨rfl, ?_⟩
  simp only [pagesFor, bytePerPage] at *
  omega

theorem addressOf_pageWrite {i : Nat} (hi : i < pagesFor image.length)
    (hsize : image.length ≤ dpramSize) : addressOf (pageWrite image i) = i * bytePerPage := by
  have hlt := (length_page hi).2
  rw [pageWrite, addressOf_page, UInt32.toNat_ofNat']
  simp only [bytePerPage, dpramSize] at *
  omega

theorem getElem?_pages {k i : Nat} {wd : List UInt8}
    (h : ((List.range k).map (pageWrite image))[i]? = some wd) :
    i < k ∧ wd = pageWrite image i := by
  rw [List.getElem?_map] at h
  obtain ⟨j, hj, rfl⟩ := Option.map_eq_some_iff.mp h
  obtain ⟨hlt, rfl⟩ := List.getElem?_eq_some_iff.mp hj
  rw [List.length_range] at hlt
  exact ⟨hlt, by rw [List.getElem_range]⟩

theorem mem_pages {k : Nat} {wd : List UInt8} (h : wd ∈ (List.range k).map (pageWrite image)) :
    ∃ i, i < k ∧ wd = pageWrite image i := by
  obtain ⟨i, hi⟩ := List.mem_iff_getElem?.mp h
  exact ⟨i, getElem?_pages hi⟩

theorem covers_pageWrites (hmax : image.length ≤ b.maxFwImageSize) :
    CoversImage b image ((List.range (pagesFor image.length)).map (pageWrite image)) where
  whole := by
    rw [List.flatMap_map]
    refine (flatMap_pages image _).trans (List.take_of_length_le ?_)
    simp only [pagesFor, bytePerPage]
    omega
  address i wd h := by
    obtain ⟨hi, rfl⟩ := getElem?_pages h
    exact addressOf_pageWrite hi (Nat.le_trans hmax b.maxFwImageSize_le)
  nonempty wd h := by
    obtain ⟨i, hi, rfl⟩ := mem_pages h
    obtain ⟨hlen, hlt⟩ := length_page hi
    intro hnil
    rw [pageWrite, payloadOf_page] at hnil
    rw [hnil] at hlen
    simp only [bytePerPage, List.length_nil] at *
    omega
  length i wd h := by
    obtain ⟨hi, rfl⟩ := getElem?_pages h
    obtain ⟨hlen, hlt⟩ := length_page hi
    rw [pageWrite, payloadOf_page, hlen, List.length_map, List.length_range]
    simp only [pagesFor, bytePerPage] at *
    omega
  below wd h := by
    obtain ⟨i, hi, rfl⟩ := mem_pages h
    have hsize := Nat.le_trans hmax b.maxFwImageSize_le
    obtain ⟨hlen, hlt⟩ := length_page hi
    rw [addressOf_pageWrite hi hsize, pageWrite, payloadOf_page, hlen]
    simp only [dpramSize, bytePerPage] at *
    omega
  fits wd h := by
    obtain ⟨i, hi, rfl⟩ := mem_pages h
    have hsize := b.maxFwImageSize_ge
    obtain ⟨hlen, hlt⟩ := length_page hi
    rw [pageWrite, payloadOf_page, List.length_append, hlen]
    refine ⟨rfl, ?_⟩
    simp only [pageAddress, List.length_cons, List.length_nil, writeBufSize, bytePerPage] at *
    omega

/-- The page loop, from page `i` on. The memory behind the image is not
looked at. -/
theorem transfers_copyPages {count i : Nat} (hi : i + count = image.length / bytePerPage + 1)
    (h : Run (copyPages b (image ++ beyond) image.length (image.length / bytePerPage) fd slaveId
      count i) tr ret) :
    Transfers ((List.range' i (pagesFor image.length - i)).map fun i =>
      .i2cWrite fd slaveId (pageWrite image i)) tr ret := by
  induction count generalizing i tr ret with
  | zero =>
      obtain ⟨rfl, rfl⟩ := run_ret.mp h
      have hnone : pagesFor image.length - i = 0 := by
        simp only [pagesFor, bytePerPage] at *
        omega
      rw [hnone]
      exact .nil
  | succ count ih =>
      have hle : i ≤ image.length / bytePerPage := by omega
      unfold copyPages at h
      obtain ⟨k, hk⟩ : ∃ k, k = if i < image.length / bytePerPage then bytePerPage
        else image.length - image.length / bytePerPage * bytePerPage := ⟨_, rfl⟩
      have hnext := pages_next hle hk
      simp only [← hk] at h
      split at h
      · next hzero =>
          obtain ⟨rfl, rfl⟩ := run_ret.mp h
          have hnone : pagesFor image.length - i = 0 := by
            simp only [pagesFor, bytePerPage] at *
            omega
          rw [hnone]
          exact .nil
      · have hmore : pagesFor image.length - i = pagesFor image.length - (i + 1) + 1 := by
          simp only [pagesFor, bytePerPage] at *
          omega
        have hpage : slice (image ++ beyond) (i * bytePerPage) k
            = slice image (i * bytePerPage) bytePerPage := by
          have hin : i * bytePerPage + k ≤ image.length := by omega
          rw [slice_append_left hin, slice, slice, List.take_eq_take_iff, List.length_drop]
          simp only [bytePerPage] at *
          omega
        rw [hpage] at h
        have hi' : i + 1 + count = image.length / bytePerPage + 1 := by omega
        rw [hmore, List.range'_succ, List.map_cons, ← List.singleton_append]
        exact transfers_bind (fun _ _ => transfers_write) (fun _ _ => ih hi') h

end Pages

/-! ## The whole transfer -/

/-- The size and the CRC into their registers, each of them read back. -/
def registerTransfers (fd : Int) (slaveId : UInt8) (fwSize : Nat) (fwCrc32 : UInt32) : List Call :=
  [.i2cWrite fd slaveId ([0x04, 0x00, 0x00] ++ leBytes 4 fwSize),
    .i2cRead fd slaveId [0x04, 0x00, 0x00] 4,
    .i2cWrite fd slaveId ([0x04, 0x00, 0x04] ++ leBytes 4 fwCrc32.toNat),
    .i2cRead fd slaveId [0x04, 0x00, 0x04] 4]

theorem length_registerTransfers {b : Build} {fd : Int} {slaveId : UInt8} {fwSize : Nat}
    {fwCrc32 : UInt32} {wd : List UInt8}
    (h : .i2cWrite fd slaveId wd ∈ registerTransfers fd slaveId fwSize fwCrc32) :
    wd.length ≤ writeBufSize b := by
  have hsize := b.maxFwImageSize_ge
  have hlen : wd.length = 7 := by
    simp only [registerTransfers, List.mem_cons, Call.i2cWrite.injEq, true_and, reduceCtorEq,
      List.not_mem_nil, false_or, or_false] at h
    rcases h with rfl | rfl <;> simp [leBytes]
  rw [hlen, writeBufSize]
  omega

section Image

variable {b : Build} {image beyond : List UInt8} {fwCrc32 : UInt32} {fd : Int} {slaveId : UInt8}
  {tr : List SysEvent} {ret : Int32}

theorem transfers_writeRegister {reg value : UInt32}
    (h : Run (writeRegister b fd slaveId reg value) tr ret) :
    Transfers [.i2cWrite fd slaveId (regAddress reg ++ leBytes 4 value.toNat),
      .i2cRead fd slaveId (regAddress reg) 4] tr ret := by
  rw [← payload32_eq]
  refine transfers_bind (fun _ _ => transfers_write) (fun tr ret h => ?_) h
  obtain ⟨tr₁, res, tr₂, rfl, hread, h₁⟩ := run_bind.mp h
  obtain ⟨rfl, rfl⟩ := run_ret.mp h₁
  rw [List.append_nil]
  exact transfers_read hread

/-- The transfers of an image that is not too large. -/
theorem transfers_copyImageFromMemToFpga (hmax : image.length ≤ b.maxFwImageSize)
    (h : Run (copyImageFromMemToFpga b (image ++ beyond) image.length fwCrc32 fd slaveId) tr ret) :
    Transfers (((List.range (pagesFor image.length)).map (pageWrite image)).map
        (.i2cWrite fd slaveId) ++ registerTransfers fd slaveId image.length fwCrc32) tr ret := by
  have hpages : ((List.range (pagesFor image.length)).map (pageWrite image)).map
      (Call.i2cWrite fd slaveId) = (List.range' 0 (pagesFor image.length - 0)).map fun i =>
        Call.i2cWrite fd slaveId (pageWrite image i) := by
    rw [List.map_map, List.range_eq_range', Nat.sub_zero]
    rfl
  have hwidth : (UInt32.ofNat image.length).toNat = image.length := by
    rw [UInt32.toNat_ofNat', Nat.mod_eq_of_lt]
    exact Nat.lt_of_le_of_lt (Nat.le_trans hmax b.maxFwImageSize_le) (by decide)
  unfold copyImageFromMemToFpga at h
  rw [if_neg (Nat.not_lt.mpr hmax)] at h
  rw [hpages]
  refine transfers_bind (fun _ _ => transfers_copyPages (Nat.zero_add _)) (fun tr ret h => ?_) h
  have hsize : ∀ tr ret, Run (writeRegister b fd slaveId fpgaImgSizeReg (UInt32.ofNat image.length))
      tr ret → Transfers [.i2cWrite fd slaveId ([0x04, 0x00, 0x00] ++ leBytes 4 image.length),
        .i2cRead fd slaveId [0x04, 0x00, 0x00] 4] tr ret := by
    intro tr ret h
    have hregister := transfers_writeRegister h
    rw [hwidth] at hregister
    exact hregister
  exact transfers_bind hsize (fun _ _ => transfers_writeRegister) h

end Image

/-- **The page copy.** The messages of an image that fits are those of its
pages, each with its address and its bytes, so that every byte is sent once and
to its own place (`CoversImage`), and none is longer than the buffer it is put
together in. The size and the CRC follow, and the first transaction that fails
is the last one. An image that does not fit makes no transaction at all. -/
theorem copyImageFromMemToFpga_covers (b : Build) (image beyond : List UInt8) (fwCrc32 : UInt32)
    (fd : Int) (slaveId : UInt8) (tr : List SysEvent) (ret : Int32)
    (h : Run (copyImageFromMemToFpga b (image ++ beyond) image.length fwCrc32 fd slaveId) tr ret) :
    (image.length ≤ b.maxFwImageSize → ∃ writes, CoversImage b image writes
        ∧ Transfers (writes.map (.i2cWrite fd slaveId)
            ++ registerTransfers fd slaveId image.length fwCrc32) tr ret
        ∧ ∀ wd, .i2cWrite fd slaveId wd ∈ registerTransfers fd slaveId image.length fwCrc32 →
            wd.length ≤ writeBufSize b)
      ∧ (b.maxFwImageSize < image.length → transactions tr = []) := by
  constructor
  · intro hmax
    exact ⟨_, covers_pageWrites hmax, transfers_copyImageFromMemToFpga hmax h,
      fun wd => length_registerTransfers⟩
  · intro hmax
    unfold copyImageFromMemToFpga at h
    rw [if_pos hmax] at h
    obtain ⟨rfl, -⟩ := run_ret.mp h
    rfl

section Small

theorem copyImageFromMemToFpga_covers_small :
    (smallImage.length ≤ defaultBuild.maxFwImageSize → ∃ writes,
        CoversImage defaultBuild smallImage writes
        ∧ Transfers (writes.map (.i2cWrite 3 defaultBuild.fpgaI2cCntrlAddr)
            ++ registerTransfers 3 defaultBuild.fpgaI2cCntrlAddr smallImage.length 5) smallWrite.1 0
        ∧ ∀ wd, .i2cWrite 3 defaultBuild.fpgaI2cCntrlAddr wd
            ∈ registerTransfers 3 defaultBuild.fpgaI2cCntrlAddr smallImage.length 5 →
            wd.length ≤ writeBufSize defaultBuild)
      ∧ (defaultBuild.maxFwImageSize < smallImage.length → transactions smallWrite.1 = []) :=
  copyImageFromMemToFpga_covers defaultBuild smallImage [] 5 3 defaultBuild.fpgaI2cCntrlAddr
    smallWrite.1 0 run_smallWrite

end Small

/-! ## What is read back -/

/-- The register was read back with this value, least significant byte first. -/
def ReadBackAs (fd : Int) (slaveId : UInt8) (reg : UInt32) (value : Nat) (tr : List SysEvent) :
    Prop :=
  ∃ readData, ⟨.i2cRead fd slaveId (regAddress reg) 4, .ok readData⟩ ∈ tr
    ∧ leNat readData.toList = value

/-- Whatever the device answers when the register is read is this value. This
says nothing of whether it was read at all. -/
def Answers (fd : Int) (slaveId : UInt8) (reg : UInt32) (value : Nat) (tr : List SysEvent) :
    Prop :=
  ∀ readData, ⟨.i2cRead fd slaveId (regAddress reg) 4, .ok readData⟩ ∈ tr →
    leNat readData.toList = value

section ReadBack

variable {b : Build} {image beyond : List UInt8} {fwSize : Nat} {fwCrc32 : UInt32} {fd : Int}
  {slaveId : UInt8} {writes : List (List UInt8)} {reg : UInt32} {value : Nat} {tr : List SysEvent}
  {ret : Int32}

/-- An answer to a register read that there was once. -/
theorem readBackAs_iff {data : Vector UInt8 4} (h : ∀ readData,
    ⟨.i2cRead fd slaveId (regAddress reg) 4, .ok readData⟩ ∈ tr ↔ readData = data) :
    ReadBackAs fd slaveId reg value tr ↔ Answers fd slaveId reg value tr := by
  constructor
  · rintro ⟨readData, hmem, hvalue⟩ readData' hmem'
    rw [(h readData').mp hmem', ← (h readData).mp hmem]
    exact hvalue
  · intro hanswers
    have hmem := (h data).mpr rfl
    exact ⟨data, hmem, hanswers data hmem⟩

/-- Where everything went through, each register was read back once. -/
theorem readBacks_of_all (hcalls : (transactions tr).map (·.1)
      = writes.map (.i2cWrite fd slaveId) ++ registerTransfers fd slaveId fwSize fwCrc32)
    (hall : ∀ ev ∈ transactions tr, transacted ev = true) : ∃ size chksum : Vector UInt8 4,
      (∀ readData, ⟨.i2cRead fd slaveId (regAddress fpgaImgSizeReg) 4, .ok readData⟩ ∈ tr
        ↔ readData = size)
      ∧ ∀ readData, ⟨.i2cRead fd slaveId (regAddress fpgaChksumReg) 4, .ok readData⟩ ∈ tr
        ↔ readData = chksum := by
  have hsizeReg : regAddress fpgaImgSizeReg = [0x04, 0x00, 0x00] := by decide
  have hchkReg : regAddress fpgaChksumReg = [0x04, 0x00, 0x04] := by decide
  obtain ⟨pages, regs, htr, hpages, hregs⟩ := List.map_eq_append_iff.mp hcalls
  have hmem : ∀ readAddr readData, (⟨.i2cRead fd slaveId readAddr 4, readData⟩ : SysEvent) ∈ tr
      ↔ ⟨.i2cRead fd slaveId readAddr 4, readData⟩ ∈ transactions tr := fun _ _ =>
    ⟨fun h => mem_transactions.mpr ⟨h, trivial⟩, fun h => (mem_transactions.mp h).1⟩
  have hnoPage : ∀ readAddr readData, (⟨.i2cRead fd slaveId readAddr 4, readData⟩ : SysEvent)
      ∉ pages := by
    intro readAddr readData hmem
    have hcall := List.mem_map_of_mem (f := (·.1)) hmem
    rw [hpages] at hcall
    obtain ⟨wd, -, heq⟩ := List.mem_map.mp hcall
    cases heq
  obtain ⟨⟨c₁, a₁⟩, regs₁, rfl, rfl, hregs₁⟩ := List.map_eq_cons_iff.mp hregs
  obtain ⟨⟨c₂, a₂⟩, regs₂, rfl, rfl, hregs₂⟩ := List.map_eq_cons_iff.mp hregs₁
  obtain ⟨⟨c₃, a₃⟩, regs₃, rfl, rfl, hregs₃⟩ := List.map_eq_cons_iff.mp hregs₂
  obtain ⟨⟨c₄, a₄⟩, regs₄, rfl, rfl, hregs₄⟩ := List.map_eq_cons_iff.mp hregs₃
  obtain rfl := List.map_eq_nil_iff.mp hregs₄
  have hok₂ := hall _ (by rw [htr]; simp : (⟨_, a₂⟩ : SysEvent) ∈ transactions tr)
  have hok₄ := hall _ (by rw [htr]; simp : (⟨_, a₄⟩ : SysEvent) ∈ transactions tr)
  cases a₂ with
  | failed errno => cases hok₂
  | ok size =>
      cases a₄ with
      | failed errno => cases hok₄
      | ok chksum =>
          refine ⟨size, chksum, fun readData => ?_, fun readData => ?_⟩
          · rw [hmem, htr, hsizeReg]
            simp [hnoPage]
          · rw [hmem, htr, hchkReg]
            simp [hnoPage]

/-- **The read-back is no check.** Where 0 is returned, both registers were read
back with what was written, just if the device answers so whenever nothing
fails. The code prints what it reads and goes on, so only the device decides. -/
theorem copyImageFromMemToFpga_readBack_iff (b : Build) (image beyond : List UInt8)
    (fwCrc32 : UInt32) (fd : Int) (slaveId : UInt8) (tr : List SysEvent) (ret : Int32)
    (h : Run (copyImageFromMemToFpga b (image ++ beyond) image.length fwCrc32 fd slaveId) tr ret) :
    (ret = 0 → ReadBackAs fd slaveId fpgaImgSizeReg image.length tr
        ∧ ReadBackAs fd slaveId fpgaChksumReg fwCrc32.toNat tr)
      ↔ (image.length ≤ b.maxFwImageSize → (∀ ev ∈ transactions tr, transacted ev = true) →
        Answers fd slaveId fpgaImgSizeReg image.length tr
          ∧ Answers fd slaveId fpgaChksumReg fwCrc32.toNat tr) := by
  by_cases hmax : image.length ≤ b.maxFwImageSize
  · have htransfers := transfers_copyImageFromMemToFpga hmax h
    cases htransfers with
    | all hcalls hall =>
        obtain ⟨size, chksum, hsize, hchksum⟩ := readBacks_of_all hcalls hall
        rw [readBackAs_iff hsize, readBackAs_iff hchksum]
        exact ⟨fun h _ _ => h rfl, fun h _ => h hmax hall⟩
    | @failed done ev left htr hcalls hdone hev =>
        refine iff_of_true (fun hret => absurd hret (by decide)) fun _ hall => ?_
        have hok := hall ev (by rw [htr]; simp)
        rw [hev] at hok
        cases hok
  · refine iff_of_true (fun hret => ?_) fun h => absurd h hmax
    unfold copyImageFromMemToFpga at h
    rw [if_pos (Nat.not_le.mp hmax)] at h
    obtain ⟨-, rfl⟩ := run_ret.mp h
    exact absurd hret (by decide)

def zeroReply (_ : Unit) (c : Call) : Option (Answer c × Unit) := (c.succeed []).map (·, ())

def zeroWrite : List SysEvent × Sys Int32 × Unit :=
  play zeroReply 20 () (copyImageFromMemToFpga defaultBuild smallImage smallImage.length 5 3
    defaultBuild.fpgaI2cCntrlAddr)

theorem run_zeroWrite : Run (copyImageFromMemToFpga defaultBuild smallImage smallImage.length 5 3
    defaultBuild.fpgaI2cCntrlAddr) zeroWrite.1 0 :=
  run_play rfl

theorem zeroWrite_answers : ∀ ev ∈ zeroWrite.1, ev.1.succeed [] = some ev.2 := by
  have hanswer : ∀ (s : Unit) (c : Call) (a : Answer c) (s' : Unit), zeroReply s c = some (a, s') →
      c.succeed [] = some a := by
    intro s c a s' h
    obtain ⟨a', ha', heq⟩ := Option.map_eq_some_iff.mp h
    cases heq
    exact ha'
  exact mem_play (P := fun ev : SysEvent => ev.1.succeed [] = some ev.2) hanswer 20 () _

theorem copyImageFromMemToFpga_readBack_iff_zero :
    ((0 : Int32) = 0 →
        ReadBackAs 3 defaultBuild.fpgaI2cCntrlAddr fpgaImgSizeReg smallImage.length zeroWrite.1
        ∧ ReadBackAs 3 defaultBuild.fpgaI2cCntrlAddr fpgaChksumReg (5 : UInt32).toNat zeroWrite.1)
      ↔ (smallImage.length ≤ defaultBuild.maxFwImageSize →
        (∀ ev ∈ transactions zeroWrite.1, transacted ev = true) →
        Answers 3 defaultBuild.fpgaI2cCntrlAddr fpgaImgSizeReg smallImage.length zeroWrite.1
          ∧ Answers 3 defaultBuild.fpgaI2cCntrlAddr fpgaChksumReg (5 : UInt32).toNat zeroWrite.1) :=
  copyImageFromMemToFpga_readBack_iff defaultBuild smallImage [] 5 3 defaultBuild.fpgaI2cCntrlAddr
    zeroWrite.1 0 run_zeroWrite

/-- It returns 0 to a device that stored nothing. -/
theorem copyImageFromMemToFpga_no_check :
    ¬∀ (b : Build) (image beyond : List UInt8) (fwCrc32 : UInt32) (fd : Int) (slaveId : UInt8)
      (tr : List SysEvent) (ret : Int32),
      Run (copyImageFromMemToFpga b (image ++ beyond) image.length fwCrc32 fd slaveId) tr ret →
      ret = 0 → ReadBackAs fd slaveId fpgaImgSizeReg image.length tr
        ∧ ReadBackAs fd slaveId fpgaChksumReg fwCrc32.toNat tr := by
  intro h
  obtain ⟨⟨readData, hmem, hvalue⟩, -⟩ := h defaultBuild smallImage [] 5 3
    defaultBuild.fpgaI2cCntrlAddr zeroWrite.1 0 run_zeroWrite rfl
  have hzero := zeroWrite_answers _ hmem
  obtain rfl := I2cResult.ok.inj (Option.some.inj hzero)
  exact absurd hvalue (by decide)

end ReadBack

end Retimer
