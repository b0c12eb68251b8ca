import Retimer.Requests

/-!
# What staging an image leaves in the FPGA

A return of 0 from `copyImageFromMemToFpga` means that the image, its
size and its CRC are in place, whatever was there before (`Loaded`); no
return value means that more was touched than the range of the image and
the two registers.

There is one specification for each function, from the transactions up:
`ensures_sendI2cCmdWrite` and `ensures_sendI2cCmdRead` list the two
outcomes of a transaction, `ensures_copyPages` and
`ensures_writeRegister` use them, and `ensures_copyImageFromMemToFpga`
puts the three parts in a row; each part keeps what the parts before it
have written. Callers use the last one and see no page.

In the page loop the induction is on the iterations left. Its invariant
is that the pages before `i` are in place, and `pages_done` and
`pages_next` are the arithmetic of how far they reach: an image need not
be a number of pages, and the last iteration writes what is left.
-/

namespace Retimer

open Interaction Interaction.Prog

section Transactions

variable {b : Build} {fd : Int} {writeData : List UInt8} {m : ByteMem}

/-- The two outcomes of a write to the FPGA. -/
theorem ensures_sendI2cCmdWrite {Q : Int32 → ByteMem → Prop}
    (hok : ∀ m', KeepsStaging (m.store (addressOf writeData) (payloadOf writeData)) m' → Q 0 m')
    (hfail : ∀ m', KeepsOutside m m' (addressOf writeData) (payloadOf writeData).length →
      Q (-errorIoctlI2cRdwrFailure) m') :
    Ensures (Fpga.step b) (sendI2cCmdWrite b fd b.fpgaI2cCntrlAddr writeData) Q m := by
  intro answer m' hstep
  refine ⟨trivial, ?_⟩
  simp only [Fpga.step, ↓reduceIte] at hstep
  cases answer with
  | ok readData => exact hok m' hstep
  | failed errno =>
      intro u m'' hmsg
      exact ⟨trivial, hfail m'' (hstep.trans hmsg.outside)⟩

/-- The two outcomes of a read. -/
theorem ensures_sendI2cCmdRead {slaveId : UInt8} {n : Nat}
    {Q : Int32 × Vector UInt8 n → ByteMem → Prop}
    (hok : ∀ readData m', KeepsStaging m m' →
      (slaveId = b.fpgaI2cCntrlAddr → addressOf writeData + n ≤ dpramSize →
        readData.toList = m.load (addressOf writeData) n) → Q (0, readData) m')
    (hfail : ∀ readData m', KeepsStaging m m' → Q (-errorIoctlI2cRdwrFailure, readData) m') :
    Ensures (Fpga.step b) (sendI2cCmdRead b fd slaveId writeData n) Q m := by
  intro answer m' hstep
  refine ⟨trivial, ?_⟩
  cases answer with
  | ok readData => exact hok readData m' hstep.1 hstep.2
  | failed errno =>
      intro u m'' hmsg
      exact ⟨trivial, hfail _ m'' (KeepsStaging.trans hstep hmsg)⟩

theorem returns_sendI2cCmdRead {slaveId : UInt8} {n : Nat} :
    Returns (fun res => res.1 = 0 ∨ res.1 = -errorIoctlI2cRdwrFailure)
      (sendI2cCmdRead b fd slaveId writeData n) := by
  intro answer
  cases answer with
  | ok readData => exact Or.inl rfl
  | failed errno => exact fun _ => Or.inr rfl

/-- The one error that the pages of a read-back end with. -/
theorem returns_readPages {slaveId : UInt8} {count i : Nat} :
    Returns (fun res => ∀ ret, res = .error ret → ret = -errorIoctlI2cRdwrFailure)
      (readPages b fd slaveId count i) := by
  induction count generalizing i with
  | zero =>
      intro ret heq
      cases heq
  | succ count ih =>
      unfold readPages
      refine returns_sendI2cCmdRead.bind fun res hres =>
        Returns.ite (fun hret ret heq => ?_) fun _ => ?_
      · cases heq
        exact hres.resolve_left hret
      · refine ih.bind fun rest hrest => ?_
        cases rest with
        | error ret => exact fun ret' heq => hrest ret' (by cases heq; rfl)
        | ok pages =>
            intro ret heq
            cases heq

end Transactions

section Pages

variable {b : Build} {fwAddr : List UInt8} {fwSize : Nat} {fd : Int}

/-- How far the pages before `i` reach, and the number of bytes in page `i`. -/
theorem pages_done {i : Nat} (h : i ≤ fwSize / bytePerPage) :
    min (i * bytePerPage) fwSize = i * bytePerPage := by
  have := Nat.div_mul_le_self fwSize bytePerPage
  have := Nat.mul_le_mul_right bytePerPage h
  omega

theorem pages_next {i k : Nat} (h : i ≤ fwSize / bytePerPage)
    (hk : k = if i < fwSize / bytePerPage then bytePerPage
      else fwSize - fwSize / bytePerPage * bytePerPage) :
    min ((i + 1) * bytePerPage) fwSize = i * bytePerPage + k := by
  by_cases hlt : i < fwSize / bytePerPage
  · rw [if_pos hlt] at hk
    simp only [bytePerPage] at *
    omega
  · rw [if_neg hlt] at hk
    simp only [bytePerPage] at *
    omega

/-- The page loop. The pages before `i` are in place; the induction is on the
iterations left, and what one iteration writes joins on to them. -/
theorem ensures_copyPages (hlen : fwSize ≤ fwAddr.length) (hsize : fwSize ≤ dpramSize)
    {count i : Nat} (hi : i + count = fwSize / bytePerPage + 1) {m : ByteMem}
    (hdone : m.load 0 (min (i * bytePerPage) fwSize)
      = fwAddr.take (min (i * bytePerPage) fwSize)) :
    Ensures (Fpga.step b) (copyPages b fwAddr fwSize (fwSize / bytePerPage) fd b.fpgaI2cCntrlAddr
      count i) (fun ret m' => (ret = 0 → m'.load 0 fwSize = fwAddr.take fwSize)
        ∧ KeepsOutside m m' 0 fwSize) m := by
  induction count generalizing i m with
  | zero =>
      have hall : min (i * bytePerPage) fwSize = fwSize := by
        simp only [bytePerPage] at *
        omega
      rw [hall] at hdone
      exact ⟨fun _ => hdone, .refl⟩
  | succ count ih =>
      have hle : i ≤ fwSize / bytePerPage := by omega
      rw [pages_done hle] at hdone
      unfold copyPages
      obtain ⟨k, hk⟩ : ∃ k, k = if i < fwSize / bytePerPage then bytePerPage
        else fwSize - fwSize / bytePerPage * bytePerPage := ⟨_, rfl⟩
      have hnext := pages_next hle hk
      simp only [← hk]
      split
      · next hzero =>
          -- the `break`: the size is a multiple of the page size
          have hall : i * bytePerPage = fwSize := by
            simp only [bytePerPage] at *
            omega
          rw [hall] at hdone
          exact ⟨fun _ => hdone, .refl⟩
      · have hend : i * bytePerPage + k ≤ fwSize := by omega
        have hpages : i < 2 ^ 16 := by
          simp only [bytePerPage, dpramSize] at *
          omega
        have haddr : addressOf (pageAddress (UInt32.ofNat i) ++ slice fwAddr (i * bytePerPage) k)
            = i * bytePerPage := addressOf_page_nat hpages _
        have hbytes : (slice fwAddr (i * bytePerPage) k).length = k := length_slice (by omega)
        have hin : i * bytePerPage + k ≤ fpgaUpdateStatusReg.toNat := Nat.le_trans
          (Nat.le_trans hend hsize) (by decide)
        refine wp_bind.mpr (ensures_sendI2cCmdWrite ?_ ?_)
        · intro m' hstore
          rw [haddr, payloadOf_page] at hstore
          obtain ⟨hload, hkeep⟩ := hstore.of_store (by rwa [hbytes])
          rw [hbytes] at hload hkeep
          have hdone' : m'.load 0 (min ((i + 1) * bytePerPage) fwSize)
              = fwAddr.take (min ((i + 1) * bytePerPage) fwSize) := by
            have hbefore : m'.load 0 (i * bytePerPage) = fwAddr.take (i * bytePerPage) := by
              rw [hkeep.load (by omega) (Or.inl (by omega)), hdone]
            have hpage : m'.load (0 + i * bytePerPage) k = slice fwAddr (i * bytePerPage) k := by
              rw [Nat.zero_add, hload]
            rw [hnext, ← ByteMem.load_append, hbefore, hpage, List.take_add, slice]
          refine wp_mono (ih (by omega) hdone') (fun _ _ h => h) fun ret m'' h => ⟨h.1, ?_⟩
          exact (hkeep.mono (Nat.zero_le _) (by omega)).trans h.2
        · intro m' hkeep
          rw [haddr, payloadOf_page, hbytes] at hkeep
          exact ⟨fun hret => absurd hret (by decide), hkeep.mono (Nat.zero_le _) (by omega)⟩

end Pages

section Registers

variable {b : Build} {fd : Int} {m : ByteMem} {reg value : UInt32}

theorem ensures_writeRegister
    (haddr : addressOf (regAddress reg ++ payload32 value) = reg.toNat)
    (hreg : reg.toNat + 4 ≤ fpgaUpdateStatusReg.toNat) :
    Ensures (Fpga.step b) (writeRegister b fd b.fpgaI2cCntrlAddr reg value)
      (fun ret m' => (ret = 0 → m'.load reg.toNat 4 = leBytes 4 value.toNat)
        ∧ KeepsOutside m m' reg.toNat 4) m := by
  refine wp_bind.mpr (ensures_sendI2cCmdWrite ?_ ?_)
  · intro m' hstore
    rw [haddr, payloadOf_reg, payload32_eq] at hstore
    obtain ⟨hload, hkeep⟩ := hstore.of_store (by rwa [length_leBytes])
    rw [length_leBytes] at hload hkeep
    refine wp_bind.mpr (ensures_sendI2cCmdRead ?_ ?_)
    · intro readData m'' hread _
      exact ⟨fun _ => (hread.load hreg).trans hload, hkeep.trans hread.outside⟩
    · intro readData m'' hread
      exact ⟨fun hret => absurd hret (by decide), hkeep.trans hread.outside⟩
  · intro m' hkeep
    rw [haddr, payloadOf_reg, payload32_eq, length_leBytes] at hkeep
    exact ⟨fun hret => absurd hret (by decide), hkeep⟩

end Registers

/-- The image, its size and its CRC are in place: the image from address 0 on,
the other two in their registers, least significant byte first. -/
structure Loaded (m : ByteMem) (bytes : List UInt8) (fwCrc32 : UInt32) : Prop where
  image : m.load 0 bytes.length = bytes
  size : m.load fpgaImgSizeReg.toNat 4 = leBytes 4 bytes.length
  checksum : m.load fpgaChksumReg.toNat 4 = leBytes 4 fwCrc32.toNat

theorem Loaded.keeps {m m' : ByteMem} {bytes : List UInt8} {fwCrc32 : UInt32}
    (h : Loaded m bytes fwCrc32) (hkeep : KeepsStaging m m') (hsize : bytes.length ≤ dpramSize) :
    Loaded m' bytes fwCrc32 where
  image := (hkeep.load (Nat.le_trans (by omega) (show dpramSize ≤ _ by decide))).trans h.image
  size := (hkeep.load (by decide)).trans h.size
  checksum := (hkeep.load (by decide)).trans h.checksum

theorem ensures_copyImageFromMemToFpga {b : Build} {fwAddr : List UInt8} {fwSize : Nat}
    (fwCrc32 : UInt32) {fd : Int} (hlen : fwSize ≤ fwAddr.length) (m : ByteMem) :
    Ensures (Fpga.step b) (copyImageFromMemToFpga b fwAddr fwSize fwCrc32 fd b.fpgaI2cCntrlAddr)
      (fun ret m' => (ret = 0 → fwSize ≤ b.maxFwImageSize
          ∧ Loaded m' (fwAddr.take fwSize) fwCrc32)
        ∧ ∀ x, fwSize ≤ x → x < dpramSize → m' x = m x) m := by
  have hdpram : dpramSize < fpgaUpdateStatusReg.toNat := by decide
  unfold copyImageFromMemToFpga
  split
  · exact ⟨fun hret => absurd hret (by decide), fun _ _ _ => rfl⟩
  · next hmax =>
      have hsize : fwSize ≤ dpramSize :=
        Nat.le_trans (Nat.not_lt.mp hmax) b.maxFwImageSize_le
      have hstart : m.load 0 (min (0 * bytePerPage) fwSize)
          = fwAddr.take (min (0 * bytePerPage) fwSize) := by
        rw [Nat.zero_mul, Nat.zero_min]
        rfl
      refine wp_bind.mpr (wp_mono (ensures_copyPages hlen hsize (Nat.zero_add _) hstart)
        (fun _ _ h => h) ?_)
      rintro ret m₁ ⟨hpages, hkeep₁⟩
      have hframe₁ : ∀ x, fwSize ≤ x → x < dpramSize → m₁ x = m x :=
        fun x hlo hhi => hkeep₁ x (by omega) (Or.inr (by omega))
      split
      · next hret => exact ⟨fun hzero => absurd hzero hret, hframe₁⟩
      · next hret =>
          have hpages := hpages (not_not.mp hret)
          refine wp_bind.mpr (wp_mono (ensures_writeRegister (addressOf_imgSize _) (by decide))
            (fun _ _ h => h) ?_)
          rintro ret m₂ ⟨hsizeReg, hkeep₂⟩
          have hframe₂ : ∀ x, fwSize ≤ x → x < dpramSize → m₂ x = m x :=
            fun x hlo hhi => (hkeep₂ x (by omega) (Or.inl hhi)).trans (hframe₁ x hlo hhi)
          split
          · next hret => exact ⟨fun hzero => absurd hzero hret, hframe₂⟩
          · next hret =>
              have hsizeReg := hsizeReg (not_not.mp hret)
              refine wp_mono (ensures_writeRegister (addressOf_chksum _) (by decide))
                (fun _ _ h => h) ?_
              rintro ret m₃ ⟨hchksum, hkeep₃⟩
              have himage : (fwAddr.take fwSize).length = fwSize := by
                rw [List.length_take, Nat.min_eq_left hlen]
              have hwidth : (UInt32.ofNat fwSize).toNat = fwSize := by
                rw [UInt32.toNat_ofNat', Nat.mod_eq_of_lt]
                exact Nat.lt_of_le_of_lt hsize (by decide)
              refine ⟨fun hret => ⟨Nat.not_lt.mp hmax, ?_, ?_, hchksum hret⟩, ?_⟩
              · have hbelow : 0 + fwSize ≤ fpgaImgSizeReg.toNat := by
                  rw [Nat.zero_add]
                  exact hsize
                rw [himage, hkeep₃.load (by omega) (Or.inl (Nat.le_trans hbelow (by decide))),
                  hkeep₂.load (by omega) (Or.inl hbelow), hpages]
              · rw [himage, hkeep₃.load (by decide) (Or.inl (by decide)), hsizeReg, hwidth]
              · intro x hlo hhi
                refine (hkeep₃ x (by omega) (Or.inl ?_)).trans (hframe₂ x hlo hhi)
                exact Nat.lt_trans hhi (by decide)

end Retimer
