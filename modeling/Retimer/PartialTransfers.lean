import Retimer.PageCopy

/-!
# Reads and writes that stop short

The copies between a file and the FPGA look at whether `read` and
`write` failed, and not at how far they came. After a return of 0 the
bytes are all there only if what was not transferred is what was there
before.

The two conditions say when a difference is left. `ShortLoad`: every
transaction went through, and what was sent, the bytes that were read
with what `malloc` had left behind them, is not the file. `ShortStore`:
something was written, and it does not make the file the DPRAM. Both are
about the calls of the run and the file and memory in front of it, and
neither about what the copy returns or leaves.

`loads_iff` and `stores_iff` go through the ways of `FileLoad` and
`FileStore`; on the ways without a transfer neither condition can hold
(`not_shortLoad`, `not_shortStore`), and on the one with it the
condition is the difference (`shortLoad_copied`, `shortStore_written`).
The two small runs at the end are on a machine that moves one byte at a
time.
-/

namespace Retimer

open Interaction Interaction.Prog

theorem not_mem_bus {tr : List SysEvent} (hbus : ∀ ev ∈ tr, IsBus ev.1) {c : Call} {r : Answer c}
    (hc : ¬IsBus c) : (⟨c, r⟩ : SysEvent) ∉ tr :=
  fun hmem => hc (hbus _ hmem)

/-- A return of 0 is what a list of transfers ends with that all went through. -/
theorem Transfers.zero_iff {calls : List Call} {tr : List SysEvent} {ret : Int32}
    (h : Transfers calls tr ret) : ret = 0 ↔ ∀ ev ∈ transactions tr, transacted ev = true := by
  cases h with
  | all hcalls hall => exact iff_of_true rfl hall
  | @failed done ev left htr hcalls hdone hev =>
      refine iff_of_false (by decide) fun hall => ?_
      have hok := hall ev (by rw [htr]; simp)
      rw [hev] at hok
      cases hok

/-! ## From the file to the FPGA -/

/-- Every transaction went through, and what was sent is not the file: the
bytes that were read, and behind them what `malloc` left in the buffer. -/
def ShortLoad (f : TempFile) (tr : List SysEvent) : Prop :=
  (∀ ev ∈ transactions tr, transacted ev = true) ∧ ∃ size fwBuf bytes,
    ⟨.malloc size, some fwBuf⟩ ∈ tr ∧ ⟨.read f.fd size, some bytes⟩ ∈ tr
      ∧ bytes.val ++ fwBuf.toList.drop bytes.val.length ≠ f.contents

section Load

variable {b : Build} {fd : Int} {path : String} {f f' : TempFile} {m m' : ByteMem}
  {tr : List SysEvent} {ret : Int32}

theorem not_shortLoad (h : ∀ size bytes, (⟨.read f.fd size, some bytes⟩ : SysEvent) ∉ tr) :
    ¬ShortLoad f tr := by
  rintro ⟨-, size, fwBuf, bytes, -, hread, -⟩
  exact h size bytes hread

theorem shortLoad_copied {size : Nat} {fwBuf : Vector UInt8 size}
    {bytes : {bs : List UInt8 // bs.length ≤ size}} (hbus : ∀ ev ∈ tr, IsBus ev.1) :
    ShortLoad f (⟨.fstat f.fd, some size⟩ :: ⟨.malloc size, some fwBuf⟩
        :: ⟨.read f.fd size, some bytes⟩ :: tr)
      ↔ (∀ ev ∈ transactions tr, transacted ev = true)
        ∧ bytes.val ++ fwBuf.toList.drop bytes.val.length ≠ f.contents := by
  constructor
  · rintro ⟨hall, size', fwBuf', bytes', hmalloc, hread, hne⟩
    refine ⟨hall, ?_⟩
    have hnoMalloc : ∀ size (r : Answer (.malloc size)), (⟨.malloc size, r⟩ : SysEvent) ∉ tr :=
      fun _ _ => not_mem_bus hbus fun h => h
    have hnoRead : ∀ size (r : Answer (.read f.fd size)), (⟨.read f.fd size, r⟩ : SysEvent) ∉ tr :=
      fun _ _ => not_mem_bus hbus fun h => h
    simp only [List.mem_cons, hnoMalloc, hnoRead, or_false] at hmalloc hread
    rcases hmalloc with h | h | h
    · cases h
    · cases h
      rcases hread with h | h | h
      · cases h
      · cases h
      · cases h
        exact hne
    · cases h
  · rintro ⟨hall, hne⟩
    exact ⟨hall, size, fwBuf, bytes, by simp, by simp, hne⟩

theorem zero_copyImageFromMemToFpga {image : List UInt8} {fwCrc32 : UInt32} {slaveId : UInt8}
    (hmax : image.length ≤ b.maxFwImageSize)
    (h : Run (copyImageFromMemToFpga b image image.length fwCrc32 fd slaveId) tr ret) :
    ret = 0 ↔ ∀ ev ∈ transactions tr, transacted ev = true := by
  have h' :
      Run (copyImageFromMemToFpga b (image ++ []) image.length fwCrc32 fd slaveId) tr ret := by
    rwa [List.append_nil]
  exact (transfers_copyImageFromMemToFpga hmax h').zero_iff

theorem loads_iff (hrun : Run (copyImageFromFileToFpga b f.fd fd b.fpgaI2cCntrlAddr) tr ret)
    (hfpga : Follows (Fpga.step b) m tr m') (hfile : Follows (TempFile.step path) f tr f') :
    (ret = 0 → Loaded m' f.contents (crc32 f.contents (toInt32 f.contents.length)))
      ↔ ¬ShortLoad f tr := by
  cases run_fileLoad hrun with
  | unsized =>
      refine iff_of_true (fun hret => absurd hret (by decide)) (not_shortLoad fun _ _ => ?_)
      simp
  | refused hsize =>
      refine iff_of_true (fun hret => absurd hret (by decide)) (not_shortLoad fun _ _ => ?_)
      simp
  | noMemory =>
      refine iff_of_true (fun hret => absurd hret (by decide)) (not_shortLoad fun _ _ => ?_)
      simp
  | unread =>
      refine iff_of_true (fun hret => absurd hret (by decide)) (not_shortLoad ?_)
      intro size bytes hmem
      simp only [List.mem_cons, List.not_mem_nil, or_false] at hmem
      rcases hmem with h | h | h | h <;> cases h
  | @copied size fwBuf bytes tr₁ ret hsize hcopy =>
      obtain ⟨m₁, -, m₂, -, m₃, -, hfpga₃⟩ := hfpga
      obtain ⟨f₁, ⟨rfl, hlen⟩, -⟩ := hfile
      obtain rfl := hlen rfl
      obtain ⟨-, hmax⟩ := not_or.mp hsize
      rw [shortLoad_copied ((only_staging.mono fun _ => IsStaging.isBus).run hcopy)]
      obtain ⟨buf, hbuf⟩ : ∃ buf, buf = bytes.val ++ fwBuf.toList.drop bytes.val.length :=
        ⟨_, rfl⟩
      have hlength : buf.length = f₁.contents.length := by
        have := bytes.property
        simp only [hbuf, List.length_append, List.length_drop, Vector.length_toList]
        omega
      rw [← hbuf, ← hlength] at hcopy
      rw [← hbuf]
      have hzero := zero_copyImageFromMemToFpga (by omega) hcopy
      have hloaded := (wp_run (ensures_copyImageFromMemToFpga _ (Nat.le_refl _) m₃) hcopy
        hfpga₃).1
      rw [List.take_length] at hloaded
      constructor
      · rintro hexact ⟨hall, hne⟩
        have hret := hzero.mpr hall
        refine hne ?_
        rw [← (hloaded hret).2.image, hlength]
        exact (hexact hret).image
      · intro hshort hret
        have hsame : buf = f₁.contents := by
          by_contra hne
          exact hshort ⟨hzero.mp hret, hne⟩
        rw [hsame] at hloaded
        exact (hloaded hret).2

end Load

/-! ## From the FPGA to the file -/

/-- Something was written, and the file is larger than the DPRAM, or what the
write took, put where the seek left the file, does not make it the DPRAM. -/
def ShortStore (f : TempFile) (m : ByteMem) (tr : List SysEvent) : Prop :=
  ∃ sought buf k, ⟨.lseek f.fd 0, sought⟩ ∈ tr ∧ ⟨.write f.fd buf, some k⟩ ∈ tr
    ∧ (dpramSize < f.contents.length
      ∨ ((f.rewound sought).writeAt ((m.load 0 f.contents.length).take k.val)).contents
        ≠ m.load 0 f.contents.length)

section Store

variable {b : Build} {fd : Int} {path : String} {f f' : TempFile} {m m' : ByteMem}
  {tr : List SysEvent} {ret : Int32}

theorem not_shortStore
    (h : ∀ buf (k : Fin (buf.length + 1)), (⟨.write f.fd buf, some k⟩ : SysEvent) ∉ tr) :
    ¬ShortStore f m tr := by
  rintro ⟨sought, buf, k, -, hwrite, -⟩
  exact h buf k hwrite

theorem shortStore_written {size : Nat} {fwBuf : Vector UInt8 size} {sought : Bool}
    {buf : List UInt8} {n : Fin (buf.length + 1)} (hbus : ∀ ev ∈ tr, IsBus ev.1) :
    ShortStore f m (⟨.fstat f.fd, some size⟩ :: ⟨.malloc size, some fwBuf⟩
        :: (tr ++ [⟨.lseek f.fd 0, sought⟩, ⟨.write f.fd buf, some n⟩]))
      ↔ dpramSize < f.contents.length
        ∨ ((f.rewound sought).writeAt ((m.load 0 f.contents.length).take n.val)).contents
          ≠ m.load 0 f.contents.length := by
  constructor
  · rintro ⟨sought', buf', k, hseek, hwrite, hshort⟩
    have hnoSeek : ∀ r : Answer (.lseek f.fd 0), (⟨.lseek f.fd 0, r⟩ : SysEvent) ∉ tr :=
      fun _ => not_mem_bus hbus fun h => h
    have hnoWrite : ∀ buf (r : Answer (.write f.fd buf)),
        (⟨.write f.fd buf, r⟩ : SysEvent) ∉ tr :=
      fun _ _ => not_mem_bus hbus fun h => h
    simp only [List.mem_cons, List.mem_append, hnoSeek, hnoWrite, List.not_mem_nil, or_false,
      false_or] at hseek hwrite
    rcases hseek with h | h | h | h
    · cases h
    · cases h
    · cases h
      rcases hwrite with h | h | h | h
      · cases h
      · cases h
      · cases h
      · cases h
        exact hshort
    · cases h
  · intro hshort
    exact ⟨sought, buf, n, by simp, by simp, hshort⟩

theorem stores_iff (hrun : Run (copyImageFromFpga b f.fd fd b.fpgaI2cCntrlAddr) tr ret)
    (hfpga : Follows (Fpga.step b) m tr m') (hfile : Follows (TempFile.step path) f tr f') :
    (ret = 0 → f.contents.length ≤ dpramSize ∧ f'.contents = m.load 0 f.contents.length)
      ↔ ¬ShortStore f m tr := by
  have hnoWrite : ∀ {tr : List SysEvent}, (∀ ev ∈ tr, IsBus ev.1) →
      ∀ buf (k : Fin (buf.length + 1)), (⟨.write f.fd buf, some k⟩ : SysEvent) ∉ tr :=
    fun hbus _ _ => not_mem_bus hbus fun h => h
  cases run_fileStore hrun with
  | unsized =>
      refine iff_of_true (fun hret => absurd hret (by decide)) (not_shortStore fun _ _ => ?_)
      simp
  | refused hsize =>
      refine iff_of_true (fun hret => absurd hret (by decide)) (not_shortStore fun _ _ => ?_)
      simp
  | lost hpages =>
      have hret := returns_readPages.run hpages _ rfl
      refine iff_of_true (fun hzero => ?_) (not_shortStore fun buf k => ?_)
      · rw [hret] at hzero
        exact absurd hzero (by decide)
      · have hbus := only_readPages_isBus.run hpages
        simp [hnoWrite hbus]
  | unwritten hpages =>
      refine iff_of_true (fun hret => absurd hret (by decide)) (not_shortStore fun buf k hmem => ?_)
      have hbus := only_readPages_isBus.run hpages
      simp only [List.mem_cons, List.mem_append, hnoWrite hbus, List.not_mem_nil, or_false,
        false_or] at hmem
      rcases hmem with h | h | h | h | h <;> cases h
  | @written size fwBuf tr₁ pages sought n hsize hpages =>
      have hbus := only_readPages_isBus.run hpages
      obtain ⟨-, hpage⟩ := not_or.mp hsize
      rw [shortStore_written hbus]
      obtain ⟨rfl, rfl⟩ := follows_written hbus hfile
      by_cases hlarge : dpramSize < f.contents.length
      · refine iff_of_false (fun hexact => ?_) (not_not.mpr (Or.inl hlarge))
        exact Nat.not_le.mpr hlarge (hexact rfl).1
      · have hfits := Nat.not_lt.mp hlarge
        obtain ⟨k, hk⟩ : ∃ k, k = n.val := ⟨_, rfl⟩
        rw [← hk, buffer_of_readPages hpages hfpga hfits (not_not.mp hpage)]
        constructor
        · rintro hexact (hlt | hne)
          · exact hlarge hlt
          · exact hne (hexact rfl).2
        · intro hshort _
          exact ⟨hfits, not_not.mp fun hne => hshort (Or.inr hne)⟩

end Store

/-- **Partial transfers.** A return of 0 from either copy means that all of the
file was copied, just if no short read or write left a difference. Neither copy
looks at how many bytes were transferred. What a short read leaves behind in the
buffer goes to the FPGA, and behind a short write the file is what it was; it
may still be the same by chance, so the conditions are about what came out
(`ShortLoad`, `ShortStore`). -/
theorem copies_exact_iff (b : Build) (fd : Int) (path : String) (f f' : TempFile)
    (m m' : ByteMem) (tr : List SysEvent) (ret : Int32) (hfpga : Follows (Fpga.step b) m tr m')
    (hfile : Follows (TempFile.step path) f tr f') :
    (Run (copyImageFromFileToFpga b f.fd fd b.fpgaI2cCntrlAddr) tr ret →
        ((ret = 0 → Loaded m' f.contents (crc32 f.contents (toInt32 f.contents.length)))
          ↔ ¬ShortLoad f tr))
      ∧ (Run (copyImageFromFpga b f.fd fd b.fpgaI2cCntrlAddr) tr ret →
        ((ret = 0 → f.contents.length ≤ dpramSize ∧ f'.contents = m.load 0 f.contents.length)
          ↔ ¬ShortStore f m tr)) :=
  ⟨fun hrun => loads_iff hrun hfpga hfile, fun hrun => stores_iff hrun hfpga hfile⟩

/-! ## A machine that moves one byte -/

/-- The working machine, but for `read` and `write`, which stop after the first
byte. -/
def firstByteReply (b : Build) :
    ByteMem × TempFile → (c : Call) → Option (Answer c × ByteMem × TempFile)
  | (m, f), .read fd n =>
      let bs := (slice f.contents f.offset n).take 1
      if hbs : bs.length ≤ n then
        some (some ⟨bs, hbs⟩, m,
          if fd = f.fd then { f with offset := f.offset + bs.length } else f)
      else none
  | (m, f), .write fd buf =>
      if hbuf : 1 < buf.length + 1 then
        some (some ⟨1, hbuf⟩, m, if fd = f.fd then f.writeAt (buf.take 1) else f)
      else none
  | s, c => workingReply b s c

theorem firstByteReply_sound {b : Build} (path : String) {s s' : ByteMem × TempFile} {c : Call}
    {r : Answer c} (h : firstByteReply b s c = some (r, s')) :
    Fpga.step b s.1 ⟨c, r⟩ s'.1 ∧ TempFile.step path s.2 ⟨c, r⟩ s'.2 := by
  obtain ⟨m, f⟩ := s
  cases c with
  | read fd n =>
      simp only [firstByteReply] at h
      split at h
      · obtain ⟨rfl, rfl⟩ := Prod.mk.inj (Option.some.inj h)
        refine ⟨fun _ _ => rfl, ?_⟩
        simp only [TempFile.step]
        split
        · refine ⟨?_, fun hnil => ?_, rfl⟩
          · have hprefix := (List.take_prefix 1 _).trans
              (List.take_prefix n (f.contents.drop f.offset))
            exact List.prefix_iff_eq_take.mp hprefix
          · simpa [slice] using hnil
        · rfl
      · cases h
  | write fd buf =>
      simp only [firstByteReply] at h
      split at h
      · obtain ⟨rfl, rfl⟩ := Prod.mk.inj (Option.some.inj h)
        exact ⟨fun _ _ => rfl, rfl⟩
      · cases h
  | _ =>
      have hworking : workingReply b (m, f) _ = some (r, s') := h
      obtain ⟨hfpga, hfile, -⟩ := workingReply_sound path hworking
      exact ⟨hfpga, hfile⟩

section Small

def imageMachine : ByteMem × TempFile := (fun _ => 1, ⟨true, 4, smallImage, 0⟩)

def shortLoad : List SysEvent × Sys Int32 × ByteMem × TempFile :=
  play (firstByteReply defaultBuild) 20 imageMachine
    (copyImageFromFileToFpga defaultBuild 4 3 defaultBuild.fpgaI2cCntrlAddr)

def shortStore : List SysEvent × Sys Int32 × ByteMem × TempFile :=
  play (firstByteReply defaultBuild) 20 smallMachine
    (copyImageFromFpga defaultBuild 4 3 defaultBuild.fpgaI2cCntrlAddr)

/-- Both copies return 0. The DPRAM then holds the first byte of the image and zeros, and the file
something else than the DPRAM does. -/
theorem short_results : (shortLoad.2.1.result = some 0 ∧ shortStore.2.1.result = some 0)
    ∧ shortLoad.2.2.1.load 0 3 = [7, 0, 0]
    ∧ shortStore.2.2.2.contents ≠ smallMachine.1.load 0 smallMachine.2.contents.length := by
  decide +kernel

theorem run_shortLoad :
    Run (copyImageFromFileToFpga defaultBuild 4 3 defaultBuild.fpgaI2cCntrlAddr) shortLoad.1 0 :=
  run_play short_results.1.1

theorem run_shortStore :
    Run (copyImageFromFpga defaultBuild 4 3 defaultBuild.fpgaI2cCntrlAddr) shortStore.1 0 :=
  run_play short_results.1.2

theorem follows_firstByteReply {b : Build} {n : Nat} {m : ByteMem} {f : TempFile} {p : Sys Int32}
    (path : String) (out : List SysEvent × Sys Int32 × ByteMem × TempFile)
    (hout : out = play (firstByteReply b) n (m, f) p) :
    Follows (Fpga.step b) m out.1 out.2.2.1 ∧ Follows (TempFile.step path) f out.1 out.2.2.2 := by
  have h : Follows ((Fpga.step b).prod (TempFile.step path)) (m, f) out.1 out.2.2 :=
    hout ▸ follows_play (fun _ _ _ _ => firstByteReply_sound path) n (m, f) p
  exact ⟨h.left, h.right⟩

theorem copies_exact_iff_firstByte :
    (((0 : Int32) = 0 → Loaded shortLoad.2.2.1 smallImage
        (crc32 smallImage (toInt32 smallImage.length)))
      ↔ ¬ShortLoad imageMachine.2 shortLoad.1)
    ∧ (((0 : Int32) = 0 → smallMachine.2.contents.length ≤ dpramSize
        ∧ shortStore.2.2.2.contents = smallMachine.1.load 0 smallMachine.2.contents.length)
      ↔ ¬ShortStore smallMachine.2 smallMachine.1 shortStore.1) := by
  obtain ⟨hfpga₁, hfile₁⟩ := follows_firstByteReply (b := defaultBuild) "" shortLoad rfl
  obtain ⟨hfpga₂, hfile₂⟩ := follows_firstByteReply (b := defaultBuild) "" shortStore rfl
  exact ⟨(copies_exact_iff defaultBuild 3 "" imageMachine.2 shortLoad.2.2.2 imageMachine.1
      shortLoad.2.2.1 shortLoad.1 0 hfpga₁ hfile₁).1 run_shortLoad,
    (copies_exact_iff defaultBuild 3 "" smallMachine.2 shortStore.2.2.2 smallMachine.1
      shortStore.2.2.1 shortStore.1 0 hfpga₂ hfile₂).2 run_shortStore⟩

/-- Neither copy notices that one byte only was transferred. -/
theorem partial_transfers_unnoticed :
    (¬∀ (b : Build) (fd : Int) (path : String) (f f' : TempFile) (m m' : ByteMem)
        (tr : List SysEvent), Follows (Fpga.step b) m tr m' →
        Follows (TempFile.step path) f tr f' →
        Run (copyImageFromFileToFpga b f.fd fd b.fpgaI2cCntrlAddr) tr 0 →
        Loaded m' f.contents (crc32 f.contents (toInt32 f.contents.length)))
    ∧ ¬∀ (b : Build) (fd : Int) (path : String) (f f' : TempFile) (m m' : ByteMem)
        (tr : List SysEvent), Follows (Fpga.step b) m tr m' →
        Follows (TempFile.step path) f tr f' →
        Run (copyImageFromFpga b f.fd fd b.fpgaI2cCntrlAddr) tr 0 →
        f'.contents = m.load 0 f.contents.length := by
  constructor
  · intro h
    obtain ⟨hfpga, hfile⟩ := follows_firstByteReply (b := defaultBuild) "" shortLoad rfl
    have himage := (h defaultBuild 3 "" imageMachine.2 shortLoad.2.2.2 imageMachine.1
      shortLoad.2.2.1 shortLoad.1 hfpga hfile run_shortLoad).image
    have hshort : [7, 0, 0] = smallImage := short_results.2.1.symm.trans himage
    exact absurd hshort (by decide)
  · intro h
    obtain ⟨hfpga, hfile⟩ := follows_firstByteReply (b := defaultBuild) "" shortStore rfl
    exact short_results.2.2 (h defaultBuild 3 "" smallMachine.2 shortStore.2.2.2 smallMachine.1
      shortStore.2.2.1 shortStore.1 hfpga hfile run_shortStore)

end Small

end Retimer
