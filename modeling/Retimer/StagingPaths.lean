import Retimer.PartialTransfers
import Retimer.TwoRuns

/-!
# The two ways of staging

An image in a file and the same image in memory take the same
transactions to the FPGA, but for the one image that only one of the two
ways refuses: the empty one.

`Staged` lists what becomes of a file: a size out of bounds is refused,
and any other file goes the way of an image in memory, behind three
requests that are none of the FPGA's. `staged_copyImageFromFileToFpga`
has every run in it, given that the file is what the size and the read
say (`Granted`). The two runs that are compared then belong to one
program, and `copyImageFromMemToFpga_same` is determinacy: with the
transactions answered the same they are the same run.

That the empty image is staged from memory at all is
`transactions_of_empty`: its size is written.
-/

namespace Retimer

open Interaction Interaction.Prog

/-- The file has a size, there is memory for it, and it is read in full. -/
def Granted : SysEvent → Prop
  | ⟨.fstat _, none⟩ => False
  | ⟨.malloc _, none⟩ => False
  | ⟨.read _ _, none⟩ => False
  | ⟨.read _ n, some bytes⟩ => bytes.val.length = n
  | _ => True

theorem IsBus.granted {ev : SysEvent} (h : IsBus ev.1) : Granted ev := by
  obtain ⟨c, r⟩ := ev
  cases c with
  | i2cWrite fd slaveId writeData => trivial
  | i2cRead fd slaveId writeData n => trivial
  | emitLogMessage m => trivial
  | _ => exact h.elim

/-- Size and contents of the file decide how it is staged: a size out of bounds
is refused, and any other file goes the way of an image in memory. -/
inductive Staged (b : Build) (x : List UInt8) (fd : Int) (slaveId : UInt8) :
    List SysEvent → Int32 → Prop where
  | refused {tr : List SysEvent} (hsize : x = [] ∨ x.length > b.maxFwImageSize)
      (hnone : transactions tr = []) : Staged b x fd slaveId tr (-errorWrongFirmware)
  | sent {tr tr₁ : List SysEvent} {ret : Int32} (hne : x ≠ [])
      (hmax : x.length ≤ b.maxFwImageSize)
      (hcopy : Run (copyImageFromMemToFpga b x x.length (crc32 x (toInt32 x.length)) fd slaveId)
        tr₁ ret) (hsame : transactions tr = transactions tr₁) : Staged b x fd slaveId tr ret

section Paths

variable {b : Build} {fd : Int} {slaveId : UInt8} {path : String} {f f' : TempFile}
  {x : List UInt8} {fwCrc32 : UInt32} {tr tr' : List SysEvent} {ret ret' : Int32}

theorem staged_copyImageFromFileToFpga
    (hrun : Run (copyImageFromFileToFpga b f.fd fd slaveId) tr ret)
    (hfile : Follows (TempFile.step path) f tr f') (hoffset : f.offset = 0)
    (hgranted : ∀ ev ∈ tr, Granted ev) : Staged b f.contents fd slaveId tr ret := by
  cases run_fileLoad hrun with
  | unsized => exact (hgranted ⟨.fstat f.fd, none⟩ (by simp)).elim
  | @refused size hsize =>
      obtain ⟨f₁, ⟨rfl, hlen⟩, -⟩ := hfile
      obtain rfl := hlen rfl
      exact .refused (hsize.imp_left List.length_eq_zero_iff.mp) rfl
  | @noMemory size => exact (hgranted ⟨.malloc size, none⟩ (by simp)).elim
  | @unread size fwBuf => exact (hgranted ⟨.read f.fd size, none⟩ (by simp)).elim
  | @copied size fwBuf bytes tr₁ ret hsize hcopy =>
      obtain ⟨f₁, ⟨rfl, hlen⟩, f₂, rfl, f₃, hread, -⟩ := hfile
      obtain rfl := hlen rfl
      obtain ⟨hpos, hmax⟩ := not_or.mp hsize
      have hfull : bytes.val.length = f₂.contents.length :=
        hgranted ⟨.read f₂.fd f₂.contents.length, some bytes⟩ (by simp)
      rw [TempFile.buffer_of_read hread hfull hoffset rfl] at hcopy
      exact .sent (hpos ∘ List.length_eq_zero_iff.mpr) (Nat.not_lt.mp hmax) hcopy rfl

theorem copyImageFromMemToFpga_same
    (h : Run (copyImageFromMemToFpga b x x.length fwCrc32 fd slaveId) tr ret)
    (h' : Run (copyImageFromMemToFpga b x x.length fwCrc32 fd slaveId) tr' ret')
    (halike : AnsweredAlike (· = ·) (· = ·) (transactions tr) (transactions tr')) :
    tr = tr' ∧ ret = ret' := by
  have hchoice : ∀ c, IsStaging c → IsTransaction c ∨ Subsingleton (Answer c) := by
    intro c hc
    cases c with
    | i2cWrite fd slaveId writeData => exact Or.inl trivial
    | i2cRead fd slaveId writeData n => exact Or.inl trivial
    | emitLogMessage m => exact Or.inr (inferInstanceAs (Subsingleton Unit))
    | _ => exact hc.elim
  exact run_same_of_filter (only_staging.mono hchoice) h h' halike

/-- The empty image is staged from memory: at least its size is written. -/
theorem transactions_of_empty
    (h : Run (copyImageFromMemToFpga b [] 0 fwCrc32 fd slaveId) tr ret) : transactions tr ≠ [] := by
  have hnone : ([] : List UInt8).length ≤ b.maxFwImageSize := Nat.zero_le _
  have htransfers : Transfers _ tr ret := transfers_copyImageFromMemToFpga hnone h
  cases htransfers with
  | all hcalls hall =>
      intro hnone
      rw [hnone] at hcalls
      cases hcalls
  | failed htr hcalls hdone hev => simp [htr]

end Paths

/-- **The two ways agree.** A file that is read in full and the same bytes in
memory are staged with the same transactions and the same result, where the
transactions are answered the same, just if there are bytes at all. The empty
file is refused as a wrong firmware, and the empty image is staged, with its
size and its CRC. -/
theorem staging_paths_agree_iff (b : Build) (fd : Int) (slaveId : UInt8) (path : String)
    (f f' : TempFile) (tr tr' : List SysEvent) (ret ret' : Int32)
    (hrun : Run (copyImageFromFileToFpga b f.fd fd slaveId) tr ret)
    (hfile : Follows (TempFile.step path) f tr f') (hoffset : f.offset = 0)
    (hgranted : ∀ ev ∈ tr, Granted ev)
    (hrun' : Run (copyImageFromMemToFpga b f.contents f.contents.length
      (crc32 f.contents (toInt32 f.contents.length)) fd slaveId) tr' ret')
    (halike : AnsweredAlike (· = ·) (· = ·) (transactions tr) (transactions tr')) :
    (transactions tr = transactions tr' ∧ ret = ret') ↔ f.contents ≠ [] := by
  cases staged_copyImageFromFileToFpga hrun hfile hoffset hgranted with
  | refused hsize hnone =>
      by_cases hempty : f.contents = []
      · rw [hempty] at hrun'
        refine iff_of_false ?_ (not_not.mpr hempty)
        rintro ⟨hsame, -⟩
        exact transactions_of_empty hrun' (hsame.symm.trans hnone)
      · have hmax := hsize.resolve_left hempty
        unfold copyImageFromMemToFpga at hrun'
        rw [if_pos hmax] at hrun'
        obtain ⟨rfl, rfl⟩ := run_ret.mp hrun'
        exact iff_of_true ⟨hnone, rfl⟩ hempty
  | sent hne hmax hcopy hsame =>
      rw [hsame] at halike
      obtain ⟨rfl, rfl⟩ := copyImageFromMemToFpga_same hcopy hrun' halike
      exact iff_of_true ⟨hsame, rfl⟩ hne

section Small

def fromMemory (x : List UInt8) : List SysEvent × Sys Int32 × ByteMem × TempFile :=
  play (workingReply defaultBuild) 20 (fun _ => 1, ⟨true, 4, x, x.length⟩)
    (copyImageFromMemToFpga defaultBuild x x.length (crc32 x (toInt32 x.length)) 3
      defaultBuild.fpgaI2cCntrlAddr)

def fromFile : List SysEvent :=
  ⟨.fstat 4, some 3⟩ :: ⟨.malloc 3, some (Vector.replicate 3 0)⟩
    :: ⟨.read 4 3, some ⟨smallImage, Nat.le_refl _⟩⟩ :: (fromMemory smallImage).1

theorem run_fromMemory_small : Run (copyImageFromMemToFpga defaultBuild smallImage smallImage.length
    (crc32 smallImage (toInt32 smallImage.length)) 3 defaultBuild.fpgaI2cCntrlAddr)
    (fromMemory smallImage).1 0 :=
  run_play rfl

theorem run_fromMemory_empty : Run (copyImageFromMemToFpga defaultBuild [] 0
    (crc32 [] (toInt32 0)) 3 defaultBuild.fpgaI2cCntrlAddr) (fromMemory []).1 0 :=
  run_play rfl

theorem run_fromFile : Run (copyImageFromFileToFpga defaultBuild 4 3 defaultBuild.fpgaI2cCntrlAddr)
    fromFile 0 :=
  run_perform_bind.mpr ⟨some 3, _, rfl, run_perform_bind.mpr ⟨some _, _, rfl,
    run_perform_bind.mpr ⟨some _, _, rfl, run_fromMemory_small⟩⟩⟩

theorem follows_fromFile : Follows (TempFile.step "") ⟨true, 4, smallImage, 0⟩ fromFile
    (fromMemory smallImage).2.2.2 := by
  obtain ⟨-, hfile, -⟩ := follows_workingReply (b := defaultBuild) ""
    (show fromMemory smallImage = _ from rfl)
  have hread : TempFile.step "" ⟨true, 4, smallImage, 0⟩
      ⟨.read 4 3, some ⟨smallImage, Nat.le_refl _⟩⟩ ⟨true, 4, smallImage, 3⟩ :=
    ⟨rfl, (by intro hnil; cases hnil), rfl⟩
  exact ⟨_, ⟨rfl, fun _ => rfl⟩, _, rfl, _, hread, hfile⟩

theorem granted_fromFile : ∀ ev ∈ fromFile, Granted ev := by
  have hbus := (only_staging.mono fun _ => IsStaging.isBus).run run_fromMemory_small
  intro ev hev
  rcases List.mem_cons.mp hev with rfl | hev
  · trivial
  rcases List.mem_cons.mp hev with rfl | hev
  · trivial
  rcases List.mem_cons.mp hev with rfl | hev
  · rfl
  exact IsBus.granted (hbus ev hev)

theorem staging_paths_agree_iff_small :
    (transactions fromFile = transactions (fromMemory smallImage).1 ∧ (0 : Int32) = 0)
      ↔ smallImage ≠ [] :=
  staging_paths_agree_iff defaultBuild 3 defaultBuild.fpgaI2cCntrlAddr ""
    ⟨true, 4, smallImage, 0⟩ (fromMemory smallImage).2.2.2 fromFile (fromMemory smallImage).1 0 0
    run_fromFile follows_fromFile rfl granted_fromFile run_fromMemory_small
    (answeredAlike_self (transactions (fromMemory smallImage).1))

/-- The empty image is refused from a file and staged from memory. -/
theorem empty_image_differs :
    ¬∀ (b : Build) (fd : Int) (slaveId : UInt8) (path : String) (f f' : TempFile)
      (tr tr' : List SysEvent) (ret ret' : Int32),
      Run (copyImageFromFileToFpga b f.fd fd slaveId) tr ret →
      Follows (TempFile.step path) f tr f' → f.offset = 0 → (∀ ev ∈ tr, Granted ev) →
      Run (copyImageFromMemToFpga b f.contents f.contents.length
        (crc32 f.contents (toInt32 f.contents.length)) fd slaveId) tr' ret' →
      AnsweredAlike (· = ·) (· = ·) (transactions tr) (transactions tr') →
      transactions tr = transactions tr' ∧ ret = ret' := by
  intro h
  have hrefused : Run (copyImageFromFileToFpga defaultBuild 4 3 defaultBuild.fpgaI2cCntrlAddr)
      [⟨.fstat 4, some 0⟩, ⟨.close 4, ()⟩] (-errorWrongFirmware) :=
    run_perform_bind.mpr ⟨some 0, _, rfl,
      run_perform_bind.mpr ⟨(), _, rfl, run_ret.mpr ⟨rfl, rfl⟩⟩⟩
  have hgranted : ∀ ev ∈ ([⟨.fstat 4, some 0⟩, ⟨.close 4, ()⟩] : List SysEvent), Granted ev := by
    intro ev hev
    rcases List.mem_cons.mp hev with rfl | hev
    · trivial
    · obtain rfl := List.mem_singleton.mp hev
      trivial
  have hret := (h defaultBuild 3 defaultBuild.fpgaI2cCntrlAddr "" ⟨true, 4, [], 0⟩
    ⟨true, 4, [], 0⟩ _ (fromMemory []).1 (-errorWrongFirmware) 0 hrefused
    ⟨_, ⟨rfl, fun _ => rfl⟩, _, rfl, rfl⟩ rfl hgranted run_fromMemory_empty trivial).2
  exact absurd hret (by decide)

end Small

end Retimer
