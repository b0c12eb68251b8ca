import Retimer.Hidden
import Retimer.Isolation
import Retimer.Packaging

/-!
# What an update comes to

Leaving out the messages and the closing of descriptors, an update run
is one `flash` after the other, each of an image to a set of retimers,
and its return code is the one of the last flash that failed
(`shows_iff`). A flash knows nothing of files, operations or versions.

A composite file is then worth as much as its images are one by one:
what a run on it shows is what the runs of the tool on the bare images
show, one behind the other.

The comparison is by equations between programs whose `quiet` requests
are hidden: `hide_performUpdate` turns the body of the loop into a
flash, given that the image of the operation is all there (`Flashable`)
and that the variables of the loop have the code so far (`Carries`), and
`hide_updateLoop` is the induction. On the way the version disappears
(`hide_checkStatusWord`), the bitmap that outlives an operation does
(`hide_updateAttempts`), and of the file the copy sees only the image
(`copyOperation_eq`). `run_hide` makes runs of the equations again:
`shows_iff` for an accepted file, and `shows_bare_iff` for a bare image,
which is its own flash.

`run_flashAll` cuts a list of flashes into runs of single ones, with the
code of the last failure (`lastFailure`).
-/

namespace Retimer

open Interaction

/-- What an update asks for that is no part of the flashing. -/
def quiet : (c : Call) → Option (Answer c)
  | .emitLogMessage _ | .performing _ | .close _ => some ()
  | _ => none

/-- The image `x` goes to the retimers of `targets`: the code. -/
def flash (b : Build) (fd : Int) (x : List UInt8) (targets : UInt8) : Sys Int32 := do
  if targets = 0 then
    return 0
  let ret ← copyImageFromMemToFpga b x x.length (crc32 x (toInt32 x.length)) fd b.fpgaI2cCntrlAddr
  if ret ≠ 0 then
    return ret
  let res ← startRetimerFwUpdate b fd targets [] 0
  return res.1

def flashAll (b : Build) (fd : Int) : List (List UInt8 × UInt8) → Int32 → Sys Int32
  | [], ret => return ret
  | (x, targets) :: images, ret => do
      let ret' ← flash b fd x targets
      flashAll b fd images (if ret' ≠ 0 then ret' else ret)

def imageOf (file : List UInt8) (op : UpdateOperation) : List UInt8 × UInt8 :=
  (slice file op.startOffset op.imageLength, op.applyBitmap.toUInt8)

/-! ## What is hidden -/

open Interaction.Prog

section Quiet

variable {α β : Type} {b : Build} {fd : Int}

theorem quiet_subsingleton (c : Call) (h : (quiet c).isSome) : Subsingleton (Answer c) := by
  cases c with
  | emitLogMessage m => exact inferInstanceAs (Subsingleton Unit)
  | performing uo => exact inferInstanceAs (Subsingleton Unit)
  | close fd => exact inferInstanceAs (Subsingleton Unit)
  | _ => cases h

theorem IsMessage.quiet {c : Call} (h : IsMessage c) : (quiet c).isSome := by
  cases c with
  | emitLogMessage m => rfl
  | _ => exact h.elim

theorem IsClose.quiet {c : Call} (h : IsClose c) : (quiet c).isSome := by
  cases c with
  | close fd => rfl
  | _ => exact h.elim

theorem hide_messages {p : Sys Unit} (hp : Only IsMessage p) (g : Unit → Sys β) :
    hide quiet (p >>= g) = hide quiet (g ()) := by
  rw [hide_bind, hide_of_hidden (hp.mono fun _ => IsMessage.quiet), ret_bind]

theorem hide_filterTargets {retimerToUpdate : UInt8} {ops : List UpdateOperation}
    (g : List UpdateOperation → Sys β) :
    hide quiet (filterTargets retimerToUpdate ops >>= g)
      = hide quiet (g (ops.map (·.targeted retimerToUpdate))) := by
  induction ops generalizing g with
  | nil => rfl
  | cons op ops ih =>
      rw [filterTargets, bind_assoc, hide_messages only_prepareMessageRegistry, bind_assoc, ih]
      rfl

/-- The version is in messages only. -/
theorem hide_checkStatusByte {check : UInt8 → UInt8 → Sys (Int32 × UInt8)} {message : String}
    {status retry : UInt8} (v v' : List UInt8) :
    hide quiet (checkStatusByte check message v status retry)
      = hide quiet (checkStatusByte check message v' status retry) := by
  unfold checkStatusByte
  split
  · rfl
  · refine hide_congr fun res => ?_
    obtain ⟨ret, retry⟩ := res
    rw [hide_messages only_prepareMessageRegistry, hide_messages only_prepareMessageRegistry]

theorem hide_checkStatusWord {word : Vector UInt8 4} (v v' : List UInt8) :
    hide quiet (checkStatusWord v word) = hide quiet (checkStatusWord v' word) := by
  unfold checkStatusWord
  rw [hide_bind, hide_checkStatusByte v v', ← hide_bind]
  refine hide_congr fun res => ?_
  obtain ⟨ret, retry⟩ := res
  dsimp only
  rw [hide_bind, hide_checkStatusByte v v', ← hide_bind]
  refine hide_congr fun res => ?_
  obtain ⟨ret, retry⟩ := res
  dsimp only
  rw [hide_bind, hide_checkStatusByte v v', ← hide_bind]

/-- Of an update only the code has an effect on what follows in silence. -/
theorem hide_updateAttempts {v v' : List UInt8} {attempts : Nat} {targets nu nu' : UInt8}
    {ret : Int32} {g g' : Int32 × UInt8 → Sys β}
    (hg : ∀ ret nu nu', hide quiet (g (ret, nu)) = hide quiet (g' (ret, nu'))) :
    hide quiet (updateAttempts b fd v attempts targets ret nu >>= g)
      = hide quiet (updateAttempts b fd v' attempts targets ret nu' >>= g') := by
  induction attempts generalizing targets ret nu nu' with
  | zero => exact hg ret nu nu'
  | succ attempts ih =>
      rw [updateAttempts, updateAttempts, bind_assoc, bind_assoc]
      refine hide_congr fun ret => ?_
      split
      · exact hg ret nu nu'
      · rw [bind_assoc, bind_assoc]
        refine hide_congr fun res => ?_
        obtain ⟨ret, word⟩ := res
        dsimp only
        split
        · exact hg ret nu nu'
        · split
          · exact hg ret nu nu'
          · rw [bind_assoc, bind_assoc, hide_bind, hide_checkStatusWord v v', ← hide_bind]
            refine hide_congr fun res => ?_
            obtain ⟨ret, retry⟩ := res
            dsimp only
            rw [bind_assoc, bind_assoc]
            refine hide_congr fun extended => ?_
            split
            · exact hg _ nu nu'
            · exact ih

end Quiet

/-! ## The update loop -/

/-- An operation whose image is all there, with the CRC of that image and no
target beyond the eight retimers, as the parser leaves them. -/
structure Flashable (file : List UInt8) (op : UpdateOperation) : Prop where
  inside : op.startOffset + op.imageLength ≤ file.length
  crc : op.imageCrc = crc32 (slice file op.startOffset op.imageLength) (toInt32 op.imageLength)
  bitmap : op.applyBitmap = op.applyBitmap.toUInt8.toUInt32

/-- `ret` is the code of the last operation that failed, and what the loop has
in its variables comes to that. -/
structure Carries (st : LoopState) (ret : Int32) : Prop where
  firstErr : st.updateFirstErrRet = ret
  failed : st.ret ≠ 0 → st.ret = ret

theorem Carries.loopRet {st : LoopState} {ret : Int32} (h : Carries st ret) : loopRet st = ret := by
  unfold Retimer.loopRet
  rw [h.firstErr]
  by_cases hret : st.ret = 0
  · by_cases hzero : ret = 0
    · rw [if_neg fun hc => hc.2 hzero, hret, hzero]
    · rw [if_pos ⟨hret, hzero⟩]
  · rw [if_neg fun hc => hret hc.1, h.failed hret]

section Loop

variable {β : Type} {b : Build} {fd : Int} {file : List UInt8} {op : UpdateOperation}

/-- The copy sees of the memory what belongs to the image. -/
theorem copyPages_take {x : List UInt8} {fwSize pageCount count i : Nat} {slaveId : UInt8}
    (hcount : pageCount = fwSize / bytePerPage) (hi : i + count ≤ pageCount + 1) :
    copyPages b x fwSize pageCount fd slaveId count i
      = copyPages b (x.take fwSize) fwSize pageCount fd slaveId count i := by
  induction count generalizing i with
  | zero => rfl
  | succ count ih =>
      have hpages : pageCount * bytePerPage ≤ fwSize := by
        rw [hcount]
        exact Nat.div_mul_le_self fwSize bytePerPage
      have hslice : slice x (i * bytePerPage)
            (if i < pageCount then bytePerPage else fwSize - pageCount * bytePerPage)
          = slice (x.take fwSize) (i * bytePerPage)
            (if i < pageCount then bytePerPage else fwSize - pageCount * bytePerPage) := by
        have htake : x.take fwSize = slice x 0 fwSize := rfl
        rw [htake, slice_slice, Nat.zero_add]
        split
        · next hlt =>
            have hle : (i + 1) * bytePerPage ≤ pageCount * bytePerPage :=
              Nat.mul_le_mul_right bytePerPage hlt
            rw [Nat.succ_mul] at hle
            omega
        · next hge =>
            obtain rfl : i = pageCount := by omega
            omega
      rw [copyPages, copyPages, hslice, ih (by omega)]

theorem copyImageFromMemToFpga_take {x : List UInt8} {fwSize : Nat} {crc : UInt32}
    {slaveId : UInt8} : copyImageFromMemToFpga b x fwSize crc fd slaveId
      = copyImageFromMemToFpga b (x.take fwSize) fwSize crc fd slaveId := by
  have hpages : copyPages b x fwSize (fwSize / bytePerPage) fd slaveId (fwSize / bytePerPage + 1) 0
      = copyPages b (x.take fwSize) fwSize (fwSize / bytePerPage) fd slaveId
        (fwSize / bytePerPage + 1) 0 :=
    copyPages_take rfl (by omega)
  unfold copyImageFromMemToFpga
  dsimp only
  rw [hpages]

theorem copyOperation_eq (h : Flashable file op) :
    copyOperation b fd file op = copyImageFromMemToFpga b (imageOf file op).1
      (imageOf file op).1.length (crc32 (imageOf file op).1 (toInt32 (imageOf file op).1.length)) fd
      b.fpgaI2cCntrlAddr := by
  have hlen : (slice file op.startOffset op.imageLength).length = op.imageLength :=
    length_slice h.inside
  rw [copyOperation, imageOf, hlen, ← h.crc, copyImageFromMemToFpga_take]
  rfl

/-- The body of the loop, followed by something that needs only the code, shows
what `flash` shows. The operation comes in as its image and its targets, so
nothing is left of the file it was parsed from. -/
theorem hide_performUpdate {st : LoopState} {ret : Int32} {g : LoopState → Sys β}
    {g' : Int32 → Sys β} (h : Flashable file op) (hst : Carries st ret)
    (hg : ∀ st ret, Carries st ret → hide quiet (g st) = hide quiet (g' ret)) :
    hide quiet (performUpdate b fd file op st >>= g)
      = hide quiet (flash b fd (imageOf file op).1 (imageOf file op).2
        >>= fun ret' => g' (if ret' ≠ 0 then ret' else ret)) := by
  have htargets : (imageOf file op).2 = 0 ↔ op.applyBitmap = 0 := by
    constructor
    · intro hzero
      rw [h.bitmap, show op.applyBitmap.toUInt8 = 0 from hzero]
      rfl
    · intro hzero
      rw [imageOf, hzero]
      rfl
  unfold performUpdate flash
  by_cases hbitmap : op.applyBitmap = 0
  · rw [if_pos hbitmap, if_pos (htargets.mpr hbitmap)]
    exact hg st ret hst
  · rw [if_neg hbitmap, if_neg (htargets.not.mpr hbitmap), bind_assoc,
      hide_messages only_prepareMessageRegistry, ← copyOperation, copyOperation_eq h, bind_assoc,
      bind_assoc]
    refine hide_congr fun copied => ?_
    by_cases hcopied : copied ≠ 0
    · rw [if_pos hcopied, if_pos hcopied, bind_assoc, hide_messages only_prepareMessageRegistry]
      refine (hg _ copied ⟨rfl, fun _ => rfl⟩).trans ?_
      rw [pure_eq, ret_bind, if_pos hcopied]
    · rw [if_neg hcopied, if_neg hcopied, bind_assoc, bind_assoc]
      refine hide_updateAttempts fun started nu nu' => ?_
      dsimp only
      by_cases hstarted : started ≠ 0
      · rw [if_pos hstarted, bind_assoc, hide_messages]
        · refine (hg _ started ⟨rfl, fun _ => rfl⟩).trans ?_
          rw [pure_eq, ret_bind, if_pos hstarted]
        · exact only_reportApplyFailed
      · obtain rfl := not_not.mp hstarted
        rw [if_neg hstarted, bind_assoc, hide_messages only_reportUpdateSuccessful]
        have hstill : Carries ⟨0, st.updateFirstErrRet, nu⟩ ret :=
          ⟨hst.firstErr, fun hne => absurd rfl hne⟩
        refine (hg _ ret hstill).trans ?_
        rw [pure_eq, ret_bind, if_neg hstarted]

theorem hide_updateLoop {ops : List UpdateOperation} {uo : Nat} {st : LoopState} {ret : Int32}
    (h : ∀ op ∈ ops, Flashable file op) (hst : Carries st ret) :
    hide quiet (updateLoop b fd file uo ops st >>= fun st => Prog.ret (loopRet st))
      = hide quiet (flashAll b fd (ops.map (imageOf file)) ret) := by
  induction ops generalizing uo st ret with
  | nil =>
      show hide quiet (Prog.ret (loopRet st)) = _
      rw [hst.loopRet]
      rfl
  | cons op ops ih =>
      obtain ⟨hop, hops⟩ := List.forall_mem_cons.mp h
      have hperforming : hide quiet (Sys.request (.performing uo)) = .ret () :=
        hide_ask_some (show quiet (.performing uo) = some () from rfl)
      rw [updateLoop, List.map_cons, flashAll, bind_assoc, hide_bind, hperforming, ret_bind,
        bind_assoc]
      exact hide_performUpdate hop hst fun st ret hst => ih hops hst

end Loop

/-! ## `main` -/

/-- What is flashed for the operations, as far as the retimers are asked for. -/
def flashesOf (file : List UInt8) (retimerToUpdate : UInt8) (ops : List UpdateOperation) :
    List (List UInt8 × UInt8) :=
  ops.map fun op => imageOf file (op.targeted retimerToUpdate)

/-- What a run shows behind the opening and mapping of its file, and what it
returns. -/
def Shows (b : Build) (fuel : Nat) (argv : List (List UInt8)) (args : Arguments) (fd : Int)
    (file : List UInt8) (t : List SysEvent) (ret : Int32) : Prop :=
  ∃ imagefd tr, ¬imagefd < 0
    ∧ Run (main b fuel argv) (openedWith args fd imagefd file.length ⟨file.toArray, rfl⟩ true ++ tr)
      (some ret)
    ∧ observed quiet tr = t

section Main

variable {b : Build} {fuel : Nat} {argv : List (List UInt8)} {args : Arguments} {fd imagefd : Int}
  {file versionStr : List UInt8} {retimerToUpdate : UInt8} {ops : List UpdateOperation}
  {t tr : List SysEvent} {ret : Int32}

theorem run_main_openedWith {fwSize : Nat} {image : Vector UInt8 fwSize} {res : Option Int32}
    (hargs : checkArguments b fuel argv = some (.ok args))
    (hcommand : args.command = retimerFwUpdate) (hfd : ¬fd < 0) (himagefd : ¬imagefd < 0) :
    Run (main b fuel argv) (openedWith args fd imagefd fwSize image true ++ tr) res
      ↔ Run (updateImage b fd image.toList fwSize args.versionStr args.retimerBitmap
        >>= fun ret => closeUnless fd >>= fun _ => Prog.ret (some ret)) (⟨.calloc, true⟩ :: tr)
        res := by
  unfold main
  rw [hargs]
  dsimp only
  rw [openedWith, List.cons_append, Sys.openFile, run_perform_cons, if_neg hfd, runCommand,
    if_pos hcommand, updateCommand, mapEvents, List.cons_append, bind_assoc, bind_assoc,
    Sys.openFile, run_perform_cons, if_neg himagefd, List.cons_append, bind_assoc, Sys.fstat,
    run_perform_cons]
  dsimp only
  rw [bind_assoc, List.cons_append, run_perform_cons]
  dsimp only
  rw [bind_assoc, List.cons_append, Sys.close, run_perform_cons, bind_assoc]
  rfl

theorem flashable_targeted {res : Option (List UpdateOperation)}
    (hparsed : Parsed b file file.length versionStr res) (hsize : file.length < 2 ^ 31)
    (retimerToUpdate : UInt8) :
    ∀ op ∈ (res.getD []).map (·.targeted retimerToUpdate), Flashable file op := by
  have hsound := hparsed.sound b hsize
  refine List.forall_mem_map.mpr fun op hop => ⟨hsound.inside op hop, hsound.crc op hop, ?_⟩
  exact (bitmap_toUInt8 op.applyBitmap retimerToUpdate).symm

theorem hide_updateOperations (h : ∀ op ∈ ops.map (·.targeted retimerToUpdate), Flashable file op) :
    hide quiet (updateOperations b fd file retimerToUpdate ops)
      = hide quiet (flashAll b fd (flashesOf file retimerToUpdate ops) 0) := by
  have hinitial : Carries initialLoopState 0 := ⟨rfl, fun hne => absurd rfl hne⟩
  have himages : (ops.map (·.targeted retimerToUpdate)).map (imageOf file)
      = flashesOf file retimerToUpdate ops := by
    rw [List.map_map]
    rfl
  rw [updateOperations, hide_filterTargets, ← himages]
  exact hide_updateLoop h hinitial

theorem run_updateImage_accepted {α : Type} {g : Int32 → Sys α} {res : α}
    (hsize : file.length < 2 ^ 31)
    (hret : (parseCompositeImage b file file.length versionStr true).ret = 0) :
    Run (updateImage b fd file file.length versionStr retimerToUpdate >>= g)
        (⟨.calloc, true⟩ :: tr) res
      ↔ Run (parseMessage (parseCompositeImage b file file.length versionStr true).message
        >>= fun _ => updateOperations b fd file retimerToUpdate
          ((parseCompositeImage b file file.length versionStr true).updateOps.getD []) >>= g) tr
        res := by
  obtain ⟨-, hcount⟩ := parse_accepts b hsize hret
  rw [updateImage, bind_assoc, run_perform_cons, bind_assoc, if_neg (not_not.mpr hret)]
  cases hops : (parseCompositeImage b file file.length versionStr true).updateOps with
  | none =>
      rw [hops] at hcount
      have hnone :
          ¬(parseCompositeImage b file file.length versionStr true).updateOpsCount > 0 := by
        rw [hcount]
        exact Nat.lt_irrefl 0
      dsimp only
      rw [if_neg hnone]
      rfl
  | some ops => rfl

/-- An update of an accepted file is its flashes: what it shows of the bus is
what `flashAll` shows, for the images and targets that the parser gives. -/
theorem shows_iff (hargs : checkArguments b fuel argv = some (.ok args))
    (hcommand : args.command = retimerFwUpdate) (hfd : ¬fd < 0) (hsize : file.length < 2 ^ 31)
    (hret : (parseCompositeImage b file file.length args.versionStr true).ret = 0) :
    Shows b fuel argv args fd file t ret
      ↔ Run (hide quiet (flashAll b fd (flashesOf file args.retimerBitmap
        ((parseCompositeImage b file file.length args.versionStr true).updateOps.getD [])) 0)) t
        ret := by
  obtain ⟨hparsed, -⟩ := parse_accepts b hsize hret
  have hflashable := flashable_targeted hparsed hsize args.retimerBitmap
  have hclose : ∀ ret : Int32, hide quiet (closeUnless fd >>= fun _ => Prog.ret (some ret))
      = .ret (some ret) := by
    intro ret
    rw [hide_bind, hide_of_hidden ((closes_closeUnless).mono fun _ => IsClose.quiet)]
    rfl
  have hrun : ∀ {imagefd : Int} {tr : List SysEvent}, ¬imagefd < 0 →
      (Run (main b fuel argv)
        (openedWith args fd imagefd file.length ⟨file.toArray, rfl⟩ true ++ tr) (some ret)
      ↔ Run (parseMessage (parseCompositeImage b file file.length args.versionStr true).message
        >>= fun _ => updateOperations b fd file args.retimerBitmap
          ((parseCompositeImage b file file.length args.versionStr true).updateOps.getD [])
        >>= fun ret => closeUnless fd >>= fun _ => Prog.ret (some ret)) tr (some ret)) := by
    intro imagefd tr himagefd
    rw [run_main_openedWith hargs hcommand hfd himagefd]
    exact run_updateImage_accepted hsize hret
  have hhide : hide quiet (parseMessage
        (parseCompositeImage b file file.length args.versionStr true).message
        >>= fun _ => updateOperations b fd file args.retimerBitmap
          ((parseCompositeImage b file file.length args.versionStr true).updateOps.getD [])
        >>= fun ret => closeUnless fd >>= fun _ => Prog.ret (some ret))
      = hide quiet (flashAll b fd (flashesOf file args.retimerBitmap
        ((parseCompositeImage b file file.length args.versionStr true).updateOps.getD [])) 0)
        >>= fun ret => .ret (some ret) := by
    rw [hide_messages only_parseMessage, hide_bind, hide_updateOperations hflashable]
    simp only [hclose]
  rw [Shows]
  constructor
  · rintro ⟨imagefd, tr, himagefd, h, rfl⟩
    have hshown := (run_hide quiet_subsingleton).mpr ⟨tr, (hrun himagefd).mp h, rfl⟩
    rw [hhide] at hshown
    obtain ⟨t, ret', t', heq, hflash, hret'⟩ := run_bind.mp hshown
    obtain ⟨rfl, hsome⟩ := run_ret.mp hret'
    rw [heq, List.append_nil, Option.some.inj hsome]
    exact hflash
  · intro h
    have hshown : Run (hide quiet (flashAll b fd (flashesOf file args.retimerBitmap
        ((parseCompositeImage b file file.length args.versionStr true).updateOps.getD [])) 0)
        >>= fun ret => Prog.ret (some ret)) t (some ret) :=
      run_bind.mpr ⟨t, ret, [], (List.append_nil t).symm, h, run_ret.mpr ⟨rfl, rfl⟩⟩
    rw [← hhide] at hshown
    obtain ⟨tr, hfull, hobs⟩ := (run_hide quiet_subsingleton).mp hshown
    exact ⟨0, tr, Int.lt_irrefl 0, (hrun (Int.lt_irrefl 0)).mpr hfull, hobs⟩

/-! ## One image at a time -/

/-- The code of the last failure, where `ret` is the one from before. -/
def lastFailure (ret : Int32) (codes : List Int32) : Int32 :=
  codes.foldl (fun ret code => if code ≠ 0 then code else ret) ret

theorem forall₂_congr_mem {α β : Type} {P Q : α → β → Prop} {l : List α} {l' : List β}
    (h : ∀ a ∈ l, ∀ b, P a b ↔ Q a b) : List.Forall₂ P l l' ↔ List.Forall₂ Q l l' := by
  induction l generalizing l' with
  | nil => rw [List.forall₂_nil_left_iff, List.forall₂_nil_left_iff]
  | cons a l ih =>
      obtain ⟨ha, hl⟩ := List.forall_mem_cons.mp h
      rw [List.forall₂_cons_left_iff, List.forall₂_cons_left_iff]
      simp only [ha, ih hl]

theorem run_flashAll {images : List (List UInt8 × UInt8)} {ret₀ : Int32} :
    Run (hide quiet (flashAll b fd images ret₀)) t ret
      ↔ ∃ rs : List (List SysEvent × Int32),
        List.Forall₂ (fun im r => Run (hide quiet (flash b fd im.1 im.2)) r.1 r.2) images rs
          ∧ t = (rs.map Prod.fst).flatten ∧ ret = lastFailure ret₀ (rs.map Prod.snd) := by
  induction images generalizing t ret₀ with
  | nil =>
      rw [flashAll, pure_eq, hide_ret, run_ret]
      constructor
      · rintro ⟨rfl, rfl⟩
        exact ⟨[], .nil, rfl, rfl⟩
      · rintro ⟨rs, hall, rfl, rfl⟩
        cases hall
        exact ⟨rfl, rfl⟩
  | cons im images ih =>
      obtain ⟨x, targets⟩ := im
      rw [flashAll, hide_bind, run_bind]
      constructor
      · rintro ⟨t₁, code, t₂, rfl, hflash, hrest⟩
        obtain ⟨rs, hall, rfl, rfl⟩ := ih.mp hrest
        exact ⟨(t₁, code) :: rs, .cons hflash hall, rfl, rfl⟩
      · rintro ⟨rs, hall, rfl, rfl⟩
        cases hall with
        | @cons _ r _ rs hflash hall =>
            exact ⟨r.1, r.2, _, rfl, hflash, ih.mpr ⟨rs, hall, rfl, rfl⟩⟩

/-- A run on a bare image is its flash. -/
theorem shows_bare_iff {x : List UInt8} (hargs : checkArguments b fuel argv = some (.ok args))
    (hcommand : args.command = retimerFwUpdate) (hfd : ¬fd < 0) (hsize : x.length < 2 ^ 31)
    (hbare : ¬IsComposite x x.length) :
    Shows b fuel argv args fd x t ret
      ↔ Run (hide quiet (flash b fd x args.retimerBitmap)) t ret := by
  obtain ⟨hret, hops⟩ := parse_of_parsed b hsize (.bare hbare)
  have himage : flashesOf x args.retimerBitmap
      ((parseCompositeImage b x x.length args.versionStr true).updateOps.getD [])
      = [(x, args.retimerBitmap)] := by
    have hall : (retimerAll &&& args.retimerBitmap.toUInt32).toUInt8 = args.retimerBitmap := by
      rw [UInt32.toUInt8_and, UInt8.toUInt8_toUInt32]
      exact UInt8.neg_one_and
    rw [hops]
    show [(slice x 0 x.length, (retimerAll &&& args.retimerBitmap.toUInt32).toUInt8)] = _
    rw [slice_zero_length, hall]
  rw [shows_iff hargs hcommand hfd hsize hret, himage, run_flashAll]
  constructor
  · rintro ⟨rs, hall, rfl, rfl⟩
    cases hall with
    | @cons _ r _ rs hflash hall =>
        cases hall
        rw [List.map_singleton, List.map_singleton, List.flatten_singleton]
        by_cases hcode : r.2 = 0
        · rw [hcode] at hflash
          rwa [hcode]
        · rwa [lastFailure, List.foldl_cons, List.foldl_nil, if_pos hcode]
  · intro h
    refine ⟨[(t, ret)], .cons h .nil, (List.append_nil t).symm, ?_⟩
    show ret = if ret ≠ 0 then ret else 0
    split
    · rfl
    · next hzero => exact not_not.mp hzero

end Main

section Small

end Small

end Retimer
