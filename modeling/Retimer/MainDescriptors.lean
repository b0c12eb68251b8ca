import Retimer.Descriptors
import Retimer.Footprint
import Retimer.BlankReads

/-!
# The descriptors of the update tool

`main` opens the bus, then the file of its command, and an update that
went wrong opens the bus of the extended errors as well, once for each
attempt. The kernel may give out a number again that was closed, so that
what is demanded is about the descriptors that are open at the time
(`Tidy`): a call works on one of them, and in the end they are the ones
from the start. An update always meets this. A read hands its file to
the same two functions as the hash service does, and fails to meet it
for the same reason.

For an update the demand is a weakest precondition (`Tidies`): a program
keeps to the open descriptors and leaves them as they were.
`tidies_of_only` is the rule for all that opens nothing, `wp_open` and
`wp_close` those for the rest, and there is a lemma `tidies_f` for each
function `f`, up to `tidies_main`. The command returns the file that it
has left open, and `Leaves` connects it with what is open; `wp_closing`
is the end of `main`.

A read can go wrong, so its runs are listed (`ReadFileRun`, by what they
leave open) and judged one by one (`ReadLeaves`): tidy, or the file
closed by a copy and closed again, in the command or by `main`. The
condition is the `CopyFailure` of the hash service, and
`copyFailure_around` has what `main` does around its command say nothing
of it.
-/

namespace Retimer

open Interaction Interaction.Prog

/-! ## Open descriptors -/

/-- The call works on an open descriptor, if on one at all. -/
def OnOpen (fds : List Int) (ev : SysEvent) : Prop :=
  ∀ fd, ev.1.descriptor = some fd → 0 ≤ fd → fd ∈ fds

/-- The kernel, for a program that works on open descriptors. -/
def openDescriptors : Env Call Answer (List Int) := fun fds ev fds' =>
  OnOpen fds ev ∧ descriptors fds ev fds'

/-- Every call works on an open descriptor, and those that are open in the end are
the ones from the start. -/
def Tidy (fds : List Int) (tr : List SysEvent) : Prop := Follows openDescriptors fds tr fds

/-- Opens and closes nothing, and works on these descriptors only. -/
def UsesOnly (fds : List Int) (c : Call) : Prop :=
  KeepsOpen c ∧ ∀ fd, c.descriptor = some fd → fd ∈ fds

/-- From here on the program is tidy. -/
def Tidies {α : Type} (fds : List Int) (p : Sys α) : Prop :=
  wp descriptors OnOpen p (fun _ fds' => fds' = fds) fds

section Descriptors

variable {α β : Type} {c : Call} {a : Answer c} {fds fds' : List Int} {fd : Int}
  {tr : List SysEvent} {p : Sys α}

theorem descriptors_of_keeps (hc : KeepsOpen c) (h : descriptors fds ⟨c, a⟩ fds') : fds' = fds := by
  cases c with
  | openFile path flags => exact hc.elim
  | close fd => exact hc.elim
  | _ => exact h

theorem onOpen_of_none {ev : SysEvent} (h : ev.1.descriptor = none) : OnOpen fds ev := by
  intro fd hfd
  rw [h] at hfd
  cases hfd

theorem usesOnly_of_none (hc : KeepsOpen c) (h : c.descriptor = none) : UsesOnly fds c := by
  refine ⟨hc, fun fd hfd => ?_⟩
  rw [h] at hfd
  cases hfd

theorem follows_of_open (h : Follows openDescriptors fds tr fds') :
    Follows descriptors fds tr fds' :=
  h.map (π := id) fun _ _ _ h => h.2

theorem follows_descriptors_of_keeps (htr : ∀ ev ∈ tr, KeepsOpen ev.1)
    (h : Follows descriptors fds tr fds') : fds' = fds := by
  refine Follows.invariant (I := (· = fds)) ?_ h htr rfl
  rintro s ⟨c, a⟩ s' rfl hc hstep
  exact descriptors_of_keeps hc hstep

theorem tidy_of_uses (htr : ∀ ev ∈ tr, UsesOnly fds ev.1) (h : Follows descriptors fds tr fds') :
    Tidy fds tr := by
  induction tr with
  | nil => rfl
  | cons ev tr ih =>
      obtain ⟨hev, hrest⟩ := List.forall_mem_cons.mp htr
      obtain ⟨m, hstep, hfollows⟩ := h
      obtain rfl := descriptors_of_keeps hev.1 hstep
      exact ⟨m, ⟨fun fd hfd _ => hev.2 fd hfd, hstep⟩, ih hrest hfollows⟩

/-! ### Programs -/

theorem tidies_ret {a : α} : Tidies fds (.ret a : Sys α) := rfl

theorem Tidies.wp_bind {f : α → Sys β} {Q : β → List Int → Prop} (hp : Tidies fds p)
    (hf : ∀ a, wp descriptors OnOpen (f a) Q fds) : wp descriptors OnOpen (p >>= f) Q fds := by
  rw [Prog.wp_bind]
  refine wp_mono hp (fun _ _ h => h) fun a fds' hfds => ?_
  rw [hfds]
  exact hf a

theorem Tidies.bind {f : α → Sys β} (hp : Tidies fds p) (hf : ∀ a, Tidies fds (f a)) :
    Tidies fds (p >>= f) :=
  hp.wp_bind hf

theorem Tidies.ite {P : Prop} [Decidable P] {q : Sys α} (hp : Tidies fds p) (hq : Tidies fds q) :
    Tidies fds (if P then p else q) := by
  split
  · exact hp
  · exact hq

theorem tidies_of_only (h : Only (UsesOnly fds) p) : Tidies fds p := by
  refine wp_of_only h ?_ rfl
  rintro s e r s' huses rfl hstep
  exact ⟨fun fd hfd _ => huses.2 fd hfd, descriptors_of_keeps huses.1 hstep⟩

theorem wp_open {path : String} {flags : OpenFlags} {f : Int → Sys β} {Q : β → List Int → Prop}
    (hfailed : ∀ fd < 0, wp descriptors OnOpen (f fd) Q fds)
    (hopened : ∀ fd, 0 ≤ fd → fd ∉ fds → wp descriptors OnOpen (f fd) Q (fd :: fds)) :
    wp descriptors OnOpen (Sys.openFile path flags >>= f) Q fds := by
  intro fd fds' hstep
  refine ⟨onOpen_of_none rfl, ?_⟩
  simp only [descriptors] at hstep
  split at hstep
  · next hfd =>
      obtain rfl := hstep
      exact hfailed fd hfd
  · next hfd =>
      obtain ⟨hnew, rfl⟩ := hstep
      exact hopened fd (Int.not_lt.mp hfd) hnew

theorem filter_opened (hnew : fd ∉ fds) : (fd :: fds).filter (· ≠ fd) = fds := by
  have hfds : ∀ x ∈ fds, decide (x ≠ fd) = true := by
    intro x hx
    exact decide_eq_true (ne_of_mem_of_not_mem hx hnew)
  rw [List.filter_cons_of_neg (by simp)]
  exact List.filter_eq_self.mpr hfds

theorem wp_close {p : Sys α} {Q : α → List Int → Prop} (hnew : fd ∉ fds)
    (hp : wp descriptors OnOpen p Q fds) :
    wp descriptors OnOpen (Sys.close fd >>= fun _ => p) Q (fd :: fds) := by
  intro _ fds' hstep
  constructor
  · intro x hx _
    obtain rfl := Option.some.inj hx
    exact List.mem_cons_self
  · have hfds : fds' = fds := by
      rw [← filter_opened hnew]
      exact hstep
    rw [hfds]
    exact hp

end Descriptors

/-! ## The update command -/

section Update

variable {b : Build} {fd : Int} {fds : List Int}

theorem minus_one_lt_zero : (-1 : Int) < 0 := by decide

theorem usesOnly_of_message {c : Call} (h : IsMessage c) : UsesOnly fds c := by
  cases c with
  | emitLogMessage m => exact usesOnly_of_none trivial rfl
  | _ => exact h.elim

theorem usesOnly_of_generic {c : Call} (h : IsGeneric c) : UsesOnly fds c :=
  usesOnly_of_message h.isMessage

theorem usesOnly_write {slaveId : UInt8} {writeData : List UInt8} (hfd : fd ∈ fds) :
    UsesOnly fds (.i2cWrite fd slaveId writeData) :=
  ⟨trivial, fun _ hx => Option.some.inj hx ▸ hfd⟩

theorem usesOnly_read {slaveId : UInt8} {writeData : List UInt8} {n : Nat} (hfd : fd ∈ fds) :
    UsesOnly fds (.i2cRead fd slaveId writeData n) :=
  ⟨trivial, fun _ hx => Option.some.inj hx ▸ hfd⟩

theorem usesOnly_of_confined {c : Call} (hfd : fd ∈ fds)
    (h : IsBus c ∧ Confined b fd (fun _ => True) (fun _ => False) c) : UsesOnly fds c := by
  obtain ⟨hbus, hconfined⟩ := h
  cases c with
  | i2cWrite fd' slaveId writeData =>
      obtain ⟨rfl, -⟩ := hconfined
      exact usesOnly_write hfd
  | i2cRead fd' slaveId writeData n =>
      rcases hconfined with ⟨rfl, -⟩ | hnone
      · exact usesOnly_read hfd
      · exact hnone.elim
  | emitLogMessage m => exact usesOnly_of_message trivial
  | _ => exact hbus.elim

theorem usesOnly_copyImageFromMemToFpga {fwAddr : List UInt8} {fwSize : Nat} {fwCrc32 : UInt32}
    (hfd : fd ∈ fds) : Only (UsesOnly fds)
      (copyImageFromMemToFpga b fwAddr fwSize fwCrc32 fd b.fpgaI2cCntrlAddr) :=
  ((only_staging.mono fun _ => IsStaging.isBus).and confined_copyImageFromMemToFpga).mono
    fun _ => usesOnly_of_confined hfd

theorem tidies_messages {α : Type} {p : Sys α} (h : Only IsMessage p) : Tidies fds p :=
  tidies_of_only (h.mono fun _ => usesOnly_of_message)

theorem tidies_checkExtenedErrorReg : Tidies fds (checkExtenedErrorReg b) := by
  refine wp_open (fun exfd hexfd => ?_) fun exfd hexfd hnew => ?_
  · rw [if_pos hexfd]
    exact tidies_ret
  · rw [if_neg (Int.not_lt.mpr hexfd)]
    refine (tidies_of_only (only_sendI2cCmdRead (fun _ => usesOnly_of_generic)
      (usesOnly_read List.mem_cons_self))).wp_bind ?_
    rintro ⟨ret, readBuffer⟩
    dsimp only
    split
    · exact wp_close hnew tidies_ret
    · refine (tidies_messages (only_extendedErrorLoop.mono fun _ =>
        IsGeneric.isMessage)).wp_bind fun _ => ?_
      refine (tidies_messages (only_checkGlobalWp.mono fun _ =>
        IsGeneric.isMessage)).wp_bind fun _ => ?_
      refine (tidies_messages (only_checkMuxSel.mono fun _ =>
        IsGeneric.isMessage)).wp_bind fun _ => ?_
      exact wp_close hnew tidies_ret

theorem tidies_updateAttempts {versionStr : List UInt8} {attempts : Nat}
    {retimerNumber retimerNotUpdated : UInt8} {ret : Int32} (hfd : fd ∈ fds) :
    Tidies fds (updateAttempts b fd versionStr attempts retimerNumber ret retimerNotUpdated) := by
  induction attempts generalizing retimerNumber ret retimerNotUpdated with
  | zero => exact tidies_ret
  | succ attempts ih =>
      unfold updateAttempts
      refine (tidies_of_only (only_sendI2cCmdWrite (fun _ => usesOnly_of_generic)
        (usesOnly_write hfd))).bind fun _ => Tidies.ite tidies_ret ?_
      refine (tidies_of_only (only_pollStatus (fun _ => usesOnly_of_generic)
        (usesOnly_read hfd))).bind fun _ => Tidies.ite tidies_ret (Tidies.ite tidies_ret ?_)
      refine (tidies_messages (only_checkStatusWord.mono fun _ => IsReport.isMessage)).bind
        fun _ => ?_
      exact tidies_checkExtenedErrorReg.bind fun _ => Tidies.ite tidies_ret ih

theorem tidies_performUpdate {image : List UInt8} {op : UpdateOperation} {st : LoopState}
    (hfd : fd ∈ fds) : Tidies fds (performUpdate b fd image op st) := by
  unfold performUpdate
  refine Tidies.ite tidies_ret ?_
  refine (tidies_messages only_prepareMessageRegistry).bind fun _ => ?_
  refine (tidies_of_only (usesOnly_copyImageFromMemToFpga hfd)).bind fun _ => ?_
  refine Tidies.ite ((tidies_messages only_prepareMessageRegistry).bind fun _ => tidies_ret) ?_
  refine (tidies_updateAttempts hfd).bind fun _ => ?_
  refine Tidies.ite ((tidies_messages only_reportApplyFailed).bind fun _ => tidies_ret) ?_
  exact (tidies_messages only_reportUpdateSuccessful).bind fun _ => tidies_ret

theorem tidies_updateLoop {image : List UInt8} {uo : Nat} {ops : List UpdateOperation}
    {st : LoopState} (hfd : fd ∈ fds) : Tidies fds (updateLoop b fd image uo ops st) := by
  induction ops generalizing uo st with
  | nil => exact tidies_ret
  | cons op ops ih =>
      have hperforming : UsesOnly fds (.performing uo) := usesOnly_of_none trivial rfl
      exact (tidies_of_only (only_perform.mpr hperforming)).bind fun _ =>
        (tidies_performUpdate hfd).bind fun _ => ih

theorem tidies_updateOperations {image : List UInt8} {retimerToUpdate : UInt8}
    {ops : List UpdateOperation} (hfd : fd ∈ fds) :
    Tidies fds (updateOperations b fd image retimerToUpdate ops) :=
  (tidies_messages only_filterTargets).bind fun _ =>
    (tidies_updateLoop hfd).bind fun _ => tidies_ret

theorem tidies_updateImage {image versionStr : List UInt8} {fwSize : Nat} {retimerToUpdate : UInt8}
    (hfd : fd ∈ fds) : Tidies fds (updateImage b fd image fwSize versionStr retimerToUpdate) := by
  have hcalloc : UsesOnly fds .calloc := usesOnly_of_none trivial rfl
  have hrefused : ∀ ret : Int32, Tidies fds (prepareMessageRegistry retimerToUpdate
      "VerificationFailed" versionStr msgRegVerFollowedByDev critical none false >>= fun _ =>
        pure ret) := fun ret =>
    (tidies_messages only_prepareMessageRegistry).bind fun _ => tidies_ret
  refine (tidies_of_only (only_perform.mpr hcalloc)).bind fun calloc => ?_
  refine (tidies_messages only_parseMessage).bind fun _ => Tidies.ite (hrefused _) ?_
  split
  · exact Tidies.ite (hrefused _) (tidies_updateOperations hfd)
  · exact tidies_updateOperations hfd

/-- What is open after a command, by the descriptor that it left to `main`. -/
inductive Leaves (fds : List Int) : Int → List Int → Prop where
  | nothing {left : Int} (hleft : left < 0) : Leaves fds left fds
  | opened {left : Int} (hleft : 0 ≤ left) (hnew : left ∉ fds) : Leaves fds left (left :: fds)

theorem leaves_updateCommand {args : Arguments} (hfd : fd ∈ fds) :
    wp descriptors OnOpen (updateCommand b fd args) (fun res fds' => Leaves fds res.2 fds')
      fds := by
  have hunavailable : ∀ {fds : List Int} {message : String} {imagefd : Int}
      {Q : Int32 × Int → List Int → Prop}, Q (0, imagefd) fds →
      wp descriptors OnOpen (fileUnavailable args.retimerBitmap message args.versionStr >>= fun _ =>
        pure ((0 : Int32), imagefd)) Q fds := fun hQ =>
    (tidies_messages only_prepareMessageRegistry).wp_bind fun _ => hQ
  refine wp_open (fun imagefd himagefd => ?_) fun imagefd himagefd hnew => ?_
  · rw [if_pos himagefd]
    exact hunavailable (.nothing himagefd)
  · rw [if_neg (Int.not_lt.mpr himagefd)]
    have hstat : UsesOnly (imagefd :: fds) (.fstat imagefd) :=
      ⟨trivial, fun x hx => Option.some.inj hx ▸ List.mem_cons_self⟩
    refine (tidies_of_only (only_perform.mpr hstat)).wp_bind fun size => ?_
    cases size with
    | none => exact hunavailable (.opened himagefd hnew)
    | some fwSize =>
        have hmap : UsesOnly (imagefd :: fds) (.mmap imagefd fwSize) :=
          ⟨trivial, fun x hx => Option.some.inj hx ▸ List.mem_cons_self⟩
        refine (tidies_of_only (only_perform.mpr hmap)).wp_bind fun image => ?_
        cases image with
        | none => exact hunavailable (.opened himagefd hnew)
        | some image =>
            refine wp_close hnew ((tidies_updateImage hfd).wp_bind fun ret => ?_)
            exact .nothing minus_one_lt_zero

end Update

/-! ## The end of `main` -/

section Closing

variable {α : Type} {fd left : Int} {fds fds' : List Int}

theorem closeUnless_none : closeUnless (-1) = .ret () := if_neg (not_not.mpr rfl)

theorem filter_failed (hfds : ∀ x ∈ fds, 0 ≤ x) (hfd : fd < 0) : fds.filter (· ≠ fd) = fds := by
  refine List.filter_eq_self.mpr fun x hx => decide_eq_true ?_
  have hnonneg := hfds x hx
  omega

theorem wp_closeUnless {p : Sys α} {Q : α → List Int → Prop} (hfds : ∀ x ∈ fds, 0 ≤ x)
    (hfd : 0 ≤ fd → fd ∈ fds) (hp : wp descriptors OnOpen p Q (fds.filter (· ≠ fd))) :
    wp descriptors OnOpen (closeUnless fd >>= fun _ => p) Q fds := by
  unfold closeUnless
  split
  · rintro _ _ rfl
    refine ⟨fun x hx hopen => ?_, hp⟩
    obtain rfl := Option.some.inj hx
    exact hfd hopen
  · next hnone =>
      obtain rfl := not_not.mp hnone
      rw [filter_failed hfds minus_one_lt_zero] at hp
      exact hp

theorem wp_closing {a : α} (hfds : ∀ x ∈ fds, 0 ≤ x) (hfd : 0 ≤ fd) (hnew : fd ∉ fds)
    (h : Leaves (fd :: fds) left fds') :
    wp descriptors OnOpen (closeUnless fd >>= fun _ => closeUnless left >>= fun _ => .ret a)
      (fun _ s => s = fds) fds' := by
  have hopen : ∀ x ∈ fd :: fds, 0 ≤ x := List.forall_mem_cons.mpr ⟨hfd, hfds⟩
  cases h with
  | nothing hleft =>
      refine wp_closeUnless hopen (fun _ => List.mem_cons_self) ?_
      rw [filter_opened hnew]
      refine wp_closeUnless hfds (fun hnonneg => absurd hleft (Int.not_lt.mpr hnonneg)) ?_
      rw [filter_failed hfds hleft]
      exact rfl
  | opened hleft hown =>
      obtain ⟨hne, hown⟩ := not_or.mp (List.mem_cons.not.mp hown)
      have hfilter : (left :: fd :: fds).filter (· ≠ fd) = left :: fds := by
        rw [List.filter_cons_of_pos (by simp [hne]), filter_opened hnew]
      refine wp_closeUnless (List.forall_mem_cons.mpr ⟨hleft, hopen⟩)
        (fun _ => List.mem_cons_of_mem _ List.mem_cons_self) ?_
      rw [hfilter]
      refine wp_closeUnless (List.forall_mem_cons.mpr ⟨hleft, hfds⟩)
        (fun _ => List.mem_cons_self) ?_
      rw [filter_opened hown]
      exact rfl

def Reads (b : Build) (fuel : Nat) (argv : List (List UInt8)) : Prop :=
  ∃ args, checkArguments b fuel argv = some (.ok args) ∧ args.command = retimerFwRead

/-- Anything but a read is tidy. The proof goes through the program once, with
the open descriptors as state. -/
theorem tidies_main {b : Build} {fuel : Nat} {argv : List (List UInt8)} (hfds : ∀ x ∈ fds, 0 ≤ x)
    (hread : ¬Reads b fuel argv) : Tidies fds (main b fuel argv) := by
  unfold main
  split
  · exact tidies_ret
  · exact tidies_ret
  · next args hargs =>
      refine wp_open (fun fd hfd => ?_) fun fd hfd hnew => ?_
      · rw [if_pos hfd]
        refine wp_closeUnless hfds (fun hopen => absurd hfd (Int.not_lt.mpr hopen)) ?_
        exact filter_failed hfds hfd
      · rw [if_neg (Int.not_lt.mpr hfd), runCommand]
        split
        · rw [Prog.bind_assoc, Prog.wp_bind]
          refine wp_mono (leaves_updateCommand List.mem_cons_self) (fun _ _ h => h) ?_
          rintro ⟨ret, imagefd⟩ s hleaves
          simp only [pure_eq, ret_bind, closeUnless_none]
          exact wp_closing hfds hfd hnew hleaves
        · rw [if_neg fun hcommand => hread ⟨args, hargs, hcommand⟩]
          simp only [pure_eq, ret_bind, closeUnless_none]
          have hclosing := wp_closing (a := some (-errorInputArguments)) hfds hfd hnew
            (.nothing minus_one_lt_zero)
          rwa [closeUnless_none] at hclosing

end Closing

/-! ## The read command -/

/-- Works on the bus or on the file, and closes at most the file. -/
def WorksOn (fd dummyfd : Int) (c : Call) : Prop :=
  match c with
  | .openFile _ _ => False
  | .close fd' => fd' = dummyfd
  | c => ∀ x, c.descriptor = some x → x = fd ∨ x = dummyfd

section Read

variable {b : Build} {fd dummyfd : Int} {fds fds' : List Int} {tr : List SysEvent} {ret : Int32}

theorem worksOn_of_usesOnly {c : Call} (h : UsesOnly [fd] c) : WorksOn fd dummyfd c := by
  have hown : ∀ x, c.descriptor = some x → x = fd ∨ x = dummyfd := fun x hx =>
    Or.inl (List.mem_singleton.mp (h.2 x hx))
  cases c with
  | openFile path flags => exact h.1.elim
  | close fd' => exact h.1.elim
  | _ => exact hown

theorem WorksOn.usesOnly {c : Call} (h : WorksOn fd dummyfd c) (hc : KeepsOpen c) :
    UsesOnly (dummyfd :: fd :: fds) c := by
  have hmem : ∀ x, x = fd ∨ x = dummyfd → x ∈ dummyfd :: fd :: fds := by
    rintro x (rfl | rfl)
    · exact List.mem_cons_of_mem _ List.mem_cons_self
    · exact List.mem_cons_self
  refine ⟨hc, fun x hx => hmem x ?_⟩
  cases c with
  | openFile path flags => exact hc.elim
  | close fd' => exact hc.elim
  | _ => exact h x hx

theorem worksOn_of_confined {α : Type} {p : Sys α} {a : α}
    (hbus : Only IsBus p) (hconfined : Only (Confined b fd (fun _ => True) fun _ => False) p)
    (h : Run p tr a) : ∀ ev ∈ tr, WorksOn fd dummyfd ev.1 := fun ev hev =>
  worksOn_of_usesOnly (usesOnly_of_confined List.mem_cons_self
    ((hbus.and hconfined).run h ev hev))

theorem worksOn_cons {c : Call} {a : Answer c} (hc : WorksOn fd dummyfd c)
    (htr : ∀ ev ∈ tr, WorksOn fd dummyfd ev.1) :
    ∀ ev ∈ (⟨c, a⟩ :: tr : List SysEvent), WorksOn fd dummyfd ev.1 :=
  List.forall_mem_cons.mpr ⟨hc, htr⟩

theorem worksOn_load (h : Run (copyImageFromFileToFpga b dummyfd fd b.fpgaI2cCntrlAddr) tr ret) :
    ∀ ev ∈ tr, WorksOn fd dummyfd ev.1 := by
  cases run_fileLoad h with
  | unsized => simp [WorksOn, Call.descriptor]
  | refused hsize => simp [WorksOn, Call.descriptor]
  | noMemory => simp [WorksOn, Call.descriptor]
  | unread => simp [WorksOn, Call.descriptor]
  | @copied size fwBuf bytes tr ret hsize hcopy =>
      have hcopied : ∀ ev ∈ tr, WorksOn fd dummyfd ev.1 := worksOn_of_confined
        (only_staging.mono fun _ => IsStaging.isBus) confined_copyImageFromMemToFpga hcopy
      simpa [WorksOn, Call.descriptor] using hcopied

theorem worksOn_store (h : Run (copyImageFromFpga b dummyfd fd b.fpgaI2cCntrlAddr) tr ret) :
    ∀ ev ∈ tr, WorksOn fd dummyfd ev.1 := by
  have hread : ∀ {count i : Nat} {tr : List SysEvent} {res : Except Int32 (List UInt8)},
      Run (readPages b fd b.fpgaI2cCntrlAddr count i) tr res →
        ∀ ev ∈ tr, WorksOn fd dummyfd ev.1 := fun hpages =>
    worksOn_of_confined only_readPages_isBus confined_readPages hpages
  cases run_fileStore h with
  | unsized => simp [WorksOn, Call.descriptor]
  | refused hsize => simp [WorksOn, Call.descriptor]
  | lost hpages => simpa [WorksOn, Call.descriptor] using hread hpages
  | unwritten hpages => simpa [WorksOn, Call.descriptor, or_imp, forall_and] using hread hpages
  | written hsize hpages => simpa [WorksOn, Call.descriptor, or_imp, forall_and] using hread hpages

/-- The complete runs of the read command, by what they leave open. -/
inductive ReadFileRun (b : Build) (fd : Int) : List SysEvent → Int → Prop where
  | notOpened {dummyfd : Int} (hfd : dummyfd < 0) :
      ReadFileRun b fd [⟨.openFile "/tmp/Dummyfile" .rdwrCreat, dummyfd⟩] dummyfd
  | notSized {dummyfd : Int} (hfd : ¬dummyfd < 0) :
      ReadFileRun b fd [⟨.openFile "/tmp/Dummyfile" .rdwrCreat, dummyfd⟩,
        ⟨.ftruncate dummyfd b.maxFwImageSize, false⟩, ⟨.close dummyfd, ()⟩] (-1)
  | stopped {dummyfd : Int} {body : List SysEvent} (hfd : ¬dummyfd < 0)
      (hworks : ∀ ev ∈ body, WorksOn fd dummyfd ev.1) (hcloses : ClosesOn b dummyfd body) :
      ReadFileRun b fd (⟨.openFile "/tmp/Dummyfile" .rdwrCreat, dummyfd⟩ :: body) dummyfd
  | done {dummyfd : Int} {body : List SysEvent} (hfd : ¬dummyfd < 0)
      (hworks : ∀ ev ∈ body, WorksOn fd dummyfd ev.1) (hcloses : ClosesOn b dummyfd body) :
      ReadFileRun b fd (⟨.openFile "/tmp/Dummyfile" .rdwrCreat, dummyfd⟩
        :: (body ++ [⟨.close dummyfd, ()⟩])) (-1)

theorem readFileRun_of_run {args : Arguments} {res : Int32 × Int}
    (h : Run (readCommand b fd args) tr res) : ReadFileRun b fd tr res.2 := by
  obtain ⟨dummyfd, tr₁, rfl, h₁⟩ := run_perform_bind.mp h
  split at h₁
  · next hfd =>
      obtain ⟨rfl, rfl⟩ := run_ret.mp h₁
      exact .notOpened hfd
  · next hfd =>
      obtain ⟨truncated, tr₂, rfl, h₂⟩ := run_perform_bind.mp h₁
      have hfront : ∀ ev ∈ ([⟨.ftruncate dummyfd b.maxFwImageSize, truncated⟩] : List SysEvent),
          IsBystander ev.1 := bystander_cons trivial bystander_nil
      have hsized : WorksOn fd dummyfd (.ftruncate dummyfd b.maxFwImageSize) := fun x hx =>
        Or.inr (Option.some.inj hx).symm
      split at h₂
      · next htruncated =>
          obtain rfl := htruncated
          obtain ⟨_, tr₃, rfl, h₃⟩ := run_perform_bind.mp h₂
          obtain ⟨rfl, rfl⟩ := run_ret.mp h₃
          exact .notSized hfd
      · obtain ⟨load, ret₁, tr₃, rfl, hload, h₃⟩ := run_bind.mp h₂
        have hworksLoad := worksOn_load hload
        have hloadWay := loadWay_of_run hload
        split at h₃
        · obtain ⟨rfl, rfl⟩ := run_ret.mp h₃
          rw [List.append_nil]
          exact .stopped hfd (worksOn_cons hsized hworksLoad) (hloadWay.closesOn hfront)
        · next hret₁ =>
            obtain rfl := not_not.mp hret₁
            obtain ⟨read, ret₂, tr₄, rfl, hread, h₄⟩ := run_bind.mp h₃
            have hbyRead := bystander_readRetimerfw.run hread
            have hworksRead : ∀ ev ∈ read, WorksOn fd dummyfd ev.1 :=
              worksOn_of_confined bus_readRetimerfw (confined_readRetimerfw trivial) hread
            split at h₄
            · obtain ⟨rfl, rfl⟩ := run_ret.mp h₄
              rw [List.append_nil]
              obtain ⟨hkeeps, size, htells, hsize⟩ := hloadWay.of_zero hfront hbyRead
              refine .stopped hfd (worksOn_cons hsized (List.forall_mem_append.mpr
                ⟨hworksLoad, hworksRead⟩)) (Or.inr ⟨hkeeps, ?_⟩)
              have hnone : ¬CopyFailure b ([⟨.ftruncate dummyfd b.maxFwImageSize, truncated⟩]
                  ++ load ++ read) := by
                rw [htells.copyFailure_iff]
                simp [hsize]
              exact hnone
            · obtain ⟨sought, tr₅, rfl, h₅⟩ := run_perform_bind.mp h₄
              obtain ⟨store, ret₃, tr₆, rfl, hstore, h₆⟩ := run_bind.mp h₅
              have hworksStore := worksOn_store hstore
              have hmid : ∀ ev ∈ read ++ [⟨.lseek dummyfd 0, sought⟩], IsBystander ev.1 :=
                List.forall_mem_append.mpr ⟨hbyRead, bystander_cons trivial bystander_nil⟩
              obtain ⟨hkeeps, size, htells, hsize⟩ := hloadWay.of_zero hfront hmid
              have hnone : Tells [] [] [] [] := ⟨rfl, rfl, rfl⟩
              have hcloses := (storeWay_of_run hstore).closesOn hkeeps htells hsize
                (fun ev hev => absurd hev List.not_mem_nil) hnone
              have hworksSought : WorksOn fd dummyfd (.lseek dummyfd 0) := fun x hx =>
                Or.inr (Option.some.inj hx).symm
              have hworks : ∀ ev ∈ (⟨.ftruncate dummyfd b.maxFwImageSize, truncated⟩
                  :: (load ++ (read ++ ⟨.lseek dummyfd 0, sought⟩ :: store)) : List SysEvent),
                  WorksOn fd dummyfd ev.1 :=
                worksOn_cons hsized (List.forall_mem_append.mpr ⟨hworksLoad,
                  List.forall_mem_append.mpr ⟨hworksRead, worksOn_cons hworksSought hworksStore⟩⟩)
              have hcloses : ClosesOn b dummyfd (⟨.ftruncate dummyfd b.maxFwImageSize, truncated⟩
                  :: (load ++ (read ++ ⟨.lseek dummyfd 0, sought⟩ :: store))) := by
                simpa using hcloses
              split at h₆
              · obtain ⟨rfl, rfl⟩ := run_ret.mp h₆
                rw [List.append_nil]
                exact .stopped hfd hworks hcloses
              · obtain ⟨_, tr₇, rfl, h₇⟩ := run_perform_bind.mp h₆
                obtain ⟨rfl, rfl⟩ := run_ret.mp h₇
                have hdone := ReadFileRun.done hfd hworks hcloses
                simpa using hdone

theorem tidy_of_works (hworks : ∀ ev ∈ tr, WorksOn fd dummyfd ev.1)
    (hkeeps : ∀ ev ∈ tr, KeepsOpen ev.1) (h : Follows descriptors (dummyfd :: fd :: fds) tr fds') :
    Tidy (dummyfd :: fd :: fds) tr :=
  tidy_of_uses (fun ev hev => (hworks ev hev).usesOnly (hkeeps ev hev)) h

theorem not_open_of_closed (hworks : ∀ ev ∈ tr, WorksOn fd dummyfd ev.1)
    (hclose : ⟨.close dummyfd, ()⟩ ∈ tr) (h : Follows descriptors fds tr fds') :
    dummyfd ∉ fds' := by
  obtain ⟨front, rest, rfl⟩ := List.append_of_mem hclose
  obtain ⟨m, -, n, hstep, hrest⟩ := follows_append.mp h
  have hworksRest : ∀ ev ∈ rest, WorksOn fd dummyfd ev.1 := fun ev hev =>
    hworks ev (List.mem_append_right _ (List.mem_cons_of_mem _ hev))
  refine Follows.invariant (I := (dummyfd ∉ ·)) ?_ hrest hworksRest ?_
  · rintro s ⟨c, a⟩ s' hnot hworks hstep
    cases c with
    | openFile path flags => exact hworks.elim
    | close fd' =>
        obtain rfl := hstep
        exact fun hmem => hnot (List.mem_of_mem_filter hmem)
    | _ =>
        obtain rfl := hstep
        exact hnot
  · obtain rfl := hstep
    simp

/-- What a run of the read command comes to. In the second and the third case the
file was closed by a copy, and is closed again in the command or left to `main`. -/
inductive ReadLeaves (b : Build) (fds : List Int) (seg : List SysEvent) (left : Int)
    (fds' : List Int) : Prop where
  | tidy (hopen : Follows openDescriptors fds seg fds') (hleaves : Leaves fds left fds')
      (hfailure : ¬CopyFailure b seg)
  | again (hopen : ∀ m, ¬Follows openDescriptors fds seg m) (hfailure : CopyFailure b seg)
  | closed (hleft : 0 ≤ left) (hclosed : ∀ m, Follows descriptors fds seg m → left ∉ m)
      (hfailure : CopyFailure b seg)

theorem readLeaves_of_run {args : Arguments} {res : Int32 × Int}
    (h : Run (readCommand b fd args) tr res) (hfds : Follows descriptors (fd :: fds) tr fds') :
    ReadLeaves b (fd :: fds) tr res.2 fds' := by
  have hopened : ∀ {dummyfd : Int} {m : List Int}, ¬dummyfd < 0 →
      descriptors (fd :: fds) ⟨.openFile "/tmp/Dummyfile" .rdwrCreat, dummyfd⟩ m →
        0 ≤ dummyfd ∧ dummyfd ∉ fd :: fds ∧ m = dummyfd :: fd :: fds := by
    intro dummyfd m hdummyfd hstep
    simp only [descriptors, if_neg hdummyfd] at hstep
    exact ⟨Int.not_lt.mp hdummyfd, hstep⟩
  have honOpen : ∀ {dummyfd : Int}, OnOpen (fd :: fds)
      ⟨.openFile "/tmp/Dummyfile" .rdwrCreat, dummyfd⟩ := onOpen_of_none rfl
  have hsame : ∀ {dummyfd : Int} {body : List SysEvent},
      CopyFailure b (⟨.openFile "/tmp/Dummyfile" .rdwrCreat, dummyfd⟩ :: body)
        ↔ CopyFailure b body := Iff.rfl
  obtain ⟨ret, left⟩ := res
  have hrun : ReadFileRun b fd tr left := readFileRun_of_run h
  cases hrun with
  | notOpened hfd =>
      obtain ⟨m, hstep, rfl⟩ := hfds
      refine .tidy ⟨_, ⟨honOpen, hstep⟩, rfl⟩ ?_ (Tells.not_copyFailure ⟨rfl, rfl, rfl⟩)
      simp only [descriptors, if_pos hfd] at hstep
      rw [hstep]
      exact .nothing hfd
  | @notSized dummyfd hfd =>
      obtain ⟨m, hopen, m', htruncate, m'', hclose, rfl⟩ := hfds
      obtain ⟨hnonneg, hnew, rfl⟩ := hopened hfd hopen
      obtain rfl := htruncate
      have hmem : OnOpen (dummyfd :: fd :: fds) ⟨.close dummyfd, ()⟩ := fun x hx _ =>
        Option.some.inj hx ▸ List.mem_cons_self
      have hown : OnOpen (dummyfd :: fd :: fds) ⟨.ftruncate dummyfd b.maxFwImageSize, false⟩ :=
        fun x hx _ => Option.some.inj hx ▸ List.mem_cons_self
      refine .tidy ⟨_, ⟨honOpen, hopen⟩, _, ⟨hown, rfl⟩, _, ⟨hmem, hclose⟩, rfl⟩ ?_ ?_
      · have hclosed : fds' = fd :: fds := by
          rw [← filter_opened hnew]
          exact hclose
        rw [hclosed]
        exact .nothing minus_one_lt_zero
      · exact Tells.not_copyFailure ⟨rfl, rfl, rfl⟩
  | stopped hfd hworks hcloses =>
      obtain ⟨m, hopen, hbody⟩ := hfds
      obtain ⟨hnonneg, hnew, rfl⟩ := hopened hfd hopen
      rcases hcloses with ⟨hclose, hfailure⟩ | ⟨hkeeps, hfailure⟩
      · refine .closed hnonneg ?_ (hsame.mpr hfailure)
        rintro m' ⟨m'', -, hbody⟩
        exact not_open_of_closed hworks hclose hbody
      · have htidy := tidy_of_works hworks hkeeps hbody
        obtain rfl := follows_descriptors_of_keeps hkeeps hbody
        exact .tidy ⟨_, ⟨honOpen, hopen⟩, htidy⟩ (.opened hnonneg hnew)
          (hsame.not.mpr hfailure)
  | @done dummyfd body hfd hworks hcloses =>
      obtain ⟨m, hopen, hrest⟩ := hfds
      obtain ⟨hnonneg, hnew, rfl⟩ := hopened hfd hopen
      obtain ⟨m', hbody, m'', hlast, rfl⟩ := follows_append.mp hrest
      have hbodyTells : Tells body (sizes body) (reads body) (writes body) := ⟨rfl, rfl, rfl⟩
      have hlastTells : Tells [⟨.close dummyfd, ()⟩] [] [] [] := ⟨rfl, rfl, rfl⟩
      have hsameBody : CopyFailure b (body ++ [⟨.close dummyfd, ()⟩]) ↔ CopyFailure b body := by
        rw [(hbodyTells.append hlastTells).copyFailure_iff, CopyFailure, List.append_nil,
          List.append_nil, List.append_nil]
      rcases hcloses with ⟨hclose, hfailure⟩ | ⟨hkeeps, hfailure⟩
      · refine .again ?_ (hsame.mpr (hsameBody.mpr hfailure))
        rintro n ⟨n₁, -, hrest⟩
        obtain ⟨n₂, hbody, n₃, hlast, -⟩ := follows_append.mp hrest
        exact not_open_of_closed hworks hclose (follows_of_open hbody) (hlast.1 _ rfl hnonneg)
      · have htidy := tidy_of_works hworks hkeeps hbody
        obtain rfl := follows_descriptors_of_keeps hkeeps hbody
        have hmem : OnOpen (dummyfd :: fd :: fds) ⟨.close dummyfd, ()⟩ := fun x hx _ =>
          Option.some.inj hx ▸ List.mem_cons_self
        have hclosed : fds' = fd :: fds := by
          rw [← filter_opened hnew]
          exact hlast
        refine .tidy ⟨_, ⟨honOpen, hopen⟩, follows_append.mpr ⟨_, htidy, fds',
          ⟨hmem, hlast⟩, rfl⟩⟩ ?_ ((hsame.trans hsameBody).not.mpr hfailure)
        rw [hclosed]
        exact .nothing minus_one_lt_zero

end Read

/-! ## Whole runs -/

section Main

variable {b : Build} {fuel : Nat} {argv : List (List UInt8)} {fds fds' : List Int}
  {tr : List SysEvent} {args : Arguments} {ret : Option Int32}

theorem Tidies.tidy {α : Type} {p : Sys α} {a : α} (h : Tidies fds p) (hrun : Run p tr a)
    (hfds : Follows descriptors fds tr fds') : Tidy fds tr := by
  have hend := wp_run h hrun hfds
  have hopen := wp_follows h hrun hfds
  rw [hend] at hopen
  exact hopen

theorem run_main_read (hargs : checkArguments b fuel argv = some (.ok args))
    (hcommand : args.command = retimerFwRead) (h : Run (main b fuel argv) tr ret) :
    ∃ fd rest, tr = ⟨.openFile ("/dev/i2c-" ++ toString args.bus) .rdwrNonblock, fd⟩ :: rest
      ∧ ((fd < 0 ∧ Run (closeUnless fd >>= fun _ =>
          .ret (some (-errorOpenI2cDevice))) rest ret)
        ∨ (0 ≤ fd ∧ ∃ seg res post, rest = seg ++ post ∧ Run (readCommand b fd args) seg res
          ∧ Run (closeUnless fd >>= fun _ => closeUnless res.2 >>= fun _ => .ret (some res.1))
            post ret)) := by
  have hnot : args.command ≠ retimerFwUpdate := by
    rw [hcommand]
    decide
  unfold main at h
  rw [hargs] at h
  obtain ⟨fd, rest, rfl, h₁⟩ := run_perform_bind.mp h
  refine ⟨fd, rest, rfl, ?_⟩
  split at h₁
  · next hfd => exact Or.inl ⟨hfd, h₁⟩
  · next hfd =>
      refine Or.inr ⟨Int.not_lt.mp hfd, ?_⟩
      rw [runCommand, if_neg hnot, if_pos hcommand, Prog.bind_assoc] at h₁
      obtain ⟨seg, ⟨ret', left⟩, post, rfl, hread, h₂⟩ := run_bind.mp h₁
      simp only [pure_eq, ret_bind, closeUnless_none] at h₂
      exact ⟨seg, (ret', left), post, rfl, hread, h₂⟩

theorem tells_of_closes (h : ∀ ev ∈ tr, IsClose ev.1) : Tells tr [] [] [] := by
  constructor
  all_goals
    refine List.filterMap_eq_nil_iff.mpr ?_
    rintro ⟨c, a⟩ hev
    have hc := h _ hev
    cases c with
    | close fd => rfl
    | _ => exact hc.elim

/-- What `main` does around its command tells nothing of the file. -/
theorem copyFailure_around {path : String} {flags : OpenFlags} {fd : Int} {post : List SysEvent}
    (hpost : ∀ ev ∈ post, IsClose ev.1) :
    CopyFailure b (⟨.openFile path flags, fd⟩ :: (tr ++ post)) ↔ CopyFailure b tr := by
  have htr : Tells tr (sizes tr) (reads tr) (writes tr) := ⟨rfl, rfl, rfl⟩
  have hfront : Tells [⟨.openFile path flags, fd⟩] [] [] [] := ⟨rfl, rfl, rfl⟩
  have hall := hfront.append (htr.append (tells_of_closes hpost))
  rw [List.append_nil, List.append_nil, List.append_nil] at hall
  exact hall.copyFailure_iff

/-- A descriptor that `main` closes must be open then. -/
theorem not_open_closing {α : Type} {fd left : Int} {a a' : α} (hfd : 0 ≤ fd) (hleft : 0 ≤ left)
    (hclosed : left ∉ fds)
    (h : Run (closeUnless fd >>= fun _ => closeUnless left >>= fun _ => .ret a) tr a') :
    ¬Follows openDescriptors fds tr fds' := by
  have hne : fd ≠ -1 := by omega
  have hleftNe : left ≠ -1 := by omega
  unfold closeUnless at h
  rw [if_pos hne, if_pos hleftNe] at h
  obtain ⟨_, tr₁, rfl, h₁⟩ := run_perform_bind.mp h
  obtain ⟨_, tr₂, rfl, -⟩ := run_perform_bind.mp h₁
  rintro ⟨m, ⟨-, hstep⟩, m', ⟨honOpen, -⟩, -⟩
  obtain rfl := hstep
  exact hclosed (List.mem_of_mem_filter (honOpen left rfl hleft))

end Main

/-- **The descriptors of the update tool.** Each call works on an open
descriptor, and in the end those are open that were open at the start, unless
one of the two copies of a read fails in a way in which it closes the file
itself. The kernel may give out a descriptor again as soon as it is closed. -/
theorem main_tidy_iff (b : Build) (fuel : Nat) (argv : List (List UInt8)) (tr : List SysEvent)
    (ret : Option Int32) (fds fds' : List Int) (hopen : ∀ fd ∈ fds, 0 ≤ fd)
    (hrun : Run (main b fuel argv) tr ret) (hfds : Follows descriptors fds tr fds') :
    Tidy fds tr ↔ ¬(Reads b fuel argv ∧ CopyFailure b tr) := by
  by_cases hread : Reads b fuel argv
  · obtain ⟨args, hargs, hcommand⟩ := hread
    rw [not_and, forall_prop_of_true ⟨args, hargs, hcommand⟩]
    obtain ⟨fd, rest, rfl, hrest⟩ := run_main_read hargs hcommand hrun
    obtain ⟨m, hstep, hfollows⟩ := hfds
    have hstep' := hstep
    simp only [descriptors] at hstep'
    rcases hrest with ⟨hfd, hpost⟩ | ⟨hfd, seg, ⟨ret', left⟩, post, rfl, hseg, hpost⟩
    · rw [if_pos hfd] at hstep'
      obtain rfl := hstep'
      have hcloses := (closes_closeUnless.bind fun _ => only_ret).run hpost
      have htidies : Tidies m (closeUnless fd >>= fun _ =>
          (.ret (some (-errorOpenI2cDevice)) : Sys (Option Int32))) :=
        wp_closeUnless hopen (fun hnonneg => absurd hfd (Int.not_lt.mpr hnonneg))
          (filter_failed hopen hfd)
      refine iff_of_true ⟨m, ⟨onOpen_of_none rfl, hstep⟩, htidies.tidy hpost hfollows⟩ ?_
      exact (tells_of_closes hcloses).not_copyFailure
    · rw [if_neg (Int.not_lt.mpr hfd)] at hstep'
      obtain ⟨hnew, rfl⟩ := hstep'
      have hcloses := (closes_closeUnless.bind fun _ => closes_closeUnless.bind fun _ =>
        only_ret).run hpost
      rw [copyFailure_around hcloses]
      obtain ⟨m, hsegment, hend⟩ := follows_append.mp hfollows
      -- a tidy trace is tidy in the command as well
      have hparts : Tidy fds (⟨.openFile ("/dev/i2c-" ++ toString args.bus) .rdwrNonblock, fd⟩
          :: (seg ++ post)) → ∃ m, Follows openDescriptors (fd :: fds) seg m
            ∧ Follows openDescriptors m post fds := by
        rintro ⟨n, ⟨-, hstep⟩, hrest⟩
        simp only [descriptors, if_neg (Int.not_lt.mpr hfd)] at hstep
        obtain ⟨-, rfl⟩ := hstep
        exact follows_append.mp hrest
      cases readLeaves_of_run hseg hsegment with
      | tidy hseg hleaves hfailure =>
          refine iff_of_true ?_ hfailure
          have hclosing := wp_closing (a := some ret') hopen hfd hnew hleaves
          have hfinal := wp_run hclosing hpost hend
          have hpost := wp_follows hclosing hpost hend
          rw [hfinal] at hpost
          exact ⟨_, ⟨onOpen_of_none rfl, hstep⟩, follows_append.mpr ⟨m, hseg, hpost⟩⟩
      | again hagain hfailure =>
          refine iff_of_false (fun htidy => ?_) (not_not_intro hfailure)
          obtain ⟨n, hseg, -⟩ := hparts htidy
          exact hagain n hseg
      | closed hleft hclosed hfailure =>
          refine iff_of_false (fun htidy => ?_) (not_not_intro hfailure)
          obtain ⟨n, hseg, hend⟩ := hparts htidy
          exact not_open_closing hfd hleft (hclosed n (follows_of_open hseg)) hpost hend
  · exact iff_of_true ((tidies_main hopen hread).tidy hrun hfds) fun h => hread h.1

/-! ## A size that cannot be had -/

section Unsized

/-- The `fstat` of the first copy fails, and the file is closed twice. -/
def unsizedRead : List SysEvent :=
  [⟨.openFile "/dev/i2c-3" .rdwrNonblock, (3 : Int)⟩,
    ⟨.openFile "/tmp/Dummyfile" .rdwrCreat, (4 : Int)⟩,
    ⟨.ftruncate 4 defaultBuild.maxFwImageSize, true⟩, ⟨.fstat 4, none⟩, ⟨.close 4, ()⟩,
    ⟨.close 3, ()⟩, ⟨.close 4, ()⟩]

theorem run_unsizedRead : Run (main defaultBuild 10 readArgv) unsizedRead (some (-1)) :=
  .cons (.cons (.cons (.cons (.cons (.cons (.cons .nil))))))

theorem follows_unsizedRead : Follows descriptors [0, 1, 2] unsizedRead [0, 1, 2] := by
  simp [unsizedRead, descriptors]

theorem main_tidy_iff_unsized : Tidy [0, 1, 2] unsizedRead
    ↔ ¬(Reads defaultBuild 10 readArgv ∧ CopyFailure defaultBuild unsizedRead) :=
  main_tidy_iff defaultBuild 10 readArgv unsizedRead (some (-1)) [0, 1, 2] [0, 1, 2] (by decide)
    run_unsizedRead follows_unsizedRead

end Unsized

end Retimer
