import Retimer.HashExits

/-!
# The descriptors of a hash request

`readFWImagenComputeHash` opens the device and the file, and closes both
at its end. The two functions that it hands the file to close it as well
on some of their failures, and then it is closed twice: `CopyFailure`
lists these. On every other way out, each descriptor that was opened is
closed once, and nothing is done with it afterwards.

`ClosedOnce` demands of every event what follows it (`Disposed`): a
descriptor that was opened is closed exactly once, and one that was
closed is not used. The kernel never gives out a descriptor that is open
(`descriptors`), so the device and the file have different ones
(`descriptors_ne`).

The condition is on the answers about the file: the sizes that were
reported, one for each copy, and whether reads and writes succeeded.
`Tells` is what a part of a run contributes to them, and is empty for
whatever is a bystander (`tells_nothing`). `LoadWay` and `StoreWay` list
what the two functions do with the file, and `ReadWay` how far the
reading comes; for each of them the file is closed in that part exactly
on the failures listed (`ClosesOn`, `hashFirmware_closesOn`).
`closedOnce_of_keeps` and `not_closedOnce_of_closed` make the two
directions of the result out of it.
-/

namespace Retimer

open Interaction Interaction.Prog

/-! ## Closing once -/

/-- The descriptor that a call operates on. -/
def Call.descriptor : Call → Option Int
  | .i2cWrite fd _ _ | .i2cRead fd _ _ _ | .close fd | .fstat fd | .ftruncate fd _ | .mmap fd _
  | .read fd _ | .write fd _ | .lseek fd _ => some fd
  | _ => none

def closes (fd : Int) (tr : List SysEvent) : Nat := tr.countP fun ev => ev.1 = .close fd

/-- What is demanded behind an event: a descriptor that was opened is closed exactly
once, and one that was closed is not used. -/
def Disposed : SysEvent → List SysEvent → Prop
  | ⟨.openFile _ _, fd⟩, post => 0 ≤ fd → closes fd post = 1
  | ⟨.close fd, _⟩, post => 0 ≤ fd → ∀ ev ∈ post, ev.1.descriptor ≠ some fd
  | _, _ => True

/-- Every descriptor that is opened is closed exactly once, and not used after
that: each event is disposed of by the events behind it. -/
def ClosedOnce : List SysEvent → Prop
  | [] => True
  | ev :: post => Disposed ev post ∧ ClosedOnce post

/-- The open descriptors. The kernel gives out one that is not open, or fails. -/
def descriptors : Env Call Answer (List Int)
  | fds, ⟨.openFile _ _, fd⟩, fds' => if fd < 0 then fds' = fds else fd ∉ fds ∧ fds' = fd :: fds
  | fds, ⟨.close fd, _⟩, fds' => fds' = fds.filter (· ≠ fd)
  | fds, _, fds' => fds' = fds

/-! ## The failures that close the file -/

/-- The sizes that the kernel reported for the file, one for each copy. -/
def sizes (tr : List SysEvent) : List (Option Nat) :=
  tr.filterMap fun
    | ⟨.fstat _, size⟩ => some size
    | _ => none

def reads (tr : List SysEvent) : List Bool :=
  tr.filterMap fun
    | ⟨.read _ _, bytes⟩ => some bytes.isSome
    | _ => none

def writes (tr : List SysEvent) : List Bool :=
  tr.filterMap fun
    | ⟨.write _ _, n⟩ => some n.isSome
    | _ => none

/-- A size that `copyImageFromFileToFpga` accepts. -/
def Loadable (b : Build) (size : Option Nat) : Prop :=
  ∃ n, size = some n ∧ ¬(n = 0 ∨ n > b.maxFwImageSize)

/-- A size that `copyImageFromFpga` accepts. -/
def Storable (size : Option Nat) : Prop := ∃ n, size = some n ∧ ¬(n = 0 ∨ n % bytePerPage ≠ 0)

/-- In the first copy, the size cannot be had or is not accepted, or the read fails; in the
second, the size cannot be had or is not accepted, or the write fails. -/
def CopyFailure (b : Build) (tr : List SysEvent) : Prop :=
  (∃ size, (sizes tr)[0]? = some size ∧ ¬Loadable b size) ∨ (reads tr)[0]? = some false
    ∨ (∃ size, (sizes tr)[1]? = some size ∧ ¬Storable size) ∨ (writes tr)[0]? = some false

/-! ## Events that do not matter -/

/-- Neither opens nor closes a descriptor. -/
def KeepsOpen : Call → Prop
  | .openFile _ _ | .close _ => False
  | _ => True

/-- Opens and closes nothing, and tells nothing of a file. -/
def IsBystander : Call → Prop
  | .openFile _ _ | .close _ | .fstat _ | .read _ _ | .write _ _ => False
  | _ => True

/-- What a list of events tells of the file. -/
structure Tells (tr : List SysEvent) (ss : List (Option Nat)) (rs ws : List Bool) : Prop where
  sizes : sizes tr = ss
  reads : reads tr = rs
  writes : writes tr = ws

section Events

variable {c : Call} {a : Answer c} {tr tr' xs : List SysEvent} {fd : Int} {b : Build}
  {ss ss' : List (Option Nat)} {rs rs' ws ws' : List Bool}

theorem IsBystander.keepsOpen (h : IsBystander c) : KeepsOpen c := by
  cases c with
  | openFile path flags => exact h.elim
  | close fd => exact h.elim
  | _ => trivial

theorem keeps_of_bystanders (h : ∀ ev ∈ tr, IsBystander ev.1) : ∀ ev ∈ tr, KeepsOpen ev.1 :=
  fun ev hev => (h ev hev).keepsOpen

theorem IsBus.isBystander (h : IsBus c) : IsBystander c := by
  cases c with
  | i2cWrite fd slaveId writeData => trivial
  | i2cRead fd slaveId writeData n => trivial
  | emitLogMessage m => trivial
  | _ => exact h.elim

theorem Tells.copyFailure_iff (h : Tells tr ss rs ws) : CopyFailure b tr ↔
    (∃ size, ss[0]? = some size ∧ ¬Loadable b size) ∨ rs[0]? = some false
      ∨ (∃ size, ss[1]? = some size ∧ ¬Storable size) ∨ ws[0]? = some false := by
  rw [CopyFailure, h.sizes, h.reads, h.writes]

theorem Tells.not_copyFailure (h : Tells tr [] [] []) : ¬CopyFailure b tr := by
  rw [h.copyFailure_iff]
  simp

theorem Tells.append (h : Tells tr ss rs ws) (h' : Tells tr' ss' rs' ws') :
    Tells (tr ++ tr') (ss ++ ss') (rs ++ rs') (ws ++ ws') := by
  constructor
  · rw [Retimer.sizes, List.filterMap_append]
    exact congrArg₂ _ h.sizes h'.sizes
  · rw [Retimer.reads, List.filterMap_append]
    exact congrArg₂ _ h.reads h'.reads
  · rw [Retimer.writes, List.filterMap_append]
    exact congrArg₂ _ h.writes h'.writes

theorem tells_nothing (h : ∀ ev ∈ tr, IsBystander ev.1) : Tells tr [] [] [] := by
  constructor
  all_goals
    refine List.filterMap_eq_nil_iff.mpr ?_
    rintro ⟨c, a⟩ hev
    have hby := h _ hev
    cases c with
    | fstat fd => exact hby.elim
    | read fd n => exact hby.elim
    | write fd bs => exact hby.elim
    | _ => rfl

theorem tells_hashing (h : ∀ ev ∈ tr, IsHashing ev.1) : Tells tr [] (Retimer.reads tr) [] := by
  refine ⟨?_, rfl, ?_⟩
  all_goals
    refine List.filterMap_eq_nil_iff.mpr ?_
    rintro ⟨c, a⟩ hev
    have hhash := h _ hev
    cases c with
    | fstat fd => exact hhash.elim
    | write fd bs => exact hhash.elim
    | _ => rfl

theorem closes_append : closes fd (tr ++ tr') = closes fd tr + closes fd tr' :=
  List.countP_append

theorem closes_openFile {path : String} {flags : OpenFlags} {fd' : Int} :
    closes fd (⟨.openFile path flags, fd'⟩ :: tr) = closes fd tr :=
  List.countP_cons_of_neg (by simp)

theorem closes_of_keeps (h : ∀ ev ∈ tr, KeepsOpen ev.1) : closes fd tr = 0 := by
  refine List.countP_eq_zero.mpr ?_
  rintro ev hev heq
  have hkeeps := h ev hev
  rw [of_decide_eq_true heq] at hkeeps
  exact hkeeps

theorem disposed_of_keeps {post : List SysEvent} (h : KeepsOpen c) : Disposed ⟨c, a⟩ post := by
  cases c with
  | openFile path flags => exact h.elim
  | close fd => exact h.elim
  | _ => trivial

theorem closedOnce_append_of_keeps (h : ∀ ev ∈ xs, KeepsOpen ev.1) :
    ClosedOnce (xs ++ tr) ↔ ClosedOnce tr := by
  induction xs with
  | nil => exact Iff.rfl
  | cons ev xs ih =>
      obtain ⟨hev, hxs⟩ := List.forall_mem_cons.mp h
      rw [List.cons_append, ClosedOnce, ih hxs]
      exact and_iff_right (disposed_of_keeps hev)

theorem ClosedOnce.suffix (h : ClosedOnce (xs ++ tr)) : ClosedOnce tr := by
  induction xs with
  | nil => exact h
  | cons ev xs ih => exact ih h.2

end Events

/-! ## One request -/

section Request

variable {b : Build} {fd dummyfd : Int} {dir seg : List SysEvent} {deleted : Bool}

theorem closedOnce_close : ClosedOnce [⟨.close fd, ()⟩] :=
  ⟨fun _ _ hev => absurd hev List.not_mem_nil, trivial⟩

theorem closedOnce_request {rest : List SysEvent} (hdir : ∀ ev ∈ dir, KeepsOpen ev.1)
    (hdevice : closes fd rest = 1) (hfile : 0 ≤ dummyfd → closes dummyfd rest = 1)
    (hrest : ClosedOnce rest) :
    ClosedOnce (openDevice b fd :: (dir ++ ⟨.openFile hashFile .rdwrCreat, dummyfd⟩ :: rest)) := by
  refine ⟨fun _ => ?_, (closedOnce_append_of_keeps hdir).mpr ⟨hfile, hrest⟩⟩
  rw [closes_append, closes_of_keeps hdir, closes_openFile, hdevice]

/-- Where the functions that get the file leave it open, both are closed once:
`cleanUp` closes the file and then the device. -/
theorem closedOnce_of_keeps (hne : dummyfd ≠ fd)
    (hdir : ∀ ev ∈ dir, KeepsOpen ev.1) (hseg : ∀ ev ∈ seg, KeepsOpen ev.1) :
    ClosedOnce (openDevice b fd :: (dir ++ ⟨.openFile hashFile .rdwrCreat, dummyfd⟩
      :: (seg ++ cleanUp fd dummyfd deleted))) := by
  have hdevice : closes fd (cleanUp fd dummyfd deleted) = 1 := by
    simp [closes, cleanUp, hne]
  have hfile : closes dummyfd (cleanUp fd dummyfd deleted) = 1 := by
    simp [closes, cleanUp, hne.symm]
  have hclean : ClosedOnce (cleanUp fd dummyfd deleted) := by
    refine ⟨trivial, fun _ _ hev huse => ?_, closedOnce_close⟩
    obtain rfl := List.mem_singleton.mp hev
    exact hne (Option.some.inj huse).symm
  refine closedOnce_request hdir ?_ (fun _ => ?_) ((closedOnce_append_of_keeps hseg).mpr hclean)
  · rw [closes_append, closes_of_keeps hseg, hdevice]
  · rw [closes_append, closes_of_keeps hseg, hfile]

/-- Where one of them closes it, it is closed again at the end. Nobody sets
`dummyfd` back. -/
theorem not_closedOnce_of_closed (hdummyfd : ¬dummyfd < 0) (hclose : ⟨.close dummyfd, ()⟩ ∈ seg) :
    ¬ClosedOnce (openDevice b fd :: (dir ++ ⟨.openFile hashFile .rdwrCreat, dummyfd⟩
      :: (seg ++ cleanUp fd dummyfd deleted))) := by
  intro h
  obtain ⟨front, rest, rfl⟩ := List.append_of_mem hclose
  have htail : ClosedOnce (⟨.close dummyfd, ()⟩ :: (rest ++ cleanUp fd dummyfd deleted)) := by
    have hseg := (ClosedOnce.suffix h.2).2
    rw [List.append_assoc, List.cons_append] at hseg
    exact hseg.suffix
  have hagain : ⟨.close dummyfd, ()⟩ ∈ rest ++ cleanUp fd dummyfd deleted := by
    simp [cleanUp]
  exact htail.1 (by omega) _ hagain rfl

/-- What a run of `copyImageFromFileToFpga` does with the file. -/
inductive LoadWay (b : Build) (dummyfd : Int) (tr : List SysEvent) (ret : Int32) : Prop where
  | unloadable {size : Option Nat} (hclose : ⟨.close dummyfd, ()⟩ ∈ tr)
      (htells : Tells tr [size] [] []) (hsize : ¬Loadable b size) (hret : ret ≠ 0)
  | unread {size : Option Nat} (hclose : ⟨.close dummyfd, ()⟩ ∈ tr)
      (htells : Tells tr [size] [false] []) (hret : ret ≠ 0)
  | noMemory {size : Option Nat} (hkeeps : ∀ ev ∈ tr, KeepsOpen ev.1)
      (htells : Tells tr [size] [] []) (hsize : Loadable b size) (hret : ret ≠ 0)
  | read {size : Option Nat} (hkeeps : ∀ ev ∈ tr, KeepsOpen ev.1)
      (htells : Tells tr [size] [true] []) (hsize : Loadable b size)

theorem loadWay_of_run {slaveId : UInt8} {tr : List SysEvent} {ret : Int32}
    (h : Run (copyImageFromFileToFpga b dummyfd fd slaveId) tr ret) :
    LoadWay b dummyfd tr ret := by
  cases run_fileLoad h with
  | unsized =>
      refine .unloadable (by simp) ⟨rfl, rfl, rfl⟩ ?_ (by decide)
      rintro ⟨n, hn, -⟩
      cases hn
  | refused hsize =>
      refine .unloadable (by simp) ⟨rfl, rfl, rfl⟩ ?_ (by decide)
      rintro ⟨n, hn, hgood⟩
      obtain rfl := Option.some.inj hn
      exact hgood hsize
  | noMemory =>
      exact .noMemory (by simp [KeepsOpen]) ⟨rfl, rfl, rfl⟩ ⟨_, rfl, size_of_malloc_load h⟩
        (by decide)
  | unread => exact .unread (by simp) ⟨rfl, rfl, rfl⟩ (by decide)
  | @copied size fwBuf bytes tr ret hsize hcopy =>
      have hbus : ∀ ev ∈ tr, IsBystander ev.1 := fun ev hev =>
        (only_staging.run hcopy ev hev).isBus.isBystander
      have hfront : Tells [⟨.fstat dummyfd, some size⟩, ⟨.malloc size, some fwBuf⟩,
          ⟨.read dummyfd size, some bytes⟩] [some size] [true] [] := ⟨rfl, rfl, rfl⟩
      refine .read ?_ (hfront.append (tells_nothing hbus)) ⟨size, rfl, hsize⟩
      exact List.forall_mem_cons.mpr ⟨trivial, List.forall_mem_cons.mpr ⟨trivial,
        List.forall_mem_cons.mpr ⟨trivial, keeps_of_bystanders hbus⟩⟩⟩

/-- What a run of `copyImageFromFpga` does with the file. -/
inductive StoreWay (dummyfd : Int) (tr : List SysEvent) : Prop where
  | unstorable {size : Option Nat} (hclose : ⟨.close dummyfd, ()⟩ ∈ tr)
      (htells : Tells tr [size] [] []) (hsize : ¬Storable size)
  | unwritten {size : Option Nat} (hclose : ⟨.close dummyfd, ()⟩ ∈ tr)
      (htells : Tells tr [size] [] [false])
  | lost {size : Option Nat} (hkeeps : ∀ ev ∈ tr, KeepsOpen ev.1)
      (htells : Tells tr [size] [] []) (hsize : Storable size)
  | written {size : Option Nat} (hkeeps : ∀ ev ∈ tr, KeepsOpen ev.1)
      (htells : Tells tr [size] [] [true]) (hsize : Storable size)

theorem storeWay_of_run {slaveId : UInt8} {tr : List SysEvent} {ret : Int32}
    (h : Run (copyImageFromFpga b dummyfd fd slaveId) tr ret) : StoreWay dummyfd tr := by
  have hbus : ∀ {count i : Nat} {tr : List SysEvent} {res : Except Int32 (List UInt8)},
      Run (readPages b fd slaveId count i) tr res → ∀ ev ∈ tr, IsBystander ev.1 :=
    fun hpages ev hev => (only_readPages_isBus.run hpages ev hev).isBystander
  have hfront : ∀ (size : Nat) (fwBuf : Vector UInt8 size), Tells [⟨.fstat dummyfd, some size⟩,
      ⟨.malloc size, some fwBuf⟩] [some size] [] [] := fun _ _ => ⟨rfl, rfl, rfl⟩
  cases run_fileStore h with
  | unsized =>
      refine .unstorable (by simp) ⟨rfl, rfl, rfl⟩ ?_
      rintro ⟨n, hn, -⟩
      cases hn
  | refused hsize =>
      refine .unstorable (by simp) ⟨rfl, rfl, rfl⟩ ?_
      rintro ⟨n, hn, hgood⟩
      obtain rfl := Option.some.inj hn
      exact hgood hsize
  | @lost size fwBuf tr ret hpages =>
      have hsize : Storable (some size) := ⟨size, rfl, size_of_malloc_store h⟩
      refine .lost ?_ ((hfront size fwBuf).append (tells_nothing (hbus hpages))) hsize
      exact List.forall_mem_cons.mpr ⟨trivial, List.forall_mem_cons.mpr ⟨trivial,
        keeps_of_bystanders (hbus hpages)⟩⟩
  | @unwritten size fwBuf tr pages sought hpages =>
      have hback : Tells [⟨.lseek dummyfd 0, sought⟩,
          ⟨.write dummyfd (pages ++ List.replicate (size - pages.length) 0), none⟩,
          ⟨.close dummyfd, ()⟩] [] [] [false] := ⟨rfl, rfl, rfl⟩
      have htells := (hfront size fwBuf).append ((tells_nothing (hbus hpages)).append hback)
      exact .unwritten (by simp) htells
  | @written size fwBuf tr pages sought n hsize hpages =>
      have hback : Tells [⟨.lseek dummyfd 0, sought⟩,
          ⟨.write dummyfd (pages ++ List.replicate (size - pages.length) 0), some n⟩]
          [] [] [true] := ⟨rfl, rfl, rfl⟩
      have htells := (hfront size fwBuf).append ((tells_nothing (hbus hpages)).append hback)
      refine .written ?_ htells ⟨size, rfl, hsize⟩
      refine List.forall_mem_cons.mpr ⟨trivial, List.forall_mem_cons.mpr ⟨trivial, ?_⟩⟩
      intro ev hev
      rcases List.mem_append.mp hev with hev | hev
      · exact (hbus hpages ev hev).keepsOpen
      · simp only [List.mem_cons, List.not_mem_nil, or_false] at hev
        rcases hev with rfl | rfl <;> trivial

/-- The ways through `readFirmware`, as far as the file is concerned, by how far
it gets: no blank file, no blank DPRAM, no firmware, and the firmware stored in
the file or not. -/
inductive ReadWay (b : Build) (dummyfd : Int) : List SysEvent → Int32 → Prop where
  | untruncated {front : List SysEvent} (hfront : ∀ ev ∈ front, IsBystander ev.1) :
      ReadWay b dummyfd front exitFailure
  | unloaded {front load : List SysEvent} {ret : Int32} (hfront : ∀ ev ∈ front, IsBystander ev.1)
      (hload : LoadWay b dummyfd load ret) : ReadWay b dummyfd (front ++ load) exitFailure
  | unread {front load mid : List SysEvent} (hfront : ∀ ev ∈ front, IsBystander ev.1)
      (hload : LoadWay b dummyfd load 0) (hmid : ∀ ev ∈ mid, IsBystander ev.1) :
      ReadWay b dummyfd (front ++ load ++ mid) exitFailure
  | stored {front load mid store back : List SysEvent} {ret : Int32}
      (hfront : ∀ ev ∈ front, IsBystander ev.1) (hload : LoadWay b dummyfd load 0)
      (hmid : ∀ ev ∈ mid, IsBystander ev.1) (hstore : StoreWay dummyfd store)
      (hback : ∀ ev ∈ back, IsBystander ev.1) :
      ReadWay b dummyfd (front ++ load ++ mid ++ store ++ back) ret

theorem bystander_readRetimerfw {retimerNumber : UInt8} :
    Only IsBystander (readRetimerfw b fd retimerNumber) :=
  only_readAttempts (fun _ h => h.isBus.isBystander) (fun _ => trivial) trivial

theorem bystander_cons {c : Call} {a : Answer c} {tr : List SysEvent} (hc : IsBystander c)
    (htr : ∀ ev ∈ tr, IsBystander ev.1) : ∀ ev ∈ (⟨c, a⟩ :: tr : List SysEvent), IsBystander ev.1 :=
  List.forall_mem_cons.mpr ⟨hc, htr⟩

theorem bystander_nil : ∀ ev ∈ ([] : List SysEvent), IsBystander ev.1 :=
  fun _ hev => absurd hev List.not_mem_nil

theorem readWay_of_run {r : Nat} {tr : List SysEvent} {ret : Int32}
    (h : Run (readFirmware b fd dummyfd r) tr ret) : ReadWay b dummyfd tr ret := by
  obtain ⟨truncated, tr₁, rfl, h₁⟩ := run_perform_bind.mp h
  have hfront : ∀ ev ∈ ([⟨.ftruncate dummyfd b.maxFwImageSize, truncated⟩] : List SysEvent),
      IsBystander ev.1 := bystander_cons trivial bystander_nil
  split at h₁
  · obtain ⟨rfl, rfl⟩ := run_ret.mp h₁
    exact .untruncated hfront
  · obtain ⟨load, ret₁, tr₂, rfl, hload, h₂⟩ := run_bind.mp h₁
    have hloadWay := loadWay_of_run hload
    split at h₂
    · obtain ⟨rfl, rfl⟩ := run_ret.mp h₂
      rw [List.append_nil]
      exact .unloaded hfront hloadWay
    · next hret₁ =>
        obtain rfl := not_not.mp hret₁
        obtain ⟨read, ret₂, tr₃, rfl, hread, h₃⟩ := run_bind.mp h₂
        have hreadWay := bystander_readRetimerfw.run hread
        split at h₃
        · obtain ⟨rfl, rfl⟩ := run_ret.mp h₃
          rw [List.append_nil]
          exact .unread hfront hloadWay hreadWay
        · obtain ⟨sought, tr₄, rfl, h₄⟩ := run_perform_bind.mp h₃
          have hmid : ∀ ev ∈ read ++ [⟨.lseek dummyfd 0, sought⟩], IsBystander ev.1 :=
            List.forall_mem_append.mpr ⟨hreadWay, bystander_cons trivial bystander_nil⟩
          split at h₄
          · obtain ⟨rfl, rfl⟩ := run_ret.mp h₄
            exact .unread hfront hloadWay hmid
          · obtain ⟨store, ret₃, tr₅, rfl, hstore, h₅⟩ := run_bind.mp h₄
            have hstoreWay := storeWay_of_run hstore
            have hstored : ∀ {back : List SysEvent} {ret : Int32}, (∀ ev ∈ back, IsBystander ev.1) →
                ReadWay b dummyfd (⟨.ftruncate dummyfd b.maxFwImageSize, truncated⟩ :: (load
                  ++ (read ++ ⟨.lseek dummyfd 0, sought⟩ :: (store ++ back)))) ret := by
              intro back ret hback
              have hway : ReadWay b dummyfd _ ret := .stored hfront hloadWay hmid hstoreWay hback
              simpa using hway
            split at h₅
            · obtain ⟨rfl, rfl⟩ := run_ret.mp h₅
              exact hstored bystander_nil
            · obtain ⟨sought', tr₆, rfl, h₆⟩ := run_perform_bind.mp h₅
              split at h₆
              · obtain ⟨rfl, rfl⟩ := run_ret.mp h₆
                exact hstored (bystander_cons trivial bystander_nil)
              · obtain ⟨rfl, rfl⟩ := run_ret.mp h₆
                exact hstored (bystander_cons trivial bystander_nil)

/-- The file is closed in `seg` exactly on the failures that are listed. -/
def ClosesOn (b : Build) (dummyfd : Int) (seg : List SysEvent) : Prop :=
  (⟨.close dummyfd, ()⟩ ∈ seg ∧ CopyFailure b seg)
    ∨ ((∀ ev ∈ seg, KeepsOpen ev.1) ∧ ¬CopyFailure b seg)

/-- After a load that returned 0 the file is open, its size was accepted, and it was read. -/
theorem LoadWay.of_zero {front load mid : List SysEvent} (h : LoadWay b dummyfd load 0)
    (hfront : ∀ ev ∈ front, IsBystander ev.1) (hmid : ∀ ev ∈ mid, IsBystander ev.1) :
    (∀ ev ∈ front ++ load ++ mid, KeepsOpen ev.1)
      ∧ ∃ size, Tells (front ++ load ++ mid) [size] [true] [] ∧ Loadable b size := by
  cases h with
  | unloadable _ _ _ hret => exact absurd rfl hret
  | unread _ _ hret => exact absurd rfl hret
  | noMemory _ _ _ hret => exact absurd rfl hret
  | read hkeeps htells hsize =>
      refine ⟨?_, _, ((tells_nothing hfront).append htells).append (tells_nothing hmid), hsize⟩
      exact List.forall_mem_append.mpr ⟨List.forall_mem_append.mpr
        ⟨keeps_of_bystanders hfront, hkeeps⟩, keeps_of_bystanders hmid⟩

theorem LoadWay.closesOn {front load : List SysEvent} {ret : Int32}
    (h : LoadWay b dummyfd load ret) (hfront : ∀ ev ∈ front, IsBystander ev.1) :
    ClosesOn b dummyfd (front ++ load) := by
  have hkeepsFront := keeps_of_bystanders hfront
  cases h with
  | unloadable hclose htells hsize _ =>
      refine Or.inl ⟨List.mem_append_right _ hclose, ?_⟩
      rw [((tells_nothing hfront).append htells).copyFailure_iff]
      exact Or.inl ⟨_, rfl, hsize⟩
  | unread hclose htells _ =>
      refine Or.inl ⟨List.mem_append_right _ hclose, ?_⟩
      rw [((tells_nothing hfront).append htells).copyFailure_iff]
      exact Or.inr (Or.inl rfl)
  | noMemory hkeeps htells hsize _ =>
      refine Or.inr ⟨List.forall_mem_append.mpr ⟨hkeepsFront, hkeeps⟩, ?_⟩
      rw [((tells_nothing hfront).append htells).copyFailure_iff]
      simp [hsize]
  | read hkeeps htells hsize =>
      refine Or.inr ⟨List.forall_mem_append.mpr ⟨hkeepsFront, hkeeps⟩, ?_⟩
      rw [((tells_nothing hfront).append htells).copyFailure_iff]
      simp [hsize]

/-- The second copy, behind a first one that was read; `rest` may read the file again. -/
theorem StoreWay.closesOn {front store rest : List SysEvent} {size : Option Nat} {rs : List Bool}
    (h : StoreWay dummyfd store) (hfront : ∀ ev ∈ front, KeepsOpen ev.1)
    (htellsFront : Tells front [size] [true] []) (hsize : Loadable b size)
    (hrest : ∀ ev ∈ rest, KeepsOpen ev.1) (htellsRest : Tells rest [] rs []) :
    ClosesOn b dummyfd (front ++ store ++ rest) := by
  have hclosed : ⟨.close dummyfd, ()⟩ ∈ store → ⟨.close dummyfd, ()⟩ ∈ front ++ store ++ rest :=
    fun hclose => List.mem_append_left _ (List.mem_append_right _ hclose)
  have hkept : (∀ ev ∈ store, KeepsOpen ev.1) → ∀ ev ∈ front ++ store ++ rest, KeepsOpen ev.1 :=
    fun hstore => List.forall_mem_append.mpr ⟨List.forall_mem_append.mpr ⟨hfront, hstore⟩, hrest⟩
  cases h with
  | unstorable hclose htells hbad =>
      refine Or.inl ⟨hclosed hclose, ?_⟩
      rw [((htellsFront.append htells).append htellsRest).copyFailure_iff]
      exact Or.inr (Or.inr (Or.inl ⟨_, rfl, hbad⟩))
  | unwritten hclose htells =>
      refine Or.inl ⟨hclosed hclose, ?_⟩
      rw [((htellsFront.append htells).append htellsRest).copyFailure_iff]
      exact Or.inr (Or.inr (Or.inr rfl))
  | lost hkeeps htells hgood =>
      refine Or.inr ⟨hkept hkeeps, ?_⟩
      rw [((htellsFront.append htells).append htellsRest).copyFailure_iff]
      simp [hsize, hgood]
  | written hkeeps htells hgood =>
      refine Or.inr ⟨hkept hkeeps, ?_⟩
      rw [((htellsFront.append htells).append htellsRest).copyFailure_iff]
      simp [hsize, hgood]

theorem IsHashing.keepsOpen {c : Call} (h : IsHashing c) : KeepsOpen c := by
  cases c with
  | openFile path flags => exact h.elim
  | close fd => exact h.elim
  | _ => trivial

theorem hashFirmware_closesOn {fuel r : Nat} {behind : UInt8} {digests : Digests}
    {res : Option (Int32 × Digests)}
    (h : Run (hashFirmware b fuel behind fd dummyfd r digests) seg res) :
    ClosesOn b dummyfd seg := by
  obtain ⟨tr₁, ret, tr₂, rfl, hread, h₁⟩ := run_bind.mp h
  have hhash : (ret ≠ 0 → tr₂ = []) ∧ ∀ ev ∈ tr₂, IsHashing ev.1 := by
    split at h₁
    · next hret =>
        obtain ⟨rfl, -⟩ := run_ret.mp h₁
        exact ⟨fun _ => rfl, fun ev hev => absurd hev List.not_mem_nil⟩
    · next hret =>
        refine ⟨fun hne => absurd hne hret, ?_⟩
        obtain ⟨tr₃, hash, tr₄, rfl, hcompute, h₂⟩ := run_bind.mp h₁
        have hlast : tr₄ = [] := by
          rcases hash with _ | code | hash
          · exact (run_ret.mp h₂).1
          · exact (run_ret.mp h₂).1
          · exact (run_ret.mp h₂).1
        rw [hlast, List.append_nil]
        exact hashing_computeSha384.run hcompute
  obtain ⟨hnone, hhashing⟩ := hhash
  have hfailure : exitFailure ≠ 0 := by decide
  cases readWay_of_run hread with
  | untruncated hfront =>
      rw [hnone hfailure, List.append_nil]
      exact Or.inr ⟨keeps_of_bystanders hfront, (tells_nothing hfront).not_copyFailure⟩
  | unloaded hfront hload =>
      rw [hnone hfailure, List.append_nil]
      exact hload.closesOn hfront
  | unread hfront hload hmid =>
      rw [hnone hfailure, List.append_nil]
      obtain ⟨hkeeps, size, htells, hsize⟩ := hload.of_zero hfront hmid
      refine Or.inr ⟨hkeeps, ?_⟩
      rw [htells.copyFailure_iff]
      simp [hsize]
  | @stored front load mid store back ret hfront hload hmid hstore hback =>
      obtain ⟨hkeeps, size, htells, hsize⟩ := hload.of_zero hfront hmid
      have hrest : ∀ ev ∈ back ++ tr₂, KeepsOpen ev.1 := List.forall_mem_append.mpr
        ⟨keeps_of_bystanders hback, fun ev hev => (hhashing ev hev).keepsOpen⟩
      rw [List.append_assoc]
      exact hstore.closesOn hkeeps htells hsize hrest
        ((tells_nothing hback).append (tells_hashing hhashing))

theorem bystander_hashDirectory : Only IsBystander hashDirectory :=
  (only_perform.mpr trivial).bind fun _ => Only.ite trivial (only_perform.mpr trivial)

theorem descriptors_ne {fds fds' : List Int} {rest : List SysEvent}
    (hdir : ∀ ev ∈ dir, KeepsOpen ev.1) (hfd : ¬fd < 0) (hdummyfd : ¬dummyfd < 0)
    (h : Follows descriptors fds (openDevice b fd
      :: (dir ++ ⟨.openFile hashFile .rdwrCreat, dummyfd⟩ :: rest)) fds') : dummyfd ≠ fd := by
  obtain ⟨fds₁, hopen, hrest⟩ := h
  obtain ⟨fds₂, hfollows, fds₃, hopen', -⟩ := follows_append.mp hrest
  simp only [descriptors, openDevice, if_neg hfd] at hopen
  simp only [descriptors, if_neg hdummyfd] at hopen'
  have hmem : fd ∈ fds₂ := by
    refine Follows.invariant (I := fun fds => fd ∈ fds) ?_ hfollows hdir ?_
    · rintro fds ⟨c, a⟩ fds' hmem hkeeps hstep
      cases c with
      | openFile path flags => exact hkeeps.elim
      | close fd => exact hkeeps.elim
      | _ => exact hstep ▸ hmem
    · rw [hopen.2]
      exact List.mem_cons_self
  rintro rfl
  exact hopen'.1 hmem

theorem tells_request {rest : List SysEvent} {ss : List (Option Nat)} {rs ws : List Bool}
    (hdir : ∀ ev ∈ dir, IsBystander ev.1) (hrest : Tells rest ss rs ws) :
    Tells (openDevice b fd :: (dir ++ ⟨.openFile hashFile .rdwrCreat, dummyfd⟩ :: rest))
      ss rs ws := by
  have hdevice : Tells [openDevice b fd] [] [] [] := ⟨rfl, rfl, rfl⟩
  have hfile : Tells [⟨.openFile hashFile .rdwrCreat, dummyfd⟩] [] [] [] := ⟨rfl, rfl, rfl⟩
  exact hdevice.append ((tells_nothing hdir).append (hfile.append hrest))

end Request

/-- Every descriptor is closed once, and not used after that, unless one of the
two copies fails in a way in which it closes the file itself. The condition is
on the kernel's answers about sizes, reads and writes, and on nothing that was
closed. -/
theorem readFWImagenComputeHash_closedOnce_iff (b : Build) (fuel : Nat) (behind : UInt8) (r : Nat)
    (digests digests' : Digests) (tr : List SysEvent) (ret : Int32) (fds fds' : List Int)
    (hrun : Run (readFWImagenComputeHash b fuel behind r digests) tr (some (ret, digests')))
    (hfds : Follows descriptors fds tr fds') : ClosedOnce tr ↔ ¬CopyFailure b tr := by
  cases hashRun_of_run hrun with
  | @noDevice fd hfd =>
      have hopened : ClosedOnce [openDevice b fd, ⟨.close fd, ()⟩] :=
        ⟨fun hopen => absurd hopen (Int.not_le.mpr hfd), closedOnce_close⟩
      have htells : Tells [openDevice b fd, ⟨.close fd, ()⟩] [] [] [] := ⟨rfl, rfl, rfl⟩
      exact iff_of_true hopened htells.not_copyFailure
  | @noDirectory fd dir hfd hdir =>
      have hby := bystander_hashDirectory.run hdir
      have hkeeps := keeps_of_bystanders hby
      have hdevice : Tells [openDevice b fd] [] [] [] := ⟨rfl, rfl, rfl⟩
      have hlast : Tells [⟨.close fd, ()⟩] [] [] [] := ⟨rfl, rfl, rfl⟩
      have htells := hdevice.append ((tells_nothing hby).append hlast)
      refine iff_of_true ⟨fun _ => ?_, ?_⟩ htells.not_copyFailure
      · rw [closes_append, closes_of_keeps hkeeps]
        simp [closes]
      · exact (closedOnce_append_of_keeps hkeeps).mpr closedOnce_close
  | @noFile fd dummyfd dir rest hfd hdir hdummyfd hrest =>
      have hby := bystander_hashDirectory.run hdir
      have hkeeps := keeps_of_bystanders hby
      have hne : dummyfd ≠ fd := by omega
      have hfailed : ¬0 ≤ dummyfd := Int.not_le.mpr hdummyfd
      rcases hrest with rfl | ⟨deleted, rfl⟩
      · refine iff_of_true (closedOnce_request hkeeps ?_ (fun hopen => absurd hopen hfailed)
          closedOnce_close) (tells_request hby ⟨rfl, rfl, rfl⟩).not_copyFailure
        simp [closes]
      · have hclean : ClosedOnce (cleanUp fd dummyfd deleted) :=
          ⟨trivial, fun hopen => absurd hopen hfailed, closedOnce_close⟩
        refine iff_of_true (closedOnce_request hkeeps ?_ (fun hopen => absurd hopen hfailed) hclean)
          (tells_request hby ⟨rfl, rfl, rfl⟩).not_copyFailure
        simp [closes, cleanUp, hne]
  | @opened fd dummyfd dir seg ret deleted digests' hfd hdir hdummyfd hhash =>
      have hby := bystander_hashDirectory.run hdir
      have hkeeps := keeps_of_bystanders hby
      have hseg : Tells seg (sizes seg) (reads seg) (writes seg) := ⟨rfl, rfl, rfl⟩
      have hclean : Tells (cleanUp fd dummyfd deleted) [] [] [] := ⟨rfl, rfl, rfl⟩
      have hsame : CopyFailure b (openDevice b fd :: (dir
          ++ ⟨.openFile hashFile .rdwrCreat, dummyfd⟩ :: (seg ++ cleanUp fd dummyfd deleted)))
          ↔ CopyFailure b seg := by
        rw [(tells_request hby (hseg.append hclean)).copyFailure_iff, CopyFailure, List.append_nil,
          List.append_nil, List.append_nil]
      rw [hsame]
      rcases hashFirmware_closesOn hhash with ⟨hclosed, hfailure⟩ | ⟨hopen, hfailure⟩
      · exact iff_of_false (not_closedOnce_of_closed hdummyfd hclosed) (not_not_intro hfailure)
      · exact iff_of_true
          (closedOnce_of_keeps (descriptors_ne hkeeps hfd hdummyfd hfds) hkeeps hopen) hfailure

/-! ## A size that cannot be had -/

section Unsized

/-- The first `fstat` fails. -/
def unsizedRequest (b : Build) : List SysEvent :=
  [openDevice b 3, ⟨.access "/tmp/hash", true⟩, ⟨.openFile hashFile .rdwrCreat, (4 : Int)⟩,
    ⟨.ftruncate 4 b.maxFwImageSize, true⟩, ⟨.fstat 4, none⟩, ⟨.close 4, ()⟩,
    ⟨.unlink hashFile, true⟩, ⟨.close 4, ()⟩, ⟨.close 3, ()⟩]

theorem run_unsizedRequest (b : Build) : Run (readFWImagenComputeHash b 0 0 0 initialDigests)
    (unsizedRequest b) (some (exitFailure, initialDigests)) :=
  .cons (.cons (.cons (.cons (.cons (.cons (.cons (.cons (.cons .nil))))))))

theorem follows_unsizedRequest (b : Build) : Follows descriptors [] (unsizedRequest b) [] := by
  simp [unsizedRequest, openDevice, descriptors]

theorem readFWImagenComputeHash_closedOnce_iff_unsized :
    ClosedOnce (unsizedRequest defaultBuild)
      ↔ ¬CopyFailure defaultBuild (unsizedRequest defaultBuild) :=
  readFWImagenComputeHash_closedOnce_iff _ _ _ _ _ _ _ _ _ _ (run_unsizedRequest _)
    (follows_unsizedRequest _)

/-- The file is closed by the copy, and again at the end. -/
theorem readFWImagenComputeHash_closes_twice :
    ¬∀ (b : Build) (fuel : Nat) (behind : UInt8) (r : Nat) (digests digests' : Digests)
      (tr : List SysEvent) (ret : Int32) (fds fds' : List Int),
      Run (readFWImagenComputeHash b fuel behind r digests) tr (some (ret, digests')) →
      Follows descriptors fds tr fds' → ClosedOnce tr := by
  intro h
  obtain ⟨-, -, ⟨hfile, -⟩⟩ := h _ _ _ _ _ _ _ _ _ _ (run_unsizedRequest defaultBuild)
    (follows_unsizedRequest defaultBuild)
  have hone := hfile (by decide)
  simp [closes] at hone

end Unsized

end Retimer
