import Retimer.PublishedHash
import Retimer.UpdateMain

/-!
# The blank file of the read command

The file whose zeros are to clear the DPRAM is also the one that
firmware is read into, and it is still there when the tool is called
again: opened without truncation, and cut to the length it has. So the
DPRAM is blank before a read for as long as no run has stored firmware
in the file.

The system here outlives the processes: `ReadRuns` is a sequence of
calls with the read command, each of which finds the FPGA and the file
as the last one left them, and has returned or crashed (`Over`). The
invariant from call to call is `TempFile.Blank`: there is no file, or
nothing but zeros in it.

A call keeps it if it stores nothing or reads nothing but blank pages
(`LeavesBlank`). That a program which gets zeros writes zeros is a
weakest precondition with the demand on every write (`WritesBlank`), in
the environment in which pages are blank: `blank_readPages`,
`blank_copyImageFromFpga`, `blank_readCommand`, `blank_main`.
`TempFile.Blank.step` is then a matter of the file alone.

The other half is about the one call: `main_trigger_read` finds what has
happened before its first trigger, and `blankAtRead_of_blank` that the
copy of a blank file has cleared the DPRAM by then, if no read was under
way that could still deliver something.
-/

namespace Retimer

open Interaction Interaction.Prog

def dummyFile : String := "/tmp/Dummyfile"

/-- The FPGA and the file of the read command. -/
abbrev readEnv (b : Build) : Env Call Answer (ReadEngine × TempFile) :=
  (ReadEngine.step b).prod (TempFile.step dummyFile)

/-- A process that is over: it has returned, or crashed. -/
inductive Over {α : Type} : Sys α → Prop where
  | returned {a : α} : Over (.ret a)
  | crashed {k : Empty → Sys α} : Over (.ask .segfault k)

/-- One call of the tool: the system it found, and what it did. -/
structure ReadRun where
  start : ReadEngine × TempFile
  events : List SysEvent

/-- Calls with the read command, one after the other. -/
inductive ReadRuns (b : Build) (fuel : Nat) :
    ReadEngine × TempFile → List ReadRun → ReadEngine × TempFile → Prop where
  | nil {s : ReadEngine × TempFile} : ReadRuns b fuel s [] s
  | cons {s s₁ s' : ReadEngine × TempFile} {runs : List ReadRun} {argv : List (List UInt8)}
      {args : Arguments} {events : List SysEvent} {q : Sys (Option Int32)}
      (hargs : checkArguments b fuel argv = some (.ok args))
      (hcommand : args.command = retimerFwRead)
      (htrace : Trace (main b fuel argv) events q) (hover : Over q)
      (henv : Follows (readEnv b) s events s₁) (hrest : ReadRuns b fuel s₁ runs s') :
      ReadRuns b fuel s (⟨s, events⟩ :: runs) s'

/-- Wherever the call comes to its first trigger, and so to `readRetimerfw`,
the DPRAM is zero as far as an image reaches. -/
def BlankAtRead (b : Build) (r : ReadRun) : Prop :=
  ∀ (pre post : List SysEvent) (ev : SysEvent) (s : ReadEngine × TempFile),
    r.events = pre ++ ev :: post → (∀ e ∈ pre, StartsNoRead e.1) → ¬StartsNoRead ev.1 →
    Follows (readEnv b) r.start pre s →
    s.1.mem.load 0 b.maxFwImageSize = List.replicate b.maxFwImageSize 0

/-! ## What is stored -/

/-- A page that was read from the FPGA is blank. -/
def BlankPage : SysEvent → Prop
  | ⟨.i2cRead _ _ _ n, .ok readData⟩ => n = bytePerPage → ∀ x ∈ readData.toList, x = 0
  | _ => True

instance : DecidablePred BlankPage
  | ⟨.i2cRead _ _ _ n, .ok readData⟩ =>
      inferInstanceAs (Decidable (n = bytePerPage → ∀ x ∈ readData.toList, x = 0))
  | ⟨.i2cRead _ _ _ _, .failed _⟩ => isTrue trivial
  | ⟨.i2cWrite _ _ _, _⟩ | ⟨.emitLogMessage _, _⟩ | ⟨.performing _, _⟩ | ⟨.openFile _ _, _⟩
  | ⟨.close _, _⟩ | ⟨.fstat _, _⟩ | ⟨.ftruncate _ _, _⟩ | ⟨.mmap _ _, _⟩ | ⟨.calloc, _⟩
  | ⟨.malloc _, _⟩ | ⟨.segfault, _⟩ | ⟨.read _ _, _⟩ | ⟨.write _ _, _⟩ | ⟨.lseek _ _, _⟩
  | ⟨.access _, _⟩ | ⟨.mkdir _, _⟩ | ⟨.unlink _, _⟩ | ⟨.evpMdCtxNew, _⟩ | ⟨.evpDigestInit, _⟩
  | ⟨.evpDigestUpdate _, _⟩ | ⟨.evpDigestFinal, _⟩ | ⟨.evpMdCtxFree, _⟩ | ⟨.sdBusMessageRead, _⟩
  | ⟨.sdBusReplyMethodReturn, _⟩ | ⟨.sdBusReplyInvalidArgument, _⟩
  | ⟨.sdBusEmitPropertiesChanged _, _⟩ => isTrue trivial

/-- Only zeros are written to files. -/
def WritesBlank : Call → Prop
  | .write _ buf => ∀ x ∈ buf, x = 0
  | _ => True

/-- An environment in which every page is blank. -/
def BlankPage.env : Env Call Answer Unit := fun _ ev _ => BlankPage ev

theorem BlankPage.follows {tr : List SysEvent} (h : ∀ ev ∈ tr, BlankPage ev) :
    Follows BlankPage.env () tr () := by
  induction tr with
  | nil => rfl
  | cons ev tr ih =>
      obtain ⟨hev, hrest⟩ := List.forall_mem_cons.mp h
      exact ⟨(), hev, ih hrest⟩

theorem IsLoading.writesBlank {c : Call} (h : IsLoading c) : WritesBlank c := by
  cases c with
  | write fd buf => exact h.elim
  | _ => trivial

theorem IsGeneric.writesBlank {c : Call} (h : IsGeneric c) : WritesBlank c := by
  cases c with
  | write fd buf => exact h.elim
  | _ => trivial

section Stored

variable {b : Build} {fd dummyfd : Int} {slaveId : UInt8} {α : Type}

/-- What writes only zeros in any environment does so in this one. The demand is
on the requests alone. -/
theorem blank_of_only {p : Sys α} (hp : Only WritesBlank p) :
    wp BlankPage.env (fun _ ev => WritesBlank ev.1) p (fun _ _ => True) () :=
  wp_of_only (I := fun _ => True) hp (fun _ _ _ _ hc _ _ => ⟨hc, trivial⟩) trivial

theorem blank_perform {c : Call} (hc : WritesBlank c) :
    wp BlankPage.env (fun _ ev => WritesBlank ev.1) (Sys.request c) (fun _ _ => True) () :=
  fun _ _ _ => ⟨hc, trivial⟩

theorem blank_close {a : α} : wp BlankPage.env (fun _ ev => WritesBlank ev.1)
    (Sys.close dummyfd >>= fun _ => (pure a : Sys α)) (fun _ _ => True) () :=
  fun _ _ _ => ⟨trivial, trivial⟩

theorem blank_sendI2cCmdRead {writeData : List UInt8} :
    wp BlankPage.env (fun _ ev => WritesBlank ev.1)
      (sendI2cCmdRead b fd slaveId writeData bytePerPage)
      (fun res _ => ∀ x ∈ res.2.toList, x = 0) () := by
  intro answer _ hblank
  refine ⟨trivial, ?_⟩
  cases answer with
  | ok readData => exact hblank rfl
  | failed errno =>
      intro _ _ _
      refine ⟨trivial, fun x hx => ?_⟩
      exact List.eq_of_mem_replicate (by simpa using hx)

theorem blank_readPages {count i : Nat} :
    wp BlankPage.env (fun _ ev => WritesBlank ev.1) (readPages b fd slaveId count i)
      (fun res _ => ∀ pages, res = .ok pages → ∀ x ∈ pages, x = 0) () := by
  induction count generalizing i with
  | zero =>
      intro pages hres x hx
      cases hres
      cases hx
  | succ count ih =>
      unfold readPages
      refine wp_bind.mpr (wp_mono blank_sendI2cCmdRead (fun _ _ h => h) ?_)
      rintro ⟨ret, readBuffer⟩ _ hpage
      dsimp only
      split
      · intro pages hres
        cases hres
      · refine wp_bind.mpr (wp_mono ih (fun _ _ h => h) fun res _ hrest => ?_)
        cases res with
        | error ret =>
            intro pages hres
            cases hres
        | ok rest =>
            intro pages hres x hx
            cases hres
            rcases List.mem_append.mp hx with hx | hx
            · exact hpage x hx
            · exact hrest rest rfl x hx

/-- Of blank pages a blank file is made. -/
theorem blank_copyImageFromFpga : wp BlankPage.env (fun _ ev => WritesBlank ev.1)
    (copyImageFromFpga b dummyfd fd slaveId) (fun _ _ => True) () := by
  unfold copyImageFromFpga
  refine wp_bind.mpr (wp_mono (blank_perform trivial) (fun _ _ h => h) fun size _ _ => ?_)
  cases size with
  | none => exact blank_close
  | some size =>
      dsimp only
      split
      · exact blank_close
      · refine wp_bind.mpr (wp_mono (blank_perform trivial) (fun _ _ h => h) fun fwBuf _ _ => ?_)
        cases fwBuf with
        | none =>
            intro crash
            cases crash
        | some fwBuf =>
            refine wp_bind.mpr (wp_mono blank_readPages (fun _ _ h => h) fun res _ hpages => ?_)
            cases res with
            | error ret => trivial
            | ok pages =>
                have hbuf : WritesBlank
                    (.write dummyfd (pages ++ List.replicate (size - pages.length) 0)) := by
                  intro x hx
                  rcases List.mem_append.mp hx with hx | hx
                  · exact hpages pages rfl x hx
                  · exact List.eq_of_mem_replicate hx
                refine wp_bind.mpr (wp_mono (blank_perform trivial) (fun _ _ h => h)
                  fun _ _ _ => ?_)
                refine wp_bind.mpr (wp_mono (blank_perform hbuf) (fun _ _ h => h)
                  fun written _ _ => ?_)
                cases written with
                | none => exact blank_close
                | some n => trivial

/-- Where every page that is read is blank, the read command writes only
zeros. -/
theorem blank_readCommand {args : Arguments} : wp BlankPage.env (fun _ ev => WritesBlank ev.1)
    (readCommand b fd args) (fun _ _ => True) () := by
  unfold readCommand
  refine wp_bind.mpr (wp_mono (blank_perform trivial) (fun _ _ h => h) fun dummyfd _ _ => ?_)
  split
  · trivial
  · refine wp_bind.mpr (wp_mono (blank_perform trivial) (fun _ _ h => h) fun truncated _ _ => ?_)
    split
    · exact blank_close
    · refine wp_bind.mpr (wp_mono (blank_of_only (only_loading.mono fun _ => IsLoading.writesBlank))
        (fun _ _ h => h) fun ret _ _ => ?_)
      split
      · trivial
      · refine wp_bind.mpr (wp_mono (blank_of_only (only_readAttempts
          (fun _ => IsGeneric.writesBlank) (fun _ => trivial) trivial))
          (fun _ _ h => h) fun ret _ _ => ?_)
        split
        · trivial
        · refine wp_bind.mpr (wp_mono (blank_perform trivial) (fun _ _ h => h) fun _ _ _ => ?_)
          refine wp_bind.mpr (wp_mono blank_copyImageFromFpga (fun _ _ h => h) fun ret _ _ => ?_)
          split
          · trivial
          · exact blank_close

theorem blank_main {fuel : Nat} {argv : List (List UInt8)} {args : Arguments}
    (hargs : checkArguments b fuel argv = some (.ok args))
    (hcommand : args.command = retimerFwRead) :
    wp BlankPage.env (fun _ ev => WritesBlank ev.1) (main b fuel argv) (fun _ _ => True) () := by
  have hclose : ∀ fd : Int, Only WritesBlank (closeUnless fd) :=
    fun fd => Only.ite (only_perform.mpr trivial) trivial
  unfold main
  rw [hargs]
  refine wp_bind.mpr (wp_mono (blank_perform trivial) (fun _ _ h => h) fun fd _ _ => ?_)
  split
  · exact blank_of_only ((hclose fd).bind fun _ => trivial)
  · refine wp_bind.mpr (wp_mono (Q := fun _ _ => True) ?_ (fun _ _ h => h) fun res _ _ => ?_)
    · unfold runCommand
      rw [hcommand, if_neg (by decide), if_pos rfl]
      exact wp_bind.mpr (wp_mono blank_readCommand (fun _ _ h => h) fun _ _ _ => trivial)
    · exact blank_of_only ((hclose fd).bind fun _ => (hclose res.2.1).bind fun _ =>
        (hclose res.2.2).bind fun _ => trivial)

/-- All that a call writes is blank if all that it reads from the FPGA is. -/
theorem writesBlank_of_blankPages {fuel : Nat} {argv : List (List UInt8)} {args : Arguments}
    {tr : List SysEvent} {q : Sys (Option Int32)}
    (hargs : checkArguments b fuel argv = some (.ok args)) (hcommand : args.command = retimerFwRead)
    (h : Trace (main b fuel argv) tr q) (hblank : ∀ ev ∈ tr, BlankPage ev) :
    ∀ ev ∈ tr, WritesBlank ev.1 := by
  intro ev hev
  obtain ⟨pre, post, rfl⟩ := List.append_of_mem hev
  rw [List.append_cons] at h
  obtain ⟨p, hpre, -⟩ := trace_append.mp h
  have hpages : ∀ e ∈ pre, BlankPage e := fun e he => hblank e (List.mem_append_left _ he)
  have hstep : BlankPage.env () ev () := hblank ev hev
  exact wp_event (blank_main hargs hcommand) hpre (BlankPage.follows hpages) hstep

end Stored

/-! ## The file from call to call -/

/-- There is no file, or nothing but zeros in it. -/
def TempFile.Blank (f : TempFile) : Prop := f.named = true → ∀ x ∈ f.contents, x = 0

def StoresBlank : SysEvent → Prop
  | ⟨.write _ buf, some n⟩ => ∀ x ∈ buf.take n.val, x = 0
  | _ => True

/-- The call stored nothing, or read nothing but blank pages to be stored. -/
def LeavesBlank (r : ReadRun) : Prop :=
  (∀ (fd : Int) (buf : List UInt8) (n : Fin (buf.length + 1)),
      (⟨.write fd buf, some n⟩ : SysEvent) ∈ r.events → n.val = 0)
    ∨ ∀ ev ∈ r.events, BlankPage ev

section Blank

variable {b : Build} {path : String} {f f' : TempFile} {ev : SysEvent} {tr : List SysEvent}

theorem mem_overwrite {m bs : List UInt8} {a : Nat} {x : UInt8} (hx : x ∈ overwrite m a bs) :
    x ∈ m ∨ x ∈ bs := by
  rw [overwrite] at hx
  rcases List.mem_append.mp hx with hx | hx
  · rcases List.mem_append.mp hx with hx | hx
    · exact Or.inl (List.mem_of_mem_take hx)
    · exact Or.inr hx
  · exact Or.inl (List.mem_of_mem_drop hx)

theorem TempFile.Blank.step (h : f.Blank) (hstep : TempFile.step path f ev f')
    (hstores : StoresBlank ev) : f'.Blank := by
  cases TempFile.effect_of_step hstep with
  | moved offset => exact h
  | opened =>
      intro _ x hx
      dsimp only at hx
      split at hx
      · next hnamed => exact h hnamed x hx
      · cases hx
  | unlinked =>
      intro hnamed
      cases hnamed
  | truncated =>
      intro hnamed x hx
      rcases List.mem_append.mp hx with hx | hx
      · exact h hnamed x (List.mem_of_mem_take hx)
      · exact List.eq_of_mem_replicate hx
  | written =>
      intro hnamed x hx
      rcases mem_overwrite hx with hx | hx
      · rcases List.mem_append.mp hx with hx | hx
        · exact h hnamed x hx
        · exact List.eq_of_mem_replicate hx
      · exact hstores x hx

theorem TempFile.Blank.follows (h : f.Blank) (hfile : Follows (TempFile.step path) f tr f')
    (hstores : ∀ ev ∈ tr, StoresBlank ev) : f'.Blank :=
  Follows.invariant (fun _ _ _ hblank hev hstep => hblank.step hstep hev) hfile hstores h

theorem LeavesBlank.stores {s : ReadEngine × TempFile} {fuel : Nat} {argv : List (List UInt8)}
    {args : Arguments} {q : Sys (Option Int32)} (h : LeavesBlank ⟨s, tr⟩)
    (hargs : checkArguments b fuel argv = some (.ok args)) (hcommand : args.command = retimerFwRead)
    (htrace : Trace (main b fuel argv) tr q) : ∀ ev ∈ tr, StoresBlank ev := by
  intro ev hev
  obtain ⟨c, a⟩ := ev
  cases c with
  | write fd buf =>
      cases a with
      | none => trivial
      | some n =>
          intro x hx
          rcases h with hnothing | hblank
          · rw [hnothing fd buf n hev] at hx
            cases hx
          · exact writesBlank_of_blankPages hargs hcommand htrace hblank _ hev x
              (List.mem_of_mem_take hx)
  | _ => trivial

end Blank

/-! ## The DPRAM at the read -/

section AtRead

variable {b : Build} {fuel : Nat} {fd : Int} {args : Arguments} {pre : List SysEvent}
    {ev : SysEvent}
  {α : Type}

theorem trace_before_trigger {c : Call} {k : Answer c → Sys α} {q : Sys α}
    (hev : ¬StartsNoRead ev.1)
    (h : Trace (Sys.request c >>= k) (pre ++ [ev]) q) (hc : StartsNoRead c) :
    ∃ a pre', pre = ⟨c, a⟩ :: pre' ∧ Trace (k a) (pre' ++ [ev]) q := by
  obtain ⟨pre₁, a, pre₂, rfl, hrun, hrest⟩ :=
    trace_bind_marked (P := StartsNoRead) (only_perform.mpr hc) hev h
  obtain rfl := run_perform.mp hrun
  exact ⟨a, pre₂, rfl, hrest⟩

/-- A read starts with its trigger. -/
theorem first_of_readRetimerfw {retimerNumber : UInt8} {k : Int32 → Sys α} {q : Sys α}
    (h : Trace (readRetimerfw b fd retimerNumber >>= k) (pre ++ [ev]) q)
    (hpre : ∀ e ∈ pre, StartsNoRead e.1) : pre = [] := by
  cases pre with
  | nil => rfl
  | cons e pre =>
      refine absurd (hpre e List.mem_cons_self) ?_
      rcases trace_ask.mp h with ⟨hnil, -⟩ | ⟨answer, tr', heq, -⟩
      · cases hnil
      · obtain ⟨rfl, -⟩ := List.cons.inj heq
        exact not_not.mpr rfl

/-- The way to the trigger: the file is opened, cut to length and loaded into
the FPGA. -/
theorem readCommand_trigger {q : Sys (Int32 × Int)}
    (h : Trace (readCommand b fd args) (pre ++ [ev]) q) (hpre : ∀ e ∈ pre, StartsNoRead e.1)
    (hev : ¬StartsNoRead ev.1) : ∃ dummyfd seg, 0 ≤ dummyfd
      ∧ pre = ⟨.openFile dummyFile .rdwrCreat, dummyfd⟩
        :: ⟨.ftruncate dummyfd b.maxFwImageSize, true⟩ :: seg
      ∧ Run (copyImageFromFileToFpga b dummyfd fd b.fpgaI2cCntrlAddr) seg 0 := by
  have hreturned : ∀ {pre : List SysEvent} {ret : Int32 × Int},
      ¬Trace (pure ret : Sys (Int32 × Int)) (pre ++ [ev]) q := by
    intro pre ret h
    exact absurd (trace_ret.mp h).1 (by simp)
  unfold readCommand at h
  obtain ⟨dummyfd, pre₁, rfl, h₁⟩ := trace_before_trigger hev h trivial
  split at h₁
  · exact absurd h₁ hreturned
  · next hdummyfd =>
      obtain ⟨truncated, pre₂, rfl, h₂⟩ := trace_before_trigger hev h₁ trivial
      split at h₂
      · obtain ⟨_, pre₃, rfl, h₃⟩ := trace_before_trigger hev h₂ trivial
        exact absurd h₃ hreturned
      · next htruncated =>
          obtain rfl := Bool.of_not_eq_false htruncated
          obtain ⟨seg, ret, pre₃, rfl, hload, h₃⟩ := trace_bind_marked
            (only_loading.mono fun _ => IsLoading.startsNoRead) hev h₂
          split at h₃
          · exact absurd h₃ hreturned
          · next hret =>
              obtain rfl := not_not.mp hret
              obtain rfl := first_of_readRetimerfw h₃ fun e he => hpre e (by simp [he])
              rw [List.append_nil]
              exact ⟨dummyfd, seg, Int.not_lt.mp hdummyfd, rfl, hload⟩

theorem main_trigger_read {argv : List (List UInt8)} {q : Sys (Option Int32)}
    (hargs : checkArguments b fuel argv = some (.ok args)) (hcommand : args.command = retimerFwRead)
    (h : Trace (main b fuel argv) (pre ++ [ev]) q) (hpre : ∀ e ∈ pre, StartsNoRead e.1)
    (hev : ¬StartsNoRead ev.1) : ∃ fd dummyfd seg, 0 ≤ dummyfd
      ∧ pre = ⟨.openFile ("/dev/i2c-" ++ toString args.bus) .rdwrNonblock, fd⟩
        :: ⟨.openFile dummyFile .rdwrCreat, dummyfd⟩
        :: ⟨.ftruncate dummyfd b.maxFwImageSize, true⟩ :: seg
      ∧ Run (copyImageFromFileToFpga b dummyfd fd b.fpgaI2cCntrlAddr) seg 0 := by
  have hclose : ∀ fd : Int, Only StartsNoRead (closeUnless fd) :=
    fun fd => Only.ite (only_perform.mpr trivial) trivial
  unfold main at h
  rw [hargs] at h
  obtain ⟨fd, pre₁, rfl, h₁⟩ := trace_before_trigger hev h trivial
  split at h₁
  · obtain ⟨_, _, pre₂, rfl, -, h₂⟩ := trace_bind_marked (hclose fd) hev h₁
    exact absurd (trace_ret.mp h₂).1 (by simp)
  · have hclosing : ∀ res : Int32 × Int × Int, Only StartsNoRead (do
        closeUnless fd
        closeUnless res.2.1
        closeUnless res.2.2
        return some res.1) := fun res =>
      (hclose fd).bind fun _ => (hclose res.2.1).bind fun _ =>
        (hclose res.2.2).bind fun _ => trivial
    obtain ⟨q₁, h₂⟩ := trace_bind_unmarked hclosing hev h₁
    unfold runCommand at h₂
    rw [hcommand, if_neg (by decide), if_pos rfl] at h₂
    have hpacking : ∀ res : Int32 × Int, Only StartsNoRead
        (return (res.1, -1, res.2) : Sys (Int32 × Int × Int)) := fun _ => trivial
    obtain ⟨q₂, h₃⟩ := trace_bind_unmarked hpacking hev h₂
    obtain ⟨dummyfd, seg, hdummyfd, rfl, hload⟩ :=
      readCommand_trigger h₃ (fun e he => hpre e (List.mem_cons_of_mem _ he)) hev
    exact ⟨fd, dummyfd, seg, hdummyfd, rfl, hload⟩

/-- A call that finds a blank file, and no read under way. -/
theorem blankAtRead_of_blank {argv : List (List UInt8)} {q : Sys (Option Int32)} {r : ReadRun}
    (hargs : checkArguments b fuel argv = some (.ok args)) (hcommand : args.command = retimerFwRead)
    (htrace : Trace (main b fuel argv) r.events q) (hblank : r.start.2.Blank)
    (hidle : r.start.1.reading = none) (hwhole : ∀ ev ∈ r.events, ReadsWhole ev) :
    BlankAtRead b r := by
  intro pre post ev s hevents hpre hev henv
  rw [hevents, List.append_cons] at htrace
  obtain ⟨p, htrace', -⟩ := trace_append.mp htrace
  obtain ⟨fd, dummyfd, seg, hdummyfd, rfl, hload⟩ :=
    main_trigger_read hargs hcommand htrace' hpre hev
  obtain ⟨hfpga, -, -⟩ := ReadEngine.follows_idle henv.left hidle hpre
  obtain ⟨m₁, -, m₂, -, m₃, -, hfpga₃⟩ := hfpga
  obtain ⟨f₁, hf₁, f₂, hf₂, f₃, hf₃, hfile₃⟩ := henv.right
  have hblank₁ : f₁.Blank := hblank.step hf₁ trivial
  have hblank₂ : f₂.Blank := hblank₁.step hf₂ trivial
  have hblank₃ : f₃.Blank := hblank₂.step hf₃ trivial
  have hopened : f₂ = ⟨true, dummyfd, if f₁.named then f₁.contents else [], 0⟩ :=
    hf₂.trans (if_pos ⟨rfl, hdummyfd⟩)
  have hcut : f₃ = f₂.truncate b.maxFwImageSize := by
    refine hf₃.trans (if_pos ?_)
    rw [hopened]
  have hfd : f₃.fd = dummyfd := by rw [hcut, hopened]; rfl
  have hnamed : f₃.named = true := by rw [hcut, hopened]; rfl
  have hoffset : f₃.offset = 0 := by rw [hcut, hopened]; rfl
  have hlength : f₃.contents.length = b.maxFwImageSize := by
    rw [hcut, TempFile.length_truncate]
  have hzero : f₃.contents = List.replicate b.maxFwImageSize 0 :=
    List.eq_replicate_iff.mpr ⟨hlength, hblank₃ hnamed⟩
  rw [← hfd] at hload
  have hseg : ∀ e ∈ seg, ReadsWhole e := fun e he => hwhole e (by rw [hevents]; simp [he])
  have hloaded := run_copyImageFromFileToFpga hload hfpga₃ hfile₃ hseg hoffset
  have himage := hloaded.image
  rwa [hlength, hzero] at himage

end AtRead

/-- **Blank reads.** From a system without the file on, the DPRAM is blank at
the read of every call that finds no read under way and reads its file in full,
if no call before it has stored firmware in the file. The number of calls is
arbitrary, and so is what the calls before were answered. -/
theorem readRuns_blank (b : Build) (fuel : Nat) (s s' : ReadEngine × TempFile)
    (before after : List ReadRun) (r : ReadRun)
    (h : ReadRuns b fuel s (before ++ r :: after) s') (habsent : s.2.named = false)
    (hbefore : ∀ r' ∈ before, LeavesBlank r') (hidle : r.start.1.reading = none)
    (hwhole : ∀ ev ∈ r.events, ReadsWhole ev) : BlankAtRead b r := by
  have hblank : s.2.Blank := fun hnamed => absurd (habsent.symm.trans hnamed) (by simp)
  clear habsent
  induction before generalizing s with
  | nil =>
      cases h with
      | cons hargs hcommand htrace hover henv hrest =>
          exact blankAtRead_of_blank hargs hcommand htrace hblank hidle hwhole
  | cons r' before ih =>
      cases h with
      | cons hargs hcommand htrace hover henv hrest =>
          obtain ⟨hleaves, hbefore'⟩ := List.forall_mem_cons.mp hbefore
          have hstores := hleaves.stores hargs hcommand htrace
          exact ih _ hrest hbefore' (hblank.follows henv.right hstores)

/-! ## A retimer that is read twice -/

section Small

instance : DecidablePred StartsNoRead
  | .i2cWrite _ _ writeData => inferInstanceAs (Decidable (addressOf writeData ≠ _))
  | .i2cRead _ _ _ _ | .emitLogMessage _ | .performing _ | .openFile _ _ | .close _ | .fstat _
  | .ftruncate _ _ | .mmap _ _ | .calloc | .malloc _ | .segfault | .read _ _ | .write _ _
  | .lseek _ _ | .access _ | .mkdir _ | .unlink _ | .evpMdCtxNew | .evpDigestInit
  | .evpDigestUpdate _ | .evpDigestFinal | .evpMdCtxFree | .sdBusMessageRead
  | .sdBusReplyMethodReturn | .sdBusReplyInvalidArgument | .sdBusEmitPropertiesChanged _ =>
      isTrue trivial

def readArgv : List (List UInt8) := [[], [0x33], [0x31], [0x66], [0x31]]

def readReply (b : Build) (nacks : Bool) : ReadEngine × TempFile → (c : Call) →
    Option (Answer c × ReadEngine × TempFile)
  | (g, f), .openFile p _ =>
      if p = dummyFile then
        some (5, g, ⟨true, 5, if f.named then f.contents else [], 0⟩)
      else some (3, g, f)
  | _, .unlink _ => none
  | (g, f), c => (serviceReply b nacks (g, f, []) c).map fun res => (res.1, res.2.1, res.2.2.1)

/-- Only opening and deleting look at the path. -/
theorem TempFile.step_path {path path' : String} {f f' : TempFile} {c : Call} {a : Answer c}
    (h : TempFile.step path f ⟨c, a⟩ f') (hopen : ∀ p flags, c ≠ .openFile p flags)
    (hunlink : ∀ p, c ≠ .unlink p) : TempFile.step path' f ⟨c, a⟩ f' := by
  cases c with
  | openFile p flags => exact absurd rfl (hopen p flags)
  | unlink p => exact absurd rfl (hunlink p)
  | fstat fd => cases a <;> exact h
  | ftruncate fd length => cases a <;> exact h
  | lseek fd off => cases a <;> exact h
  | read fd n => cases a <;> exact h
  | write fd buf => cases a <;> exact h
  | _ => exact h

theorem readReply_sound {b : Build} {nacks : Bool} (hmax : b.maxFwImageSize = smallFirmware.length)
    {s s' : ReadEngine × TempFile} {c : Call} {a : Answer c}
    (h : readReply b nacks s c = some (a, s')) : readEnv b s ⟨c, a⟩ s' := by
  obtain ⟨g, f⟩ := s
  cases c with
  | openFile p flags =>
      simp only [readReply] at h
      split at h
      · next hpath =>
          cases h
          have hfd : (0 : Int) ≤ 5 := by decide
          exact ⟨ReadEngine.step_other id, (if_pos ⟨hpath, hfd⟩).symm⟩
      · next hpath =>
          cases h
          exact ⟨ReadEngine.step_other id, (if_neg fun hopen => hpath hopen.1).symm⟩
  | unlink p => cases h
  | _ =>
      simp only [readReply] at h
      obtain ⟨res, hres, heq⟩ := Option.map_eq_some_iff.mp h
      cases heq
      obtain ⟨hengine, hfile, -⟩ := serviceReply_sound hmax hres
      exact ⟨hengine, TempFile.step_path hfile (fun _ _ => by simp) (fun _ => by simp)⟩

def noFile : ReadEngine × TempFile := (⟨fun _ => 0, none, false, []⟩, ⟨false, -1, [], 0⟩)

def firstRead (nacks : Bool) : List SysEvent × Sys (Option Int32) × ReadEngine × TempFile :=
  play (readReply smallestBuild nacks) 60 noFile (main smallestBuild 10 readArgv)

/-- A second one, up to its first trigger. -/
def secondRead (nacks : Bool) : List SysEvent × Sys (Option Int32) × ReadEngine × TempFile :=
  play (readReply smallestBuild nacks) 11 (firstRead nacks).2.2 (main smallestBuild 10 readArgv)

def secondRest (nacks : Bool) : List SysEvent × Sys (Option Int32) × ReadEngine × TempFile :=
  play (readReply smallestBuild nacks) 60 (secondRead nacks).2.2 (secondRead nacks).2.1

/-- The two calls. -/
def firstRun (nacks : Bool) : ReadRun := ⟨noFile, (firstRead nacks).1⟩

def secondRun (nacks : Bool) : ReadRun :=
  ⟨(firstRead nacks).2.2, (secondRead nacks).1 ++ (secondRest nacks).1⟩

theorem over_of_result {α : Type} {p : Sys α} (h : p.result.isSome = true) : Over p := by
  cases p with
  | ret a => exact .returned
  | ask c k => cases h

/-- Two calls, the second one in two parts. -/
theorem readRuns_of_parts {s s₁ s₂ s₃ : ReadEngine × TempFile} {tr₁ tr₂ tr₃ : List SysEvent}
    {q₁ q₂ q₃ : Sys (Option Int32)}
    (h₁ : Trace (main smallestBuild 10 readArgv) tr₁ q₁ ∧ Follows (readEnv smallestBuild) s tr₁ s₁)
    (h₂ : Trace (main smallestBuild 10 readArgv) tr₂ q₂ ∧ Follows (readEnv smallestBuild) s₁ tr₂ s₂)
    (h₃ : Trace q₂ tr₃ q₃ ∧ Follows (readEnv smallestBuild) s₂ tr₃ s₃)
    (hdone₁ : q₁.result.isSome = true) (hdone₃ : q₃.result.isSome = true) :
    ReadRuns smallestBuild 10 s [⟨s, tr₁⟩, ⟨s₁, tr₂ ++ tr₃⟩] s₃ := by
  have hargs : checkArguments smallestBuild 10 readArgv
      = some (.ok ⟨3, 1, [0x66], retimerFwRead, defaultVersion⟩) := rfl
  have htrace : Trace (main smallestBuild 10 readArgv) (tr₂ ++ tr₃) q₃ :=
    trace_append.mpr ⟨q₂, h₂.1, h₃.1⟩
  have hfollows : Follows (readEnv smallestBuild) s₁ (tr₂ ++ tr₃) s₃ :=
    follows_append.mpr ⟨s₂, h₂.2, h₃.2⟩
  exact .cons hargs rfl h₁.1 (over_of_result hdone₁) h₁.2
    (.cons hargs rfl htrace (over_of_result hdone₃) hfollows .nil)

/-- A call that triggers a read with something in the DPRAM. The trace up to the
trigger settles it, whatever comes behind. -/
theorem not_blankAtRead {b : Build} {s s' : ReadEngine × TempFile} {pre post : List SysEvent}
    {ev : SysEvent} (hpre : ∀ e ∈ pre, StartsNoRead e.1) (hev : ¬StartsNoRead ev.1)
    {q q' : Sys (Option Int32)} (henv : Trace q pre q' ∧ Follows (readEnv b) s pre s')
    (hmem : s'.1.mem.load 0 b.maxFwImageSize ≠ List.replicate b.maxFwImageSize 0) :
    ¬BlankAtRead b ⟨s, pre ++ ev :: post⟩ :=
  fun h => hmem (h pre post ev s' rfl hpre hev henv.2)

variable (nacks : Bool)

theorem follows_readReply {n : Nat} {s : ReadEngine × TempFile} {p : Sys (Option Int32)}
    {out : List SysEvent × Sys (Option Int32) × ReadEngine × TempFile}
    (hout : out = play (readReply smallestBuild nacks) n s p) :
    Trace p out.1 out.2.1 ∧ Follows (readEnv smallestBuild) s out.1 out.2.2 := by
  subst hout
  exact ⟨trace_play _ n s p,
    follows_play (fun _ _ _ _ => readReply_sound List.length_replicate.symm) n s p⟩

theorem firstRead_eq : firstRead nacks
    = play (readReply smallestBuild nacks) 60 noFile (main smallestBuild 10 readArgv) := rfl

theorem secondRead_eq : secondRead nacks = play (readReply smallestBuild nacks) 11
    (firstRead nacks).2.2 (main smallestBuild 10 readArgv) := rfl

theorem secondRest_eq : secondRest nacks = play (readReply smallestBuild nacks) 60
    (secondRead nacks).2.2 (secondRead nacks).2.1 := rfl

theorem readRuns_twice : ReadRuns smallestBuild 10 noFile [firstRun nacks, secondRun nacks]
    (secondRest nacks).2.2 := by
  have hdone₁ : (firstRead nacks).2.1.result.isSome = true := by cases nacks <;> decide +kernel
  have hdone₃ : (secondRest nacks).2.1.result.isSome = true := by cases nacks <;> decide +kernel
  exact readRuns_of_parts (follows_readReply nacks (firstRead_eq nacks))
    (follows_readReply nacks (secondRead_eq nacks)) (follows_readReply nacks (secondRest_eq nacks))
    hdone₁ hdone₃

/-- Two calls whose reads end with a NACK. -/
theorem readRuns_blank_twice : BlankAtRead smallestBuild (secondRun true) := by
  have hleaves : LeavesBlank (firstRun true) := by
    refine Or.inr ?_
    unfold firstRun
    decide +kernel
  have hidle : (secondRun true).start.1.reading = none := by decide +kernel
  have hwhole : ∀ ev ∈ (secondRun true).events, ReadsWhole ev := by decide +kernel
  exact readRuns_blank smallestBuild 10 noFile (secondRest true).2.2 [firstRun true] []
    (secondRun true) (readRuns_twice true) rfl (by simpa using hleaves) hidle hwhole

/-- Two calls in which nothing fails: the second one finds the firmware of the
first in its file, and puts it into the DPRAM. -/
theorem readRuns_stage_firmware :
    ¬∀ (b : Build) (fuel : Nat) (s s' : ReadEngine × TempFile) (runs : List ReadRun),
      ReadRuns b fuel s runs s' → s.2.named = false → ∀ r ∈ runs, r.start.1.reading = none →
      (∀ ev ∈ r.events, ReadsWhole ev) → BlankAtRead b r := by
  intro h
  have hidle : (secondRun false).start.1.reading = none := by decide +kernel
  have hwhole : ∀ ev ∈ (secondRun false).events, ReadsWhole ev := by decide +kernel
  have hpre : ∀ ev ∈ (secondRead false).1, StartsNoRead ev.1 := by decide +kernel
  have hfirst : (secondRest false).1.head?.map (fun ev => decide (StartsNoRead ev.1))
      = some false := by
    decide +kernel
  have hfirmware : (secondRead false).2.2.1.mem.load 0 smallestBuild.maxFwImageSize
      ≠ List.replicate smallestBuild.maxFwImageSize 0 := by decide +kernel
  obtain ⟨ev, hev, htrigger⟩ := Option.map_eq_some_iff.mp hfirst
  obtain ⟨post, hpost⟩ := List.head?_eq_some_iff.mp hev
  have hblank := h smallestBuild 10 noFile (secondRest false).2.2 _ (readRuns_twice false) rfl
    (secondRun false) (by simp) hidle hwhole
  unfold secondRun at hblank
  rw [hpost] at hblank
  exact not_blankAtRead hpre (of_decide_eq_false htrigger)
    (follows_readReply false (secondRead_eq false)) hfirmware hblank

end Small

end Retimer
