import Retimer.OperationRun
import Retimer.PublishedHash
import Retimer.Triggers

/-!
# The update tool and the hash service on one FPGA

Two programs that know nothing of each other, their transactions in any
order. Nothing in either keeps the other out, so a request served
between the copy of an image and its trigger leaves the blank file
staged. What an update can rely on is weaker: from the moment its copy
begins until the trigger, the service must not write, and no read of
firmware may be under way.

A shared run is a list of events with the program that each belongs to.
Each program sees its own (`eventsOf`), which are a trace of it; the
FPGA sees all of them and not whose they are (`Shares`). So any
interleaving is a run, and nothing has to be said about scheduling.

The service cannot trigger an update (`only_serveRequests`), so a
trigger is one of the tool, for the operation it has announced last.
`Undisturbed` is the condition on the run in front of it;
`follows_updateTool` turns it into a run of the tool alone, in which the
image was right. The two small runs interleave the same two programs in
two ways: a request that comes before the copy does no harm, one that
comes behind it does.
-/

namespace Retimer

open Interaction Interaction.Prog

inductive Client where
  | updateTool
  | hashService
deriving DecidableEq

/-- An event with the program it belongs to. -/
abbrev SharedEvent : Type := Client × SysEvent

def eventsOf (who : Client) (tr : List SharedEvent) : List SysEvent :=
  tr.filterMap fun ev => if ev.1 = who then some ev.2 else none

/-- The FPGA does not see which program an event belongs to. -/
abbrev Shares (b : Build) (g : ReadEngine) (tr : List SharedEvent) (g' : ReadEngine) : Prop :=
  Follows (ReadEngine.step b) g (tr.map (·.2)) g'

section Events

variable {who : Client} {tr tr' : List SharedEvent} {ev : SysEvent}

theorem eventsOf_append : eventsOf who (tr ++ tr') = eventsOf who tr ++ eventsOf who tr' :=
  List.filterMap_append

theorem eventsOf_own : eventsOf who ((who, ev) :: tr) = ev :: eventsOf who tr :=
  List.filterMap_cons_some (if_pos rfl)

theorem eventsOf_other {who' : Client} (h : who' ≠ who) :
    eventsOf who ((who', ev) :: tr) = eventsOf who tr :=
  List.filterMap_cons_none (if_neg h)

theorem eventsOf_map_own (tr : List SysEvent) : eventsOf who (tr.map (who, ·)) = tr := by
  rw [eventsOf, List.filterMap_map]
  refine (List.filterMap_congr fun ev _ => if_pos rfl).trans List.filterMap_some

theorem eventsOf_map_other {who' : Client} (h : who' ≠ who) (tr : List SysEvent) :
    eventsOf who (tr.map (who', ·)) = [] := by
  rw [eventsOf, List.filterMap_map]
  exact List.filterMap_eq_nil_iff.mpr fun ev _ => if_neg h

theorem mem_eventsOf (h : (who, ev) ∈ tr) : ev ∈ eventsOf who tr :=
  List.mem_filterMap.mpr ⟨(who, ev), h, if_pos rfl⟩

end Events

/-! ## What the service asks for -/

section Service

variable {b : Build} {fuel retimerId : Nat} {behind : UInt8} {digests : Digests} {fd dummyfd : Int}

theorem IsHashing.isPlain {c : Call} (h : IsHashing c) : IsPlain c := by
  cases c with
  | i2cWrite fd slaveId writeData => exact h.elim
  | performing uo => exact h
  | _ => trivial

theorem only_computeSha384 : Only IsPlain (computeSha384 fuel dummyfd) :=
  hashing_computeSha384.mono fun _ => IsHashing.isPlain

theorem only_readFirmware : Only IsPlain (readFirmware b fd dummyfd retimerId) :=
  only_reading (only_loading.mono fun _ => IsLoading.isPlain) only_readRetimerfw
    (only_fetching.mono fun _ => IsFetching.isPlain) trivial trivial

theorem only_hashFirmware :
    Only IsPlain (hashFirmware b fuel behind fd dummyfd retimerId digests) :=
  only_readAndHash only_readFirmware only_computeSha384

theorem only_deleteFile {ret : Int32} : Only IsPlain (deleteFile dummyfd ret) :=
  (only_perform.mpr trivial).bind fun _ => (only_perform.mpr trivial).bind fun _ => trivial

theorem only_hashDirectory : Only IsPlain hashDirectory :=
  (only_perform.mpr trivial).bind fun _ => Only.ite trivial (only_perform.mpr trivial)

theorem only_readFWImagenComputeHash :
    Only IsPlain (readFWImagenComputeHash b fuel behind retimerId digests) := by
  unfold readFWImagenComputeHash
  refine (only_perform.mpr trivial).bind fun fd => ?_
  refine Only.ite ((only_perform.mpr trivial).bind fun _ => trivial) ?_
  refine only_hashDirectory.bind fun directory => ?_
  refine Only.ite ((only_perform.mpr trivial).bind fun _ => trivial) ?_
  refine (only_perform.mpr trivial).bind fun dummyfd => Only.ite ?_ ?_
  · refine Only.ite ?_ ((only_perform.mpr trivial).bind fun _ => trivial)
    exact only_deleteFile.bind fun ret => (only_perform.mpr trivial).bind fun _ => trivial
  · refine only_hashFirmware.bind fun res => ?_
    cases res with
    | none => trivial
    | some res =>
        exact only_deleteFile.bind fun ret => (only_perform.mpr trivial).bind fun _ => trivial

theorem only_methodComputeHash : Only IsPlain (methodComputeHash b fuel behind digests) := by
  unfold methodComputeHash
  refine (only_perform.mpr trivial).bind fun retimerId => ?_
  cases retimerId with
  | none => trivial
  | some retimerId =>
      refine Only.ite ((only_perform.mpr trivial).bind fun _ => trivial) ?_
      refine (only_perform.mpr trivial).bind fun replied => Only.ite trivial ?_
      refine only_readFWImagenComputeHash.bind fun res => ?_
      cases res with
      | none => trivial
      | some res => exact (only_perform.mpr trivial).bind fun _ => trivial

/-- The service never triggers an update, and it never announces an operation.
What triggers one while the two run side by side is the tool. -/
theorem only_serveRequests {count : Nat} :
    Only IsPlain (serveRequests b fuel behind count digests) := by
  induction count generalizing digests with
  | zero => trivial
  | succ count ih =>
      unfold serveRequests
      refine only_methodComputeHash.bind fun res => ?_
      cases res with
      | none => trivial
      | some res => exact ih

end Service

/-! ## The tool's part of a shared run -/

section Projection

variable {b : Build} {g g' : ReadEngine} {m m' m'' : ByteMem} {ev : SysEvent}
    {tr : List SharedEvent}

/-- Nothing but DPRAM and the registers behind it is fixed by an event. -/
theorem Fpga.step_keeps (h : Fpga.step b m ev m') (hkeep : KeepsStaging m' m'') :
    Fpga.step b m ev m'' := by
  obtain ⟨c, r⟩ := ev
  cases c with
  | i2cWrite fd slaveId writeData =>
      simp only [Fpga.step] at h ⊢
      split at h
      · next hslave =>
          rw [if_pos hslave]
          cases r with
          | ok readData => exact KeepsStaging.trans h hkeep
          | failed errno => exact KeepsOutside.trans h hkeep.outside
      · next hslave =>
          rw [if_neg hslave]
          exact KeepsStaging.trans h hkeep
  | i2cRead fd slaveId writeData n =>
      cases r with
      | ok readData => exact ⟨KeepsStaging.trans h.1 hkeep, h.2⟩
      | failed errno => exact KeepsStaging.trans h hkeep
  | _ => exact KeepsStaging.trans h hkeep

/-- While nothing is being read, and the service does not write, the tool has
the FPGA to itself. -/
theorem follows_updateTool (h : Shares b g tr g') (hidle : g.reading = none)
    (htool : ∀ ev ∈ eventsOf .updateTool tr, StartsNoRead ev.1)
    (hservice : ∀ ev ∈ eventsOf .hashService tr, ReadEngine.IsQuiet ev.1) :
    ∃ m, KeepsStaging g.mem m ∧ Follows (Fpga.step b) m (eventsOf .updateTool tr) g'.mem := by
  induction tr generalizing g with
  | nil =>
      obtain rfl := follows_nil.mp h
      exact ⟨g'.mem, fun _ _ => rfl, rfl⟩
  | cons ev tr ih =>
      obtain ⟨who, ev⟩ := ev
      obtain ⟨g₁, ⟨g₂, hends, haccepts⟩, hrest⟩ := h
      obtain rfl := hends.of_idle hidle
      cases who with
      | updateTool =>
          rw [eventsOf_own] at htool ⊢
          rw [eventsOf_other (by decide)] at hservice
          obtain ⟨hev, htool⟩ := List.forall_mem_cons.mp htool
          obtain ⟨m, hkeep, hfollows⟩ := ih hrest ((haccepts.still hev).trans hidle) htool hservice
          exact ⟨g₂.mem, fun _ _ => rfl, m, Fpga.step_keeps haccepts.mem hkeep, hfollows⟩
      | hashService =>
          rw [eventsOf_other (by decide)] at htool ⊢
          rw [eventsOf_own] at hservice
          obtain ⟨hev, hservice⟩ := List.forall_mem_cons.mp hservice
          obtain ⟨hkeep₁, hreading⟩ := haccepts.quiet hev
          obtain ⟨m, hkeep, hfollows⟩ := ih hrest (hreading.trans hidle) htool hservice
          exact ⟨m, hkeep₁.trans hkeep, hfollows⟩

end Projection

/-! ## The right image -/

/-- From some point on, at which the tool had only sent messages for its
operation, the service has written nothing, and no read was under way then.
`seg` is what the tool did for the operation. What the service did before that
point does not matter. -/
def Undisturbed (b : Build) (g₀ : ReadEngine) (pre : List SharedEvent) (seg : List SysEvent)
    (g : ReadEngine) : Prop :=
  ∃ before since msgs g₁, pre = before ++ since
    ∧ seg = msgs ++ eventsOf .updateTool since ∧ (∀ ev ∈ msgs, IsMessage ev.1)
    ∧ Shares b g₀ before g₁ ∧ g₁.reading = none ∧ Shares b g₁ since g
    ∧ ∀ ev ∈ eventsOf .hashService since, ReadEngine.IsQuiet ev.1

theorem follows_messages {b : Build} {m : ByteMem} {tr : List SysEvent}
    (h : ∀ ev ∈ tr, IsMessage ev.1) : Follows (Fpga.step b) m tr m := by
  induction tr with
  | nil => rfl
  | cons ev tr ih =>
      obtain ⟨hev, hrest⟩ := List.forall_mem_cons.mp h
      obtain ⟨c, r⟩ := ev
      cases c with
      | emitLogMessage msg => exact ⟨m, fun _ _ => rfl, ih hrest⟩
      | _ => exact hev.elim

/-- **Sharing the FPGA.** In every interleaving of the update tool with the hash
service, whoever writes the update register is the tool; and if its operation
is undisturbed from before its copy on, the image, size and CRC in the FPGA
are those of the operation. -/
theorem shared_triggers_right (b : Build) (fuel : Nat) (argv : List (List UInt8))
    (file : List UInt8)
    (hfile : file.length < 2 ^ 31) (fuel' : Nat) (behind : UInt8) (count : Nat)
    (tr : List SharedEvent) (q : Sys (Option Int32)) (q' : Sys (Option Digests))
    (htool : Trace (main b fuel argv) (eventsOf .updateTool tr) q)
    (himage : ∀ ev ∈ eventsOf .updateTool tr, ServesImage file ev)
    (hservice : Trace (serveRequests b fuel' behind count initialDigests)
      (eventsOf .hashService tr) q')
    (g₀ : ReadEngine) (pre post : List SharedEvent) (who : Client) (ev : SysEvent)
    (htr : tr = pre ++ (who, ev) :: post) (hev : IsTrigger b ev.1) :
    who = .updateTool ∧ ∃ args uo op seg, checkArguments b fuel argv = some (.ok args)
      ∧ InOperation (eventsOf .updateTool pre) uo seg
      ∧ (operationsFor b file args)[uo]? = some op
      ∧ ∀ g, Undisturbed b g₀ pre seg g → RightImage g.mem file op := by
  have hwho : who = .updateTool := by
    cases who with
    | updateTool => rfl
    | hashService =>
        have hmem : ev ∈ eventsOf .hashService tr := mem_eventsOf (by rw [htr]; simp)
        exact absurd hev (((only_serveRequests.trace hservice).1 ev hmem).not_trigger b)
  subst hwho
  rw [htr, eventsOf_append, eventsOf_own, List.append_cons] at htool
  obtain ⟨p, hpre, -⟩ := trace_append.mp htool
  have hserves : ∀ e ∈ eventsOf .updateTool pre, ServesImage file e := by
    intro e he
    refine himage e ?_
    rw [htr, eventsOf_append]
    exact List.mem_append_left _ he
  obtain ⟨args, uo, op, seg, hargs, hfor⟩ := main_trigger hfile hpre hserves hev
  refine ⟨rfl, args, uo, op, seg, hargs, hfor.inOperation, hfor.operation, fun g hundisturbed => ?_⟩
  obtain ⟨before, since, msgs, g₁, -, hseg, hmsgs, -, hidle, hsince, hquiet⟩ := hundisturbed
  obtain ⟨fd, st, q, hbody⟩ := hfor.body
  have hnoread : ∀ e ∈ seg ++ [ev], StartsNoRead e.1 :=
    ((only_performing (fun _ => IsMessage.startsNoRead) (fun _ => IsStaging.startsNoRead)
      fun _ => IsTrying.startsNoRead).trace hbody).1
  have htoolSince : ∀ e ∈ eventsOf .updateTool since, StartsNoRead e.1 := fun e he =>
    hnoread e (List.mem_append_left _ (hseg ▸ List.mem_append_right _ he))
  obtain ⟨m, -, hfollows⟩ := follows_updateTool hsince hidle htoolSince hquiet
  exact hfor.rightImage hfile hev (hseg ▸ follows_append.mpr ⟨m, follows_messages hmsgs, hfollows⟩)

/-! ## A request between copy and trigger -/

section Small

def toolReply (b : Build) (file : List UInt8) (s : ReadEngine × TempFile × List UInt8) :
    (c : Call) → Option (Answer c × ReadEngine × TempFile × List UInt8)
  | .i2cWrite fd slaveId writeData => serviceReply b true s (.i2cWrite fd slaveId writeData)
  | .i2cRead fd slaveId writeData n => serviceReply b true s (.i2cRead fd slaveId writeData n)
  | c => (c.succeed file).map (·, s)

theorem toolReply_sound {b : Build} {file : List UInt8}
    (hmax : b.maxFwImageSize = smallFirmware.length) {s s' : ReadEngine × TempFile × List UInt8}
    {c : Call} {a : Answer c} (h : toolReply b file s c = some (a, s')) :
    ReadEngine.step b s.1 ⟨c, a⟩ s'.1 := by
  cases c with
  | i2cWrite fd slaveId writeData =>
      simp only [toolReply] at h
      exact (serviceReply_sound hmax h).1
  | i2cRead fd slaveId writeData n =>
      simp only [toolReply] at h
      exact (serviceReply_sound hmax h).1
  | _ =>
      simp only [toolReply] at h
      obtain ⟨a', -, heq⟩ := Option.map_eq_some_iff.mp h
      cases heq
      exact ReadEngine.step_other id

def toolFirst (n : Nat) : List SysEvent × Sys (Option Int32) × ReadEngine × TempFile × List UInt8 :=
  play (toolReply smallestBuild [1]) n smallService (main smallestBuild 10 smallArgv)

def requestAfter (n : Nat) :
    List SysEvent × Sys (Option Digests) × ReadEngine × TempFile × List UInt8 :=
  play (serviceReply smallestBuild true) 60 (toolFirst n).2.2
    (serveRequests smallestBuild 5 0 1 initialDigests)

def toolRest (n : Nat) : List SysEvent × Sys (Option Int32) × ReadEngine × TempFile × List UInt8 :=
  play (toolReply smallestBuild [1]) (14 - n) (requestAfter n).2.2 (toolFirst n).2.1

def toolTrigger (n : Nat) :
    List SysEvent × Sys (Option Int32) × ReadEngine × TempFile × List UInt8 :=
  play (toolReply smallestBuild [1]) 1 (toolRest n).2.2 (toolRest n).2.1

def sharedFirst (n : Nat) : List SharedEvent :=
  (toolFirst n).1.map (.updateTool, ·) ++ (requestAfter n).1.map (.hashService, ·)

def sharedBefore (n : Nat) : List SharedEvent :=
  sharedFirst n ++ (toolRest n).1.map (.updateTool, ·)

def sharedRun (n : Nat) : List SharedEvent :=
  sharedBefore n ++ (toolTrigger n).1.map (.updateTool, ·)

section Pieces

variable (n : Nat)

theorem eventsOf_toolBefore :
    eventsOf .updateTool (sharedBefore n) = (toolFirst n).1 ++ (toolRest n).1 := by
  rw [sharedBefore, sharedFirst, eventsOf_append, eventsOf_append, eventsOf_map_own,
    eventsOf_map_own, eventsOf_map_other (by decide), List.append_nil]

theorem eventsOf_tool : eventsOf .updateTool (sharedRun n)
    = (toolFirst n).1 ++ (toolRest n).1 ++ (toolTrigger n).1 := by
  rw [sharedRun, eventsOf_append, eventsOf_toolBefore, eventsOf_map_own]

theorem eventsOf_service : eventsOf .hashService (sharedRun n) = (requestAfter n).1 := by
  rw [sharedRun, sharedBefore, sharedFirst, eventsOf_append, eventsOf_append, eventsOf_append,
    eventsOf_map_own, eventsOf_map_other (by decide), eventsOf_map_other (by decide),
    eventsOf_map_other (by decide), List.append_nil, List.append_nil, List.nil_append]

theorem trace_tool : Trace (main smallestBuild 10 smallArgv) (eventsOf .updateTool (sharedRun n))
    (toolTrigger n).2.1 := by
  rw [eventsOf_tool]
  refine trace_append.mpr ⟨(toolRest n).2.1, trace_append.mpr ⟨(toolFirst n).2.1, ?_, ?_⟩, ?_⟩
  · exact trace_play _ _ _ _
  · exact trace_play _ _ _ _
  · exact trace_play _ _ _ _

theorem trace_service : Trace (serveRequests smallestBuild 5 0 1 initialDigests)
    (eventsOf .hashService (sharedRun n)) (requestAfter n).2.1 := by
  rw [eventsOf_service]
  exact trace_play _ _ _ _

/-- The state of the FPGA alone. -/
theorem Follows.engine {b : Build} {s s' : ReadEngine × TempFile × List UInt8} {tr : List SysEvent}
    (h : Follows (fun s ev s' => ReadEngine.step b s.1 ev s'.1) s tr s') :
    Follows (ReadEngine.step b) s.1 tr s'.1 :=
  Follows.map (π := Prod.fst) (fun _ _ _ hstep => hstep) h

theorem follows_tool {k : Nat} {s : ReadEngine × TempFile × List UInt8} {p : Sys (Option Int32)} :
    Follows (ReadEngine.step smallestBuild) s.1 (play (toolReply smallestBuild [1]) k s p).1
      (play (toolReply smallestBuild [1]) k s p).2.2.1 :=
  Follows.engine (follows_play
    (fun _ _ _ _ => toolReply_sound List.length_replicate.symm) k s p)

theorem events_map (who : Client) (tr : List SysEvent) : (tr.map (who, ·)).map (·.2) = tr := by
  rw [List.map_map]
  exact List.map_id tr

theorem shares_sharedFirst :
    Shares smallestBuild smallService.1 (sharedFirst n) (requestAfter n).2.2.1 := by
  rw [Shares, sharedFirst, List.map_append, events_map, events_map]
  refine follows_append.mpr ⟨(toolFirst n).2.2.1, follows_tool, ?_⟩
  exact Follows.left (follows_play
    (fun _ _ _ _ => serviceReply_sound List.length_replicate.symm) 60 (toolFirst n).2.2 _)

theorem shares_toolRest : Shares smallestBuild (requestAfter n).2.2.1
    ((toolRest n).1.map (.updateTool, ·)) (toolRest n).2.2.1 := by
  rw [Shares, events_map]
  exact follows_tool

theorem shares_sharedBefore :
    Shares smallestBuild smallService.1 (sharedBefore n) (toolRest n).2.2.1 := by
  rw [Shares, sharedBefore, List.map_append]
  exact follows_append.mpr ⟨_, shares_sharedFirst n, shares_toolRest n⟩

theorem sharedRun_eq (h : (toolTrigger n).1.map (fun ev => decide (IsTrigger smallestBuild ev.1))
    = [true]) : ∃ ev, sharedRun n = sharedBefore n ++ (.updateTool, ev) :: []
      ∧ IsTrigger smallestBuild ev.1 := by
  obtain ⟨ev, hev, htrigger⟩ := List.map_eq_singleton_iff.mp h
  refine ⟨ev, ?_, of_decide_eq_true htrigger⟩
  rw [sharedRun, hev]
  rfl

/-- A request before the tool's copy does no harm: the copy puts everything into
place again. -/
theorem undisturbed_sharedBefore {msgs : List SysEvent} (hmsgs : ∀ ev ∈ msgs, IsMessage ev.1)
    (hidle : (requestAfter n).2.2.1.reading = none) : Undisturbed smallestBuild smallService.1
      (sharedBefore n) (msgs ++ (toolRest n).1) (toolRest n).2.2.1 := by
  refine ⟨sharedFirst n, (toolRest n).1.map (.updateTool, ·), msgs, (requestAfter n).2.2.1, rfl, ?_,
    hmsgs, shares_sharedFirst n, hidle, shares_toolRest n, ?_⟩
  · rw [eventsOf_map_own]
  · rw [eventsOf_map_other (by decide)]
    exact fun ev hev => absurd hev List.not_mem_nil

end Pieces

/-- The tool has announced its operation when the request comes. -/
theorem inOperation_sharedBefore : InOperation (eventsOf .updateTool (sharedBefore 9)) 0
    ((toolFirst 9).1.drop 8 ++ (toolRest 9).1) := by
  have hget : (toolFirst 9).1[7]?.map (·.1) = some (.performing 0) := rfl
  obtain ⟨_, hcut⟩ := cut_at hget
  refine ⟨⟨(toolFirst 9).1.take 7, ?_⟩, by decide +kernel⟩
  rw [eventsOf_toolBefore, ← List.cons_append, ← List.append_assoc, ← hcut]

theorem shared_triggers_right_small : ∃ op,
    (operationsFor smallestBuild [1] smallArguments)[0]? = some op
      ∧ RightImage (toolRest 9).2.2.1.mem [1] op := by
  obtain ⟨ev, hrun, htrigger⟩ := sharedRun_eq 9 (by decide +kernel)
  have hserves : ∀ ev ∈ eventsOf .updateTool (sharedRun 9), ServesImage [1] ev := by
    rw [eventsOf_tool]
    decide +kernel
  obtain ⟨-, args, uo, op, seg, hargs, hin, hop, hright⟩ := shared_triggers_right smallestBuild 10
    smallArgv [1] (by decide) 5 0 1 (sharedRun 9) _ _ (trace_tool 9) hserves (trace_service 9)
    smallService.1 (sharedBefore 9) [] .updateTool ev hrun htrigger
  have hsmall : checkArguments smallestBuild 10 smallArgv = some (.ok smallArguments) := rfl
  rw [hsmall] at hargs
  cases hargs
  obtain ⟨rfl, rfl⟩ := hin.unique inOperation_sharedBefore
  exact ⟨op, hop, hright _ (undisturbed_sharedBefore 9 (by decide) (by decide +kernel))⟩

def transactionOk : SysEvent → Bool
  | ⟨.i2cWrite _ _ _, answer⟩ => answer.completed
  | ⟨.i2cRead _ _ _ _, answer⟩ => answer.completed
  | _ => true

/-- With every transaction getting through, the tool triggers the update of a
one-byte image with the size of the blank file in the register. -/
theorem shared_triggers_wrong :
    ¬∀ (b : Build) (fuel : Nat) (argv : List (List UInt8)) (file : List UInt8) (fuel' : Nat)
      (behind : UInt8) (count : Nat) (tr : List SharedEvent) (q : Sys (Option Int32))
      (q' : Sys (Option Digests)) (g₀ g : ReadEngine) (pre post : List SharedEvent) (ev : SysEvent),
      file.length < 2 ^ 31 → Trace (main b fuel argv) (eventsOf .updateTool tr) q →
      (∀ ev ∈ eventsOf .updateTool tr, ServesImage file ev) →
      Trace (serveRequests b fuel' behind count initialDigests) (eventsOf .hashService tr) q' →
      (∀ ev ∈ tr, transactionOk ev.2 = true) → tr = pre ++ (.updateTool, ev) :: post →
      IsTrigger b ev.1 → Shares b g₀ pre g →
      ∃ args uo op seg, checkArguments b fuel argv = some (.ok args)
        ∧ InOperation (eventsOf .updateTool pre) uo seg
        ∧ (operationsFor b file args)[uo]? = some op ∧ RightImage g.mem file op := by
  intro h
  obtain ⟨ev, hrun, htrigger⟩ := sharedRun_eq 14 (by decide +kernel)
  have hserves : ∀ ev ∈ eventsOf .updateTool (sharedRun 14), ServesImage [1] ev := by
    rw [eventsOf_tool]
    decide +kernel
  have hok : ∀ ev ∈ sharedRun 14, transactionOk ev.2 = true := by decide +kernel
  obtain ⟨args, uo, op, seg, hargs, -, hop, hright⟩ := h smallestBuild 10 smallArgv [1] 5 0 1
    (sharedRun 14) (toolTrigger 14).2.1 (requestAfter 14).2.1 smallService.1 (toolRest 14).2.2.1
    (sharedBefore 14) [] ev (by decide)
    (trace_tool 14) hserves (trace_service 14) hok hrun htrigger (shares_sharedBefore 14)
  have hsmall : checkArguments smallestBuild 10 smallArgv = some (.ok smallArguments) := rfl
  rw [hsmall] at hargs
  cases hargs
  have hlength : ∀ op ∈ operationsFor smallestBuild [1] smallArguments, op.imageLength = 1 := by
    decide
  have hsize := hright.size
  rw [hlength op (List.mem_of_getElem? hop)] at hsize
  have hblank : (toolRest 14).2.2.1.mem.load fpgaImgSizeReg.toNat 4 = leBytes 4 0x100 := by
    decide +kernel
  rw [hblank] at hsize
  exact absurd hsize (by decide)

end Small

end Retimer
