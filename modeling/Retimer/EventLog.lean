import Retimer.Handlers
import Retimer.Requests
import Retimer.UpdateMain

/-!
# The event log

`emitLogMessage` makes an entry of the logging service out of every
message of the update tool. What becomes of an entry is not looked at:
without a bus the message is dropped, and a call that fails is only
printed. The bus is kept in a static variable, so that it is there for
good once it could be had.

`mainOnBus` is the tool with its messages as calls of the service: the
program `main`, interpreted with a handler that keeps the static
variable (`Call.onLog`). It runs as `main` does, and the log has no
holes: what it lacks are the messages from before the bus was there.

`EmitRun` lists the runs of one handler, and exists for any answers of
the bus (`exists_emitRun`). What a trace below shows is `seen`, entries
and other requests in one list; what was to be shown is the trace above
with its first messages dropped (`dropMessages`), as many as the bus was
refused (`refusals`). `EmitRun.shows` is the step for one message,
`expands_shows` the induction over the whole trace, and `exists_expands`
the converse, by which every run of the tool is one with its log.
-/

namespace Retimer

open Interaction Interaction.Prog

/-! ## The logging service -/

def logService : String := "xyz.openbmc_project.Logging"
def logPath : String := "/xyz/openbmc_project/logging"
def logCreateInterface : String := "xyz.openbmc_project.Logging.Create"
def logCreateFunction : String := "Create"

/-- `BUFFER_LENGTH` -/
def bufferLength : Nat := 1024

inductive LogCall where
  | sdBusDefaultSystem
  | sdBusCallMethod (service path interface member : String) (message severity : String)
      (additionalData : List (String × String))
  | sys (c : Call)
deriving DecidableEq

/-- Whether the bus could be had, and whether the call succeeded. -/
@[reducible] def LogAnswer : LogCall → Type
  | .sdBusDefaultSystem | .sdBusCallMethod _ _ _ _ _ _ _ => Bool
  | .sys c => Answer c

abbrev Log : Type → Type := Prog LogCall LogAnswer

abbrev LogEvent : Type := Event LogCall LogAnswer

/-- What `snprintf` leaves of a text in a buffer of `BUFFER_LENGTH`. -/
def snprintf (s : String) : String := .ofList (s.toList.take (bufferLength - 1))

def createEntry (message severity : String) (additionalData : List (String × String)) : LogCall :=
  .sdBusCallMethod logService logPath logCreateInterface logCreateFunction message severity
    additionalData

/-- The call that `emitLogMessage` makes, with the signature `ssa{ss}`. -/
def logEntry (m : LogMessage) : LogCall :=
  let args := snprintf (m.arg0 ++ "," ++ m.arg1)
  let updateMessage := snprintf (if m.genericMessage then m.message else "Update.1.0." ++ m.message)
  match m.resolution with
  | some resolution => createEntry updateMessage m.severity
      [("REDFISH_MESSAGE_ID", updateMessage), ("REDFISH_MESSAGE_ARGS", args),
        ("xyz.openbmc_project.Logging.Entry.Resolution", resolution), ("namespace", "FWUpdate")]
  | none => createEntry updateMessage m.severity
      [("REDFISH_MESSAGE_ID", updateMessage), ("REDFISH_MESSAGE_ARGS", args),
        ("namespace", "FWUpdate")]

/-- `emitLogMessage`; `bus` is whether its static variable has been set. -/
def emitLogMessage (m : LogMessage) (bus : Bool) : Log (Unit × Bool) := do
  let opened ← Prog.perform LogCall.sdBusDefaultSystem
  let bus := bus || opened
  if bus = false then
    return ((), bus)
  let _ ← Prog.perform (logEntry m)
  return ((), bus)

/-- The messages go to the service, everything else is left as it is. -/
def Call.onLog : (c : Call) → Bool → Log (Answer c × Bool)
  | .emitLogMessage m, bus => Retimer.emitLogMessage m bus
  | c, bus => do
      let r ← Prog.perform (LogCall.sys c)
      return (r, bus)

/-- The update tool with its log. -/
def mainOnBus (b : Build) (fuel : Nat) (argv : List (List UInt8)) : Log (Option Int32 × Bool) :=
  interpState Call.onLog false (main b fuel argv)

/-! ## What is in a trace -/

/-- The entries and the other requests of the tool, in the order they are made. -/
def seen (tr : List LogEvent) : List (LogCall ⊕ SysEvent) :=
  tr.filterMap fun
    | ⟨.sdBusDefaultSystem, _⟩ => none
    | ⟨.sdBusCallMethod service path interface member message severity data, _⟩ =>
        some (.inl (.sdBusCallMethod service path interface member message severity data))
    | ⟨.sys c, r⟩ => some (.inr ⟨c, r⟩)

def opens (tr : List LogEvent) : List Bool :=
  tr.filterMap fun
    | ⟨.sdBusDefaultSystem, opened⟩ => some opened
    | _ => none

/-- How often the bus could not be had before it could. -/
def refusals (os : List Bool) : Nat := (os.takeWhile (!·)).length

/-- How an event of the tool is seen. -/
def logged : SysEvent → LogCall ⊕ SysEvent
  | ⟨.emitLogMessage m, _⟩ => .inl (logEntry m)
  | ev => .inr ev

/-- `tr` without its first `n` messages. -/
def dropMessages : Nat → List SysEvent → List SysEvent
  | 0, tr => tr
  | _ + 1, [] => []
  | n + 1, ev :: tr =>
      if IsMessage ev.1 then dropMessages n tr else ev :: dropMessages (n + 1) tr

section Log

variable {m : LogMessage} {bus bus' : Bool} {tr : List SysEvent} {tr' seg : List LogEvent}

theorem seen_append : seen (tr' ++ seg) = seen tr' ++ seen seg := List.filterMap_append

theorem opens_append : opens (tr' ++ seg) = opens tr' ++ opens seg := List.filterMap_append

@[simp] theorem dropMessages_zero : dropMessages 0 tr = tr := by
  cases tr with
  | nil => rfl
  | cons ev tr => rfl

theorem dropMessages_message {n : Nat} {ev : SysEvent} (h : IsMessage ev.1) :
    dropMessages (n + 1) (ev :: tr) = dropMessages n tr := by
  rw [dropMessages, if_pos h]

theorem dropMessages_other {n : Nat} {ev : SysEvent} (h : ¬IsMessage ev.1) :
    dropMessages n (ev :: tr) = ev :: dropMessages n tr := by
  cases n with
  | zero => rw [dropMessages_zero, dropMessages_zero]
  | succ n => rw [dropMessages, if_neg h]

/-! ## Logging a message -/

theorem logEntry_isCreate (m : LogMessage) :
    ∃ message severity data, logEntry m = createEntry message severity data := by
  unfold logEntry
  cases m.resolution with
  | none => exact ⟨_, _, _, rfl⟩
  | some resolution => exact ⟨_, _, _, rfl⟩

/-- The runs of `emitLogMessage`. -/
inductive EmitRun (m : LogMessage) : Bool → Bool → List LogEvent → Bool → Prop where
  | dropped : EmitRun m false false [⟨.sdBusDefaultSystem, false⟩] false
  | created {bus opened : Bool} {r : LogAnswer (logEntry m)} (hbus : (bus || opened) = true) :
      EmitRun m bus opened [⟨.sdBusDefaultSystem, opened⟩, ⟨logEntry m, r⟩] true

theorem run_emitLogMessage {u : Unit} :
    Run (emitLogMessage m bus) seg (u, bus') ↔ ∃ opened, EmitRun m bus opened seg bus' := by
  constructor
  · intro h
    obtain ⟨opened, tr₁, rfl, h₁⟩ := run_perform_bind.mp h
    refine ⟨opened, ?_⟩
    dsimp only at h₁
    split at h₁
    · next hnone =>
        obtain ⟨rfl, heq⟩ := run_ret.mp h₁
        obtain ⟨-, rfl⟩ := Prod.mk.inj heq
        obtain ⟨rfl, rfl⟩ := Bool.or_eq_false_iff.mp hnone
        exact .dropped
    · next hsome =>
        obtain ⟨r, tr₂, rfl, h₂⟩ := run_perform_bind.mp h₁
        obtain ⟨rfl, heq⟩ := run_ret.mp h₂
        obtain ⟨-, rfl⟩ := Prod.mk.inj heq
        have hbus := Bool.eq_true_of_not_eq_false hsome
        rw [hbus]
        exact .created hbus
  · rintro ⟨opened, h⟩
    cases h with
    | dropped => exact run_perform_bind.mpr ⟨false, [], rfl, .nil⟩
    | @created _ _ r hbus =>
        refine run_perform_bind.mpr ⟨opened, [⟨logEntry m, r⟩], rfl, ?_⟩
        dsimp only
        rw [hbus, if_neg Bool.false_ne_true.symm]
        exact run_perform_bind.mpr ⟨r, [], rfl, .nil⟩

/-- Whatever the bus answers, there is such a run. -/
theorem exists_emitRun (m : LogMessage) (bus opened : Bool) :
    ∃ seg bus', EmitRun m bus opened seg bus' := by
  by_cases hbus : (bus || opened) = true
  · obtain ⟨message, severity, data, heq⟩ := logEntry_isCreate m
    have r : LogAnswer (logEntry m) := by
      rw [heq]
      exact true
    exact ⟨_, _, .created (r := r) hbus⟩
  · obtain ⟨rfl, rfl⟩ := Bool.or_eq_false_iff.mp (Bool.eq_false_of_not_eq_true hbus)
    exact ⟨_, _, .dropped⟩

theorem shows_created {opened : Bool} {r : LogAnswer (logEntry m)} :
    seen [⟨.sdBusDefaultSystem, opened⟩, ⟨logEntry m, r⟩] = [.inl (logEntry m)]
      ∧ opens [⟨.sdBusDefaultSystem, opened⟩, ⟨logEntry m, r⟩] = [opened] := by
  obtain ⟨message, severity, data, heq⟩ := logEntry_isCreate m
  revert r
  rw [heq]
  intro r
  exact ⟨rfl, rfl⟩

theorem EmitRun.opens {opened : Bool} (h : EmitRun m bus opened seg bus') :
    opens seg = [opened] := by
  cases h with
  | dropped => rfl
  | created hbus => exact shows_created.2

theorem run_onLog_other {c : Call} {r : Answer c} (hother : ¬IsMessage c) :
    Run (Call.onLog c bus) seg (r, bus') ↔ seg = [⟨.sys c, r⟩] ∧ bus' = bus := by
  have honLog : Call.onLog c bus
      = Prog.perform (LogCall.sys c) >>= fun r => Prog.ret (r, bus) := by
    cases c with
    | emitLogMessage m => exact absurd trivial hother
    | _ => rfl
  rw [honLog]
  constructor
  · intro h
    obtain ⟨r', tr₁, rfl, h₁⟩ := run_perform_bind.mp h
    obtain ⟨rfl, heq⟩ := run_ret.mp h₁
    obtain ⟨rfl, rfl⟩ := Prod.mk.inj heq
    exact ⟨rfl, rfl⟩
  · rintro ⟨rfl, rfl⟩
    exact run_perform_bind.mpr ⟨r, [], rfl, .nil⟩

theorem logged_other {ev : SysEvent} (hother : ¬IsMessage ev.1) : logged ev = .inr ev := by
  obtain ⟨c, r⟩ := ev
  cases c with
  | emitLogMessage m => exact absurd trivial hother
  | _ => rfl

/-! ## The whole tool -/

def lost (bus : Bool) (os : List Bool) : Nat := if bus then 0 else refusals os

theorem lost_of_bus {opened : Bool} {os : List Bool} (hbus : (bus || opened) = true) :
    lost bus (opened :: os) = 0 := by
  cases bus with
  | true => rfl
  | false =>
      obtain rfl : opened = true := hbus
      rfl

/-- One message more, in front. -/
theorem EmitRun.shows {opened : Bool} {os : List Bool} {u : Unit}
    (h : EmitRun m bus opened seg bus')
    (hrest : seen tr' = (dropMessages (lost bus' os) tr).map logged) :
    seen (seg ++ tr')
      = (dropMessages (lost bus (opened :: os)) (⟨.emitLogMessage m, u⟩ :: tr)).map logged := by
  rw [seen_append]
  cases h with
  | dropped =>
      have hlost : lost false (false :: os) = lost false os + 1 := rfl
      have hdrop : dropMessages (lost false os + 1) (⟨.emitLogMessage m, u⟩ :: tr)
          = dropMessages (lost false os) tr := dropMessages_message trivial
      rw [hlost, hdrop, ← hrest]
      rfl
  | created hbus =>
      -- the bus stays, so nothing is lost from here on
      have hlost : lost true os = 0 := rfl
      rw [hlost, dropMessages_zero] at hrest
      rw [shows_created.1, lost_of_bus hbus, dropMessages_zero, hrest]
      rfl

theorem expands_shows (h : Expands Call.onLog bus tr tr' bus') :
    (opens tr').length = tr.countP (fun ev => IsMessage ev.1)
      ∧ seen tr' = (dropMessages (lost bus (opens tr')) tr).map logged := by
  induction tr generalizing bus tr' with
  | nil =>
      obtain ⟨rfl, -⟩ := h
      refine ⟨rfl, ?_⟩
      cases bus with
      | true => rfl
      | false => rfl
  | cons ev tr ih =>
      obtain ⟨seg, rest, bus₁, rfl, hseg, hrest⟩ := h
      obtain ⟨hlength, hseen⟩ := ih hrest
      obtain ⟨c, r⟩ := ev
      by_cases hmessage : IsMessage c
      · cases c with
        | emitLogMessage m =>
            obtain ⟨opened, hemit⟩ := run_emitLogMessage.mp hseg
            rw [opens_append, hemit.opens, List.countP_cons_of_pos (by simp [hmessage]), ← hlength]
            exact ⟨rfl, hemit.shows hseen⟩
        | _ => exact hmessage.elim
      · obtain ⟨rfl, rfl⟩ := (run_onLog_other hmessage).mp hseg
        have hopens : opens ([⟨.sys c, r⟩] ++ rest) = opens rest := rfl
        rw [hopens, List.countP_cons_of_neg (by simp [hmessage]), dropMessages_other hmessage,
          List.map_cons, logged_other hmessage, ← hseen]
        exact ⟨hlength, rfl⟩

/-- The bus may answer as it likes: for every list of answers, one for each
message, there is a trace of the tool with its log that has them. -/
theorem exists_expands (tr : List SysEvent) (bus : Bool) (os : List Bool)
    (hos : os.length = tr.countP (fun ev => IsMessage ev.1)) :
    ∃ tr' bus', Expands Call.onLog bus tr tr' bus' ∧ opens tr' = os := by
  induction tr generalizing bus os with
  | nil =>
      obtain rfl := List.eq_nil_of_length_eq_zero hos
      exact ⟨[], bus, ⟨rfl, rfl⟩, rfl⟩
  | cons ev tr ih =>
      obtain ⟨c, r⟩ := ev
      by_cases hmessage : IsMessage c
      · rw [List.countP_cons_of_pos (by simp [hmessage])] at hos
        obtain ⟨opened, os, rfl⟩ := List.exists_cons_of_length_eq_add_one hos
        cases c with
        | emitLogMessage m =>
            obtain ⟨seg, bus₁, hemit⟩ := exists_emitRun m bus opened
            obtain ⟨rest, bus', hrest, rfl⟩ := ih bus₁ os (Nat.succ.inj hos)
            refine ⟨seg ++ rest, bus', ⟨seg, rest, bus₁, rfl, ?_, hrest⟩, ?_⟩
            · exact run_emitLogMessage.mpr ⟨opened, hemit⟩
            · rw [opens_append, hemit.opens]
              rfl
        | _ => exact hmessage.elim
      · rw [List.countP_cons_of_neg (by simp [hmessage])] at hos
        obtain ⟨rest, bus', hrest, rfl⟩ := ih bus os hos
        refine ⟨[⟨.sys c, r⟩] ++ rest, bus', ⟨_, rest, bus, rfl, ?_, hrest⟩, rfl⟩
        exact (run_onLog_other hmessage).mpr ⟨rfl, rfl⟩

end Log

/-- The log changes nothing in what the tool does, whatever the bus answers. Of
the messages it lacks the first ones, as many as there were before the bus was
there, and no other. Both directions: every run of the tool has such a log, and
every log comes from a run. -/
theorem mainOnBus_iff {b : Build} {fuel : Nat} {argv : List (List UInt8)} {ret : Option Int32}
    {events : List (LogCall ⊕ SysEvent)} {os : List Bool} :
    (∃ tr bus, Run (mainOnBus b fuel argv) tr (ret, bus) ∧ seen tr = events ∧ opens tr = os)
      ↔ ∃ tr, Run (main b fuel argv) tr ret
        ∧ os.length = tr.countP (fun ev => IsMessage ev.1)
        ∧ events = (dropMessages (refusals os) tr).map logged := by
  constructor
  · rintro ⟨tr', bus, hrun, rfl, rfl⟩
    obtain ⟨tr, hmain, hexpands⟩ := run_interpState.mp hrun
    obtain ⟨hlength, hseen⟩ := expands_shows hexpands
    exact ⟨tr, hmain, hlength, hseen⟩
  · rintro ⟨tr, hmain, hlength, rfl⟩
    obtain ⟨tr', bus, hexpands, rfl⟩ := exists_expands tr false os hlength
    refine ⟨tr', bus, run_interpState.mpr ⟨tr, hmain, hexpands⟩, ?_, rfl⟩
    exact (expands_shows hexpands).2

end Retimer
