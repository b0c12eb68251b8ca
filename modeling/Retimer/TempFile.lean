import Retimer.Sys

/-!
# The temporary file

The file firmware is read into, as the calls on it see and change it:
its bytes, the offset of its descriptor, and whether its name still
stands in the directory. Reads and writes may transfer less than they
were asked to, and a seek may fail.

`TempFile.step` is the environment, one clause for each call.
`TempFile.Effect` is its inversion (`effect_of_step`): what an event can
have done to the file at all, as a list of cases that a proof about a
run goes through. The lemmas on `truncate`, `writeAt` and `rewound` say
what a case leaves of the contents; `writeAt_start` is the one a
read-back needs, where what was there before remains behind the bytes
that were written.
-/

namespace Retimer

open Interaction

structure TempFile where
  named : Bool
  fd : Int
  contents : List UInt8
  offset : Nat

namespace TempFile

/-- `ftruncate`, which fills up with zeros. -/
def truncate (f : TempFile) (length : Nat) : TempFile :=
  { f with contents :=
      f.contents.take length ++ List.replicate (length - f.contents.length) 0 }

@[simp] theorem length_truncate (f : TempFile) (length : Nat) :
    (f.truncate length).contents.length = length := by
  simp only [truncate, List.length_append, List.length_take, List.length_replicate]
  omega

/-- `bs` written at the offset; a gap before it reads as zeros. Writing nothing
leaves no gap. -/
def writeAt (f : TempFile) (bs : List UInt8) : TempFile :=
  let gap := if bs = [] then 0 else f.offset - f.contents.length
  { f with
    contents := overwrite (f.contents ++ List.replicate gap 0) f.offset bs
    offset := f.offset + bs.length }

/-- After a seek to the start, which may fail. -/
def rewound (f : TempFile) (sought : Bool) : TempFile :=
  if sought then { f with offset := 0 } else f

/-- One event, for the file at `path`. -/
def step (path : String) : Env Call Answer TempFile
  | f, ⟨.openFile p _, fd⟩, f' =>
      f' = if p = path ∧ 0 ≤ fd then ⟨true, fd, if f.named then f.contents else [], 0⟩ else f
  | f, ⟨.unlink p, true⟩, f' => f' = if p = path then { f with named := false } else f
  | f, ⟨.fstat fd, some size⟩, f' => f' = f ∧ (fd = f.fd → size = f.contents.length)
  | f, ⟨.ftruncate fd length, true⟩, f' => f' = if fd = f.fd then f.truncate length else f
  | f, ⟨.lseek fd off, true⟩, f' => f' = if fd = f.fd then { f with offset := off } else f
  | f, ⟨.read fd n, some bs⟩, f' =>
      if fd = f.fd then
        bs.val = slice f.contents f.offset bs.val.length
          ∧ (bs.val = [] → n = 0 ∨ f.contents.length ≤ f.offset)
          ∧ f' = { f with offset := f.offset + bs.val.length }
      else f' = f
  | f, ⟨.write fd buf, some n⟩, f' =>
      f' = if fd = f.fd then f.writeAt (buf.take n.val) else f
  | f, _, f' => f' = f

/-- What one event can do to the file. Opening it again finds the contents only
where the file still has its name, and a write puts the bytes it took where the
offset is. -/
inductive Effect (f : TempFile) : SysEvent → TempFile → Prop where
  | moved {ev : SysEvent} (offset : Nat) : Effect f ev { f with offset := offset }
  | opened {p : String} {flags : OpenFlags} {fd : Int} :
      Effect f ⟨.openFile p flags, fd⟩ ⟨true, fd, if f.named then f.contents else [], 0⟩
  | unlinked {p : String} : Effect f ⟨.unlink p, true⟩ { f with named := false }
  | truncated {fd : Int} {length : Nat} : Effect f ⟨.ftruncate fd length, true⟩ (f.truncate length)
  | written {fd : Int} {buf : List UInt8} {n : Fin (buf.length + 1)} :
      Effect f ⟨.write fd buf, some n⟩ (f.writeAt (buf.take n.val))

theorem effect_of_step {path : String} {f f' : TempFile} {ev : SysEvent} (h : step path f ev f') :
    f.Effect ev f' := by
  have hkept : f' = f → f.Effect ev f' := by
    rintro rfl
    exact .moved f'.offset
  obtain ⟨c, a⟩ := ev
  cases c with
  | openFile p flags =>
      obtain rfl := h
      split
      · exact .opened
      · exact .moved f.offset
  | unlink p =>
      cases a with
      | false => exact hkept h
      | true =>
          obtain rfl := h
          split
          · exact .unlinked
          · exact .moved f.offset
  | fstat fd =>
      cases a with
      | none => exact hkept h
      | some size => exact hkept h.1
  | ftruncate fd length =>
      cases a with
      | false => exact hkept h
      | true =>
          obtain rfl := h
          split
          · exact .truncated
          · exact .moved f.offset
  | lseek fd off =>
      cases a with
      | false => exact hkept h
      | true =>
          obtain rfl := h
          split
          · exact .moved off
          · exact .moved f.offset
  | read fd n =>
      cases a with
      | none => exact hkept h
      | some bs =>
          simp only [step] at h
          split at h
          · obtain ⟨-, -, rfl⟩ := h
            exact .moved _
          · exact hkept h
  | write fd buf =>
      cases a with
      | none => exact hkept h
      | some n =>
          obtain rfl := h
          split
          · exact .written
          · exact .moved f.offset
  | _ => exact hkept h

theorem step_rewind {path : String} {f f' : TempFile} {sought : Bool}
    (h : step path f ⟨.lseek f.fd 0, sought⟩ f') : f' = f.rewound sought := by
  cases sought with
  | true => exact Eq.trans h (if_pos rfl)
  | false => exact h

@[simp] theorem rewound_fd (f : TempFile) (sought : Bool) : (f.rewound sought).fd = f.fd := by
  cases sought <;> rfl

@[simp] theorem rewound_contents (f : TempFile) (sought : Bool) :
    (f.rewound sought).contents = f.contents := by
  cases sought <;> rfl

theorem rewound_offset {f : TempFile} {sought : Bool} (h : f.offset = 0 ∨ sought = true) :
    (f.rewound sought).offset = 0 := by
  cases sought with
  | true => rfl
  | false => exact h.resolve_right Bool.false_ne_true

/-- Written from the start: behind the bytes that were written the file is as
it was. -/
theorem writeAt_start {f : TempFile} (h : f.offset = 0) (bs : List UInt8) :
    (f.writeAt bs).contents = bs ++ f.contents.drop bs.length := by
  simp only [writeAt, h, Nat.zero_sub, ite_self, List.replicate_zero, List.append_nil, overwrite,
    List.take_zero, List.nil_append, Nat.zero_add]

end TempFile

/-- Transactions and messages, which have nothing to do with files. -/
def IsBus : Call → Prop
  | .i2cWrite _ _ _ | .i2cRead _ _ _ _ | .emitLogMessage _ => True
  | _ => False

theorem TempFile.follows_bus {path : String} {tr : List SysEvent} {f f' : TempFile}
    (h : Follows (TempFile.step path) f tr f') (hbus : ∀ ev ∈ tr, IsBus ev.1) : f' = f := by
  refine Follows.invariant (I := fun g => g = f) ?_ h hbus rfl
  rintro g ⟨c, a⟩ g' hg hev hstep
  cases c with
  | i2cWrite fd slaveId writeData => exact Eq.trans hstep hg
  | i2cRead fd slaveId writeData n => exact Eq.trans hstep hg
  | emitLogMessage m => exact Eq.trans hstep hg
  | _ => exact hev.elim

end Retimer
