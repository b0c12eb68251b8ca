import Retimer.HashService
import Retimer.RtManager
import Retimer.Handlers

/-!
# The hash service on the bus

`main` of `dbus-service-retimer` (`serviceMain`) and the callbacks of
its vtable. The bus library calls them while it processes a message
(`Processed`), and the getter of `Digest` a second time when the change
of the property is announced. What a client sees of the service is in
the events: the values in its replies and signals.

A message that none of the callbacks is for is left to the library. So
is what it makes of the results of callbacks, beyond the values that
were appended.

The getter finds its entry by the number at the end of the object's
path, with `sscanf` (`scanRetimerId`, `scanUnsigned`), and looks at it
without a test of the range. For the paths that the service registers
the number is the one of the retimer (`scan_retimerPath`, by
evaluation), and `propertyGetHashDigest_retimerPath` is the getter
there.

The last section takes the bus away again: read as a program over system
calls (`ServiceCall.onSys`), the method on the bus is the
`methodComputeHash` that requests are served with
(`interp_methodComputeHashOnBus`), so that what is known of the latter
is known of the former.
-/

namespace Retimer

open Interaction

/-! ## Objects -/

def retimerPathPrefix : String := "/com/Nvidia/ComputeHash/HGX_FW_PCIeRetimer_"

def retimerPath (retimerId : Nat) : String := retimerPathPrefix ++ toString retimerId

def computeHashInterface : String := "com.Nvidia.ComputeHash"

inductive HashProperty where
  | digest
  | algorithm
deriving DecidableEq

inductive VtableEntry where
  | method (member signature : String)
  | property (member signature : String) (get : HashProperty) (emitsChange : Bool)
deriving DecidableEq

def hashVtable : List VtableEntry :=
  [.method "GetHash" "u", .property "Digest" "s" .digest true,
    .property "Algorithm" "s" .algorithm false]

/-! ## The bus -/

/-- What `sd_bus_process` did, and the callbacks it calls for that. -/
inductive Processed where
  | failed
  | idle
  | other
  | getHash
  | read (path : String) (properties : List HashProperty)
deriving DecidableEq

inductive ServiceCall where
  | sdBusOpenSystem
  | sdBusRequestName (name : String)
  | sdBusAddObjectManager (path : String)
  | sdBusAddObjectVtable (path interface : String) (vtable : List VtableEntry)
  | sdBusProcess
  | sdBusWait
  | sdBusUnref
  | sdBusMessageAppend (path : String) (property : HashProperty) (value : List UInt8)
  | sdBusEmitPropertiesChanged (path interface : String) (property : HashProperty)
      (value : List UInt8)
  | outOfBounds
  | sys (c : Call)
deriving DecidableEq

@[reducible] def ServiceAnswer : ServiceCall → Type
  | .sdBusProcess => Processed
  | .sdBusEmitPropertiesChanged _ _ _ _ | .sdBusUnref => Unit
  | .outOfBounds => List UInt8
  | .sys c => Answer c
  | .sdBusOpenSystem | .sdBusRequestName _ | .sdBusAddObjectManager _
  | .sdBusAddObjectVtable _ _ _ | .sdBusWait | .sdBusMessageAppend _ _ _ => Bool

abbrev Service : Type → Type := Prog ServiceCall ServiceAnswer

abbrev ServiceEvent : Type := Event ServiceCall ServiceAnswer

/-- A call outside the bus. -/
def Call.onService (c : Call) : Service (Answer c) := Prog.perform (ServiceCall.sys c)

/-! ## Getters -/

/-- What `sscanf` makes of a conversion. -/
inductive Scanned where
  | inputFailure
  | matchingFailure
  | converted (value : UInt32)
deriving DecidableEq

/-- `%u`: `strtoul`, which stays within 64 bits, cut to 32. -/
def scanUnsigned (s : List UInt8) : Scanned :=
  if s.dropWhile isspace = [] then .inputFailure
  else
    match strtol s 10 with
    | none => .matchingFailure
    | some n => .converted (if n.natAbs < 2 ^ 64 then UInt32.ofInt n else UInt32.ofNat (2 ^ 32 - 1))

/-- The literal part of the format, then `%u`. -/
def scanRetimerId : List UInt8 → List UInt8 → Scanned
  | [], s => scanUnsigned s
  | _ :: _, [] => .inputFailure
  | f :: format, c :: s => if f = c then scanRetimerId format s else .matchingFailure

/-- The string in `g_retimerHash[retimerId]`; behind the array there is whatever
there is. -/
def hashEntry (digests : Digests) (retimerId : Nat) : Service (List UInt8) := do
  if retimerId < maxRetimers then
    return digests.property retimerId
  Prog.perform ServiceCall.outOfBounds

/-- What the getter of `Digest` appends to a message. -/
def propertyGetHashDigest (digests : Digests) (path : String) : Service (Option (List UInt8)) := do
  match scanRetimerId (bytesOf retimerPathPrefix) (bytesOf path) with
  | .matchingFailure => return none
  | .inputFailure => do
      let digest ← hashEntry digests 0xFF
      return some digest
  | .converted retimerId => do
      let digest ← hashEntry digests retimerId.toNat
      return some digest

def hashingAlgorithm : List UInt8 := bytesOf "SHA384"

def HashProperty.get (digests : Digests) (path : String) :
    HashProperty → Service (Option (List UInt8))
  | .digest => propertyGetHashDigest digests path
  | .algorithm => return some hashingAlgorithm

/-- The reply to a message that reads properties. -/
def replyProperties (digests : Digests) (path : String) : List HashProperty → Service Unit
  | [] => return ()
  | property :: rest => do
      match ← property.get digests path with
      | none => return ()
      | some value => do
          let appended ← Prog.perform (ServiceCall.sdBusMessageAppend path property value)
          if appended = false then
            return ()
          replyProperties digests path rest

/-- `sd_bus_emit_properties_changed` for `Digest`; nobody looks at its result. -/
def emitDigestChanged (digests : Digests) (path : String) : Service Unit := do
  match ← propertyGetHashDigest digests path with
  | none => return ()
  | some value =>
      Prog.perform (ServiceCall.sdBusEmitPropertiesChanged path computeHashInterface .digest value)

/-! ## `GetHash` -/

/-- `method_computeHash`, with what it announces. -/
def methodComputeHashOnBus (b : Build) (fuel : Nat) (behind : UInt8) (digests : Digests) :
    Service (Option (Int32 × Digests)) := do
  match ← Call.onService .sdBusMessageRead with
  | none => return some (exitFailure, digests)
  | some retimerId => do
      if retimerId.toNat ≥ maxRetimers then
        let ret ← Call.onService .sdBusReplyInvalidArgument
        return some (ret, digests)
      let replied ← Call.onService .sdBusReplyMethodReturn
      if replied = false then
        return some (exitFailure, digests)
      let digests := digests.store retimerId.toNat []
      match ← Prog.interp Call.onService
          (readFWImagenComputeHash b fuel behind retimerId.toNat digests) with
      | none => return none
      | some (ret, digests) => do
          emitDigestChanged digests (retimerPath retimerId.toNat)
          return some (ret, digests)

/-! ## `main` -/

/-- `count` turns of the bus loop; `none` when it is still running. -/
def busLoop (b : Build) (fuel : Nat) (behind : UInt8) : Nat → Digests → Service (Option Int32)
  | 0, _ => return none
  | count + 1, digests => do
      match ← Prog.perform ServiceCall.sdBusProcess with
      | .failed => do
          Prog.perform ServiceCall.sdBusUnref
          return some exitFailure
      | .idle => do
          let waited ← Prog.perform ServiceCall.sdBusWait
          if waited = false then
            Prog.perform ServiceCall.sdBusUnref
            return some exitFailure
          busLoop b fuel behind count digests
      | .other => busLoop b fuel behind count digests
      | .getHash => do
          match ← methodComputeHashOnBus b fuel behind digests with
          | none => return none
          | some (_, digests) => busLoop b fuel behind count digests
      | .read path properties => do
          replyProperties digests path properties
          busLoop b fuel behind count digests

/-- The loop that registers the objects: whether all were accepted. -/
def registerObjects : List Nat → Service Bool
  | [] => return true
  | i :: rest => do
      let added ← Prog.perform
        (ServiceCall.sdBusAddObjectVtable (retimerPath i) computeHashInterface hashVtable)
      if added = false then
        return false
      registerObjects rest

/-- `main` of `dbus-service-retimer`, for `count` turns of its loop. -/
def serviceMain (b : Build) (dbusServiceName : String) (fuel : Nat) (behind : UInt8)
    (count : Nat) : Service (Option Int32) := do
  let opened ← Prog.perform ServiceCall.sdBusOpenSystem
  if opened = false then
    return some exitFailure
  let named ← Prog.perform (ServiceCall.sdBusRequestName dbusServiceName)
  if named = false then
    Prog.perform ServiceCall.sdBusUnref
    return some exitFailure
  let managed ← Prog.perform (ServiceCall.sdBusAddObjectManager "/com/Nvidia/ComputeHash")
  if managed = false then
    Prog.perform ServiceCall.sdBusUnref
    return some exitFailure
  let registered ← registerObjects (List.range 8)
  if registered = false then
    Prog.perform ServiceCall.sdBusUnref
    return some exitFailure
  busLoop b fuel behind count initialDigests

/-! ## The service without its bus -/

/-- What the calls of the library are for the digests: nothing but the signal. -/
def ServiceCall.onSys : (c : ServiceCall) → Sys (ServiceAnswer c)
  | .sys c => Sys.request c
  | .sdBusEmitPropertiesChanged path _ _ _ => do
      match scanRetimerId (bytesOf retimerPathPrefix) (bytesOf path) with
      | .converted retimerId => Sys.request (.sdBusEmitPropertiesChanged retimerId.toNat)
      | _ => return ()
  | .outOfBounds => return []
  | .sdBusProcess => return .failed
  | .sdBusUnref => return ()
  | .sdBusOpenSystem | .sdBusRequestName _ | .sdBusAddObjectManager _
  | .sdBusAddObjectVtable _ _ _ | .sdBusWait | .sdBusMessageAppend _ _ _ => return false

section OnSys

open Interaction.Prog

theorem scan_retimerPath : ∀ r < maxRetimers,
    scanRetimerId (bytesOf retimerPathPrefix) (bytesOf (retimerPath r))
      = .converted (UInt32.ofNat r) := by
  decide +kernel

theorem toNat_ofNat_retimer {r : Nat} (hr : r < maxRetimers) : (UInt32.ofNat r).toNat = r := by
  rw [UInt32.toNat_ofNat']
  exact Nat.mod_eq_of_lt (Nat.lt_trans hr (by decide))

/-- The getter finds the entry of the object. -/
theorem propertyGetHashDigest_retimerPath {r : Nat} (hr : r < maxRetimers) {digests : Digests} :
    propertyGetHashDigest digests (retimerPath r) = .ret (some (digests.property r)) := by
  rw [propertyGetHashDigest, scan_retimerPath r hr]
  dsimp only
  rw [toNat_ofNat_retimer hr, hashEntry, if_pos hr]
  rfl

theorem emitDigestChanged_retimerPath {r : Nat} (hr : r < maxRetimers) {digests : Digests} :
    emitDigestChanged digests (retimerPath r) = perform (ServiceCall.sdBusEmitPropertiesChanged
      (retimerPath r) computeHashInterface .digest (digests.property r)) := by
  rw [emitDigestChanged, propertyGetHashDigest_retimerPath hr, ret_bind]

theorem interp_onService {α : Type} {p : Sys α} :
    interp ServiceCall.onSys (interp Call.onService p) = p := by
  rw [interp_interp]
  exact interp_id

theorem interp_onService_bind {α : Type} {c : Call} {f : Answer c → Service α} :
    interp ServiceCall.onSys (Call.onService c >>= f)
      = Sys.request c >>= fun a => interp ServiceCall.onSys (f a) := rfl

theorem interp_emitDigestChanged {r : Nat} (hr : r < maxRetimers) {digests : Digests} :
    interp ServiceCall.onSys (emitDigestChanged digests (retimerPath r))
      = Sys.request (.sdBusEmitPropertiesChanged r) := by
  have hsignal : ServiceCall.onSys (.sdBusEmitPropertiesChanged (retimerPath r)
      computeHashInterface .digest (digests.property r))
      = Sys.request (.sdBusEmitPropertiesChanged r) := by
    rw [ServiceCall.onSys, scan_retimerPath r hr]
    dsimp only
    rw [toNat_ofNat_retimer hr]
  rw [emitDigestChanged_retimerPath hr, interp_perform, hsignal]

/-- Without its bus, the method is the one that requests are served with. -/
theorem interp_methodComputeHashOnBus {b : Build} {fuel : Nat} {behind : UInt8}
    {digests : Digests} :
    interp ServiceCall.onSys (methodComputeHashOnBus b fuel behind digests)
      = methodComputeHash b fuel behind digests := by
  rw [methodComputeHashOnBus, methodComputeHash, interp_onService_bind]
  congr 1
  funext retimerId
  cases retimerId with
  | none => rfl
  | some retimerId =>
      dsimp only
      by_cases hinvalid : retimerId.toNat ≥ maxRetimers
      · rw [if_pos hinvalid, if_pos hinvalid]
        rfl
      · rw [if_neg hinvalid, if_neg hinvalid, interp_onService_bind]
        congr 1
        funext replied
        by_cases hreplied : replied = false
        · rw [if_pos hreplied, if_pos hreplied]
          rfl
        · rw [if_neg hreplied, if_neg hreplied, interp_bind, interp_onService]
          congr 1
          funext res
          rcases res with _ | ⟨ret, digests'⟩
          · rfl
          · dsimp only
            rw [interp_bind, interp_emitDigestChanged (Nat.not_le.mp hinvalid)]
            rfl

end OnSys

end Retimer
