import Retimer.UpdateMain

/-!
# The inventory of retimers

`nvidia-rt-monitor` reads a list of retimers from a JSON file and puts
an object on the bus for each (`rt_manager.cpp`, `retimer.hpp`,
`rt_util.hpp`). What it asks of its surroundings is the object's
registration with sd-bus, a command to be run by `aries-info`, and the
signal that the object is there. The file has been read before the model
starts; what an exception makes of a call is part of its answer.
Messages on stdout and stderr are left out.

An entry of the array is a `Fru`, whose fields may be missing. `readFru`
is the part of the loop that may throw, `makeRetimer` the constructor of
an object (`RetimerObject`, with all it inherits), `addFru` one
iteration with its handler, and `rtManager` the constructor of the
manager.

The numbers in the file are text. `stoi` is `std::stoi` as it is
documented, on top of `strtol` with its white space, sign and `0x`; it
throws on text without a digit and on a number that does not fit an
`int`. What comes back is stored in a byte.
-/

namespace Retimer

open Interaction

inductive InventoryCall where
  | createObject (objPath : String)
  | executeCmd (cmd : String)
  | emitObjectAdded (objPath : String)
deriving DecidableEq

/-- Whether the object was registered, or its constructor throws; the lines that a
command wrote, `none` where `popen` fails. -/
@[reducible] def InventoryAnswer : InventoryCall → Type
  | .createObject _ => Bool
  | .executeCmd _ => Option (List (List UInt8))
  | .emitObjectAdded _ => Unit

abbrev Inventory : Type → Type := Prog InventoryCall InventoryAnswer

abbrev InventoryEvent : Type := Event InventoryCall InventoryAnswer

/-! ## Numbers -/

inductive ManagerException where
  | json
  | invalidArgument
  | outOfRange
deriving DecidableEq

/-- `isspace` in the C locale -/
def isspace (c : UInt8) : Bool := c = 0x20 || (0x09 ≤ c && c ≤ 0x0D)

def leadingDigits (base : Nat) : List UInt8 → List Nat
  | [] => []
  | c :: text =>
      match hexValue c with
      | some x => if x < base then x :: leadingDigits base text else []
      | none => []

/-- The number that digits stand for, the highest one first. -/
def digitsValue (base : Nat) (digits : List Nat) : Nat :=
  digits.foldl (fun n x => n * base + x) 0

/-- A number without a sign, `none` if there is no digit. To base 16, a `0x` that has a
digit behind it may come first. -/
def unsignedNumber (s : List UInt8) (base : Nat) : Option Nat :=
  let hasPrefix := s.take 2 = [0x30, 0x78] ∨ s.take 2 = [0x30, 0x58]
  let s := if base = 16 ∧ hasPrefix ∧ leadingDigits base (s.drop 2) ≠ [] then s.drop 2 else s
  let digits := leadingDigits base s
  if digits = [] then none else some (digitsValue base digits)

/-- `strtol`, before the result is cut to a `long`. White space and a sign may come first. -/
def strtol (s : List UInt8) (base : Nat) : Option Int :=
  let s := s.dropWhile isspace
  if s.head? = some 0x2D then (unsignedNumber s.tail base).map fun n => -(n : Int)
  else if s.head? = some 0x2B then (unsignedNumber s.tail base).map fun n => (n : Int)
  else (unsignedNumber s base).map fun n => (n : Int)

/-- `std::stoi(s, nullptr, base)`, for a base of at most 16. -/
def stoi (s : List UInt8) (base : Nat) : Except ManagerException Int32 :=
  match strtol s base with
  | none => .error .invalidArgument
  | some value =>
      if -2 ^ 31 ≤ value ∧ value < 2 ^ 31 then .ok (Int32.ofInt value) else .error .outOfRange

/-! ## The device -/

/-- `isprint` in the C locale -/
def isprint (c : UInt8) : Bool := 0x20 ≤ c && c ≤ 0x7E

def stripUnicode (str : List UInt8) : List UInt8 := str.filter isprint

/-- An object of the class `Retimer`, with what it inherits from `Util` and from its
D-Bus interfaces. -/
structure RetimerObject where
  objPath : String
  /-- No constructor sets it. -/
  inventoryPath : String := ""
  b : Int
  d : Int
  manufacturer : List UInt8
  model : List UInt8
  partNumber : List UInt8
  serialNumber : List UInt8
  present : Bool
  prettyName : String
  functional : Bool
  chassisType : String
deriving DecidableEq

def RetimerObject.getInventoryPath (inv : RetimerObject) : String := inv.inventoryPath

/-- `Util::runCommand` with the members `b` and `d`, both of which come from a byte. -/
def Util.runCommand (b d : UInt8) (command : String) : Inventory (List UInt8) := do
  let cmd := "aries-info " ++ command ++ " " ++ toString b.toNat ++ " 0x" ++ hex d.toNat
  match ← Prog.perform (InventoryCall.executeCmd cmd) with
  | none => return []
  | some output => return stripUnicode output.flatten

/-- The constructor of `Retimer`, `none` where it throws. -/
def makeRetimer (objPath : String) (busN address : UInt8) (name : String) :
    Inventory (Option RetimerObject) := do
  if ← Prog.perform (InventoryCall.createObject objPath) then
    let manufacturer ← Util.runCommand busN address "manufacturer"
    let model ← Util.runCommand busN address "model"
    let partNumber ← Util.runCommand busN address "pn"
    let serialNumber ← Util.runCommand busN address "serial"
    let inv : RetimerObject :=
      { objPath, b := busN.toNat, d := address.toNat, manufacturer, model, partNumber,
        serialNumber, present := true, prettyName := "Retimer " ++ name, functional := true,
        chassisType := "xyz.openbmc_project.Inventory.Item.Chassis.ChassisType.Module" }
    let _ ← Prog.perform (InventoryCall.emitObjectAdded objPath)
    return some inv
  else
    return none

/-! ## The manager -/

/-- `BASE_INV_PATH` -/
def baseInvPath : String := "/xyz/openbmc_project/inventory/system/board"

/-- `baseinvInvPath + "/retimer" + id` -/
def invpath (id : String) : String := baseInvPath ++ "/retimer" ++ id

/-- An entry of the array `RT`. A field that is missing or not a string is `none`. -/
structure Fru where
  index : Option String
  bus : Option (List UInt8)
  address : Option (List UInt8)
deriving DecidableEq

def field {α : Type} : Option α → Except ManagerException α
  | none => .error .json
  | some value => .ok value

/-- The variables `id`, `busId` and `devAddr` of the loop. -/
def readFru (fru : Fru) : Except ManagerException (String × UInt8 × UInt8) := do
  let id ← field fru.index
  let busN ← field fru.bus
  let address ← field fru.address
  let busId ← stoi busN 10
  let devAddr ← stoi address 16
  return (id, toUint8 busId, toUint8 devAddr)

/-- An iteration of the loop. The handler goes on with the next entry. -/
def addFru (rtInvs : List RetimerObject) (fru : Fru) : Inventory (List RetimerObject) :=
  match readFru fru with
  | .error _ => return rtInvs
  | .ok (id, busId, devAddr) => do
      if rtInvs.any (fun inv => inv.getInventoryPath = invpath id) then
        return rtInvs
      else
        match ← makeRetimer (invpath id) busId devAddr id with
        | none => return rtInvs
        | some inv => return rtInvs ++ [inv]

/-- The constructor of `RtManager`, with `rtInvs` at its end. The JSON value is `none`
if the file cannot be read or is `null`, and its array is `none` if there is no `RT`. -/
def rtManager (fruJson : Option (Option (List Fru))) :
    Inventory (Except ManagerException (List RetimerObject)) :=
  match fruJson with
  | none => return .ok []
  | some rt =>
      match field rt with
      | .error e => return .error e
      | .ok frus => do
          let rtInvs ← frus.foldlM addFru []
          return .ok rtInvs

end Retimer
