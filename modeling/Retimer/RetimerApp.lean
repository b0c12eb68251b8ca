import Retimer.Prog
import Retimer.Bytes
import Mathlib.Data.List.DropRight

/-!
# The SKU of a retimer

`nvidia-retimer-app` forms the SKU of a retimer from the ids that its
PCIe switch publishes, and sets it in the inventory (`retimer_app.cpp`).
Its requests are the two D-Bus calls on a property, `getDBusProperty`
and `setDBusProperty`. What an exception makes of a call is part of its
answer, and what it makes of a function is part of its result: a
function that may throw returns in `Except StdException`, and the
callback of a signal that lets an exception through has it as its
result. Messages on stderr are left out.

`getSKUId` and its end `formatSKUId` are C++ on strings. They are
translated with the members of `std::string` and the stream manipulators
as these are documented, on lists of bytes: `substr` throws behind the
end of the string, `setw` pads and never cuts, `toupper` is the one of
the C locale. Nothing is assumed of what a switch publishes; the strings
may be of any length and need not be numbers.
-/

namespace Retimer

open Interaction

structure DBusMapping where
  objectPath : String
  interface : String
  propertyName : String
deriving DecidableEq

/-- The functions of `RetimerApp` that go to the bus. -/
inductive DBusCall where
  | getDBusProperty (dbusMap : DBusMapping)
  | setDBusProperty (dbusMap : DBusMapping) (value : List UInt8)
deriving DecidableEq

/-- The value read, `none` where the call throws; whether the value was set. -/
@[reducible] def DBusAnswer : DBusCall → Type
  | .getDBusProperty _ => Option (List UInt8)
  | .setDBusProperty _ _ => Bool

abbrev DBus : Type → Type := Prog DBusCall DBusAnswer

abbrev DBusEvent : Type := Event DBusCall DBusAnswer

namespace DBus

def getDBusProperty (dbusMap : DBusMapping) : DBus (Option (List UInt8)) :=
  Prog.perform (DBusCall.getDBusProperty dbusMap)

def setDBusProperty (dbusMap : DBusMapping) (value : List UInt8) : DBus Bool :=
  Prog.perform (DBusCall.setDBusProperty dbusMap value)

end DBus

/-! ## Names -/

def retimerSwitchesBasePath : String :=
  "/xyz/openbmc_project/inventory/system/fabrics/HGX_PCIeRetimerTopology_"

def retimerInventoryPath : String :=
  "/xyz/openbmc_project/inventory/system/chassis/HGX_PCIeRetimer_"

def switchInterface : String := "xyz.openbmc_project.Inventory.Item.Switch"

def assetInterface : String := "xyz.openbmc_project.Inventory.Decorator.Asset"

/-! ## Strings and streams -/

inductive StdException where
  | outOfRange
deriving DecidableEq

/-- `s.substr(pos)` -/
def substr (s : List UInt8) (pos : Nat) : Except StdException (List UInt8) :=
  if s.length < pos then .error .outOfRange else .ok (s.drop pos)

/-- What `std::setw(width)` and `std::setfill('0')` make of the next string: it is
padded on the left, never cut. -/
def setw (width : Nat) (s : List UInt8) : List UInt8 := s.leftpad width 0x30

/-- `::toupper` in the C locale -/
def toupper (c : UInt8) : UInt8 := if 0x61 ≤ c ∧ c ≤ 0x7A then c - 0x20 else c

/-! ## The SKU -/

/-- The end of `getSKUId`, where both ids were read and are not empty. -/
def formatSKUId (deviceId vendorId : List UInt8) : Except StdException (List UInt8) := do
  let device ← substr deviceId 2
  let vendor ← substr vendorId 2
  let skuId := setw 4 device ++ setw 4 vendor
  return 0x30 :: 0x78 :: skuId.map toupper

/-- The SKU of the switch at `objPath`, empty where one of the two ids could not
be read or is empty itself. -/
def getSKUId (objPath : String) : DBus (Except StdException (List UInt8)) := do
  let deviceId ← DBus.getDBusProperty ⟨objPath, switchInterface, "DeviceId"⟩
  match deviceId with
  | none => return .ok []
  | some deviceId =>
      let vendorId ← DBus.getDBusProperty ⟨objPath, switchInterface, "VendorId"⟩
      match vendorId with
      | none => return .ok []
      | some vendorId =>
          if deviceId.isEmpty || vendorId.isEmpty then
            return .ok []
          else
            return formatSKUId deviceId vendorId

/-- `path.substr(path.rfind("_") + 1)` -/
def retimerId (path : String) : String := .ofList (path.toList.rtakeWhile (· ≠ '_'))

/-- `switchObjectCallback` for a message from `path`. Only `setDBusProperty` is in a
`try` block. -/
def switchObjectCallback (path : String) : DBus (Except StdException Unit) := do
  if path.startsWith retimerSwitchesBasePath then
    let skuId ← getSKUId path
    match skuId with
    | .error e => return .error e
    | .ok skuId =>
        if skuId.isEmpty then
          return .ok ()
        else
          let _ ← DBus.setDBusProperty
            ⟨retimerInventoryPath ++ retimerId path, assetInterface, "SKU"⟩ skuId
          return .ok ()
  else
    return .ok ()

end Retimer
