import Retimer.RetimerApp
import Retimer.Sys
import Retimer.Handlers

/-!
# The application on the bus

The rest of `nvidia-retimer-app`, down to the messages that it sends:
the mapper is asked for the service of an object (`getService`), the
service for a property. `main` (`retimerApp`) first goes through the
retimers that are there already (`startRetimers`), then adds two matches
and serves their signals one after the other (`eventLoop`).

A message is a request with its destination, path, interface and member,
and the answer is what the code takes off the reply: nothing where the
call throws. So a trace of the program is the list of messages with what
became of them, and everything that is proved about the application is
about such traces. The two calls of `RetimerApp` on a property become
programs over these messages (`DBusCall.onBus`).

An exception is caught in `main` until the loop starts. One that escapes
a callback goes to the bus library, which may end the loop. Values that
the code reads off a message and does not look at are left out: of a
map, what stands behind its keys (`MapKeys`, in the order of a
`std::map`).
-/

namespace Retimer

open Interaction

/-! ## Names -/

def numOfRetimers : Nat := 8

/-- The component identifier of the package. -/
def retimerSoftwareId : List UInt8 := bytesOf "0x8000"

def retimerFWInventoryBasePath : String := "/xyz/openbmc_project/software/"
def retimerFWInventoryPath : String := retimerFWInventoryBasePath ++ "HGX_FW_PCIeRetimer_"
def dbusProperties : String := "org.freedesktop.DBus.Properties"
def versionInterface : String := "xyz.openbmc_project.Software.Version"
def mapperService : String := "xyz.openbmc_project.ObjectMapper"
def mapperPath : String := "/xyz/openbmc_project/object_mapper"
def mapperInterface : String := "xyz.openbmc_project.ObjectMapper"

def switchRule : String :=
  "interface='org.freedesktop.DBus.Properties',type='signal',"
    ++ "member='PropertiesChanged',arg0='xyz.openbmc_project.Inventory.Item."
    ++ "Switch',"

def softwareRule : String :=
  "interface='org.freedesktop.DBus.ObjectManager',type='signal',"
    ++ "member='InterfacesAdded',"
    ++ ("arg0path='" ++ retimerFWInventoryBasePath ++ "',")

/-! ## Messages -/

/-- The keys of a `std::map` from strings, in its order. -/
structure MapKeys where
  keys : List String
  ordered : keys.Pairwise (· < ·)

theorem MapKeys.nodup (map : MapKeys) : map.keys.Nodup :=
  map.ordered.imp fun {a b} (hlt : a < b) (heq : a = b) => String.lt_irrefl b (heq ▸ hlt)

/-- The header of a method call. -/
structure MethodCall where
  service : String
  path : String
  interface : String
  member : String
deriving DecidableEq

/-- A signal of one of the matches. -/
inductive Signal where
  | propertiesChanged (path : String)
  /-- The object and its interfaces, `none` where the message cannot be read. -/
  | interfacesAdded (message : Option (String × MapKeys))

inductive BusException where
  | std (e : StdException)
  | sdBusError
deriving DecidableEq

inductive BusCall where
  | getObject (m : MethodCall) (path : String) (interfaces : List String)
  | getSubTreePaths (m : MethodCall) (rootPath : String) (depth : Int32)
      (interfaces : List String)
  | get (m : MethodCall) (interface propertyName : String)
  | set (m : MethodCall) (interface propertyName : String) (value : List UInt8)
  | addMatch (rule : String)
  | nextSignal
  | escaped (e : BusException)
  | undefinedBehaviour
deriving DecidableEq

/-- `none` and `false` where the call throws. There is no next signal when the
loop has ended, and it goes on after an exception if the bus library has
caught it. -/
@[reducible] def BusAnswer : BusCall → Type
  | .getObject _ _ _ => Option MapKeys
  | .getSubTreePaths _ _ _ _ => Option (List String)
  | .get _ _ _ => Option (List UInt8)
  | .nextSignal => Option Signal
  | .set _ _ _ _ | .addMatch _ | .escaped _ => Bool
  | .undefinedBehaviour => Empty

abbrev Bus : Type → Type := Prog BusCall BusAnswer

abbrev BusEvent : Type := Event BusCall BusAnswer

/-! ## Services and properties -/

/-- `GetObject` of the mapper. -/
def getObjectCall (path interface : String) : BusCall :=
  .getObject ⟨mapperService, mapperPath, mapperInterface, "GetObject"⟩ path [interface]

def getService (path interface : String) : Bus (Option String) := do
  match ← Prog.perform (getObjectCall path interface) with
  | none => return none
  | some mapperResponse =>
      match mapperResponse.keys with
      | [] => do
          -- `begin()` of an empty map is dereferenced
          let never ← Prog.perform BusCall.undefinedBehaviour
          nomatch never
      | service :: _ => return some service

def getCall (service : String) (dbusMap : DBusMapping) : BusCall :=
  .get ⟨service, dbusMap.objectPath, dbusProperties, "Get"⟩ dbusMap.interface
    dbusMap.propertyName

def setCall (service : String) (dbusMap : DBusMapping) (value : List UInt8) : BusCall :=
  .set ⟨service, dbusMap.objectPath, dbusProperties, "Set"⟩ dbusMap.interface
    dbusMap.propertyName value

def getDBusProperty (dbusMap : DBusMapping) : Bus (Option (List UInt8)) := do
  match ← getService dbusMap.objectPath dbusMap.interface with
  | none => return none
  | some service => Prog.perform (getCall service dbusMap)

def setDBusProperty (dbusMap : DBusMapping) (value : List UInt8) : Bus Bool := do
  match ← getService dbusMap.objectPath dbusMap.interface with
  | none => return false
  | some service => Prog.perform (setCall service dbusMap value)

/-- What a call of `RetimerApp` comes down to. -/
def DBusCall.onBus : (c : DBusCall) → Bus (DBusAnswer c)
  | .getDBusProperty dbusMap => Retimer.getDBusProperty dbusMap
  | .setDBusProperty dbusMap value => Retimer.setDBusProperty dbusMap value

/-- `GetSubTreePaths` of the mapper, for switches at any depth. -/
def getSubTreePathsCall (rootPath : String) : BusCall :=
  .getSubTreePaths ⟨mapperService, mapperPath, mapperInterface, "GetSubTreePaths"⟩ rootPath 0
    [switchInterface]

def getSwitchDBusObject (rootPath : String) : Bus (Option String) := do
  match ← Prog.perform (getSubTreePathsCall rootPath) with
  | none => return none
  | some [] => return some ""
  | some (path :: _) => return some path

/-! ## Start -/

/-- The first `try` block of `main`: the SKU of retimer `i`, empty where there
is none. Where the mapper finds no switch, `getSwitchDBusObject` returns the
empty path, and the ids are asked for there. -/
def existingSku (i : Nat) : Bus (List UInt8) := do
  match ← getSwitchDBusObject (retimerSwitchesBasePath ++ toString i) with
  | none => return []
  | some switchPath =>
      match ← Prog.interp DBusCall.onBus (getSKUId switchPath) with
      | .error _ => return []
      | .ok skuId => return skuId

def skuMapping (id : String) : DBusMapping := ⟨retimerInventoryPath ++ id, assetInterface, "SKU"⟩

def softwareIdMapping (objectPath : String) : DBusMapping :=
  ⟨objectPath, versionInterface, "SoftwareId"⟩

/-- One turn of the loop in `main`. -/
def startRetimer (i : Nat) : Bus Unit := do
  let skuId ← existingSku i
  if skuId.isEmpty = false then
    let _ ← setDBusProperty (skuMapping (toString i)) skuId
  let _ ← setDBusProperty (softwareIdMapping (retimerFWInventoryPath ++ toString i))
    retimerSoftwareId
  return ()

def startRetimers : List Nat → Bus Unit
  | [] => return ()
  | i :: rest => do
      startRetimer i
      startRetimers rest

/-! ## Signals -/

/-- Which of the matches are there. -/
structure Matches where
  switchObjectAddedMatch : Bool
  softwareObjectAddedMatch : Bool
deriving DecidableEq

def listenForGPUManagerEvents : Bus Matches := do
  let switchMatch ← Prog.perform (BusCall.addMatch switchRule)
  if switchMatch = false then
    return ⟨false, false⟩
  let softwareMatch ← Prog.perform (BusCall.addMatch softwareRule)
  return ⟨true, softwareMatch⟩

/-- The loop over the interfaces in `softwareObjectCallback`. -/
def addedInterfaces (path : String) : List String → Bus Unit
  | [] => return ()
  | intf :: rest => do
      if intf = versionInterface then
        if path.startsWith retimerFWInventoryPath then
          let objectPath := retimerFWInventoryPath
            ++ .ofList (path.toList.drop retimerFWInventoryPath.length)
          let _ ← setDBusProperty (softwareIdMapping objectPath) retimerSoftwareId
      addedInterfaces path rest

def softwareObjectCallback :
    Option (String × MapKeys) → Bus (Except BusException Unit)
  | none => return .error .sdBusError
  | some (path, interfaces) => do
      addedInterfaces path interfaces.keys
      return .ok ()

/-- A signal, handed to the callback of its match. -/
def dispatch (added : Matches) : Signal → Bus (Except BusException Unit)
  | .propertiesChanged path => do
      if added.switchObjectAddedMatch = false then
        return .ok ()
      match ← Prog.interp DBusCall.onBus (switchObjectCallback path) with
      | .error e => return .error (.std e)
      | .ok () => return .ok ()
  | .interfacesAdded message => do
      if added.softwareObjectAddedMatch = false then
        return .ok ()
      softwareObjectCallback message

/-- `event.loop()`, for `count` signals. A callback that throws gives the bus
library the choice of going on with the next one. -/
def eventLoop (added : Matches) : Nat → Bus (Except BusException Unit)
  | 0 => return .ok ()
  | count + 1 => do
      match ← Prog.perform BusCall.nextSignal with
      | none => return .ok ()
      | some signal =>
          match ← dispatch added signal with
          | .ok () => eventLoop added count
          | .error e => do
              let caught ← Prog.perform (BusCall.escaped e)
              if caught then eventLoop added count else return .error e

/-- `main` of `nvidia-retimer-app`, for `count` signals. -/
def retimerApp (count : Nat) : Bus (Except BusException Unit) := do
  startRetimers (List.range numOfRetimers)
  let added ← listenForGPUManagerEvents
  eventLoop added count

end Retimer
