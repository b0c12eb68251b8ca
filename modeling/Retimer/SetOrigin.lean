import Retimer.RetimerBus

/-!
# Where a property that is set comes from

Everything that `nvidia-retimer-app` sets on the bus has its reason in
the messages right before: the service is the one that the mapper has
just named (`ServiceNamed`), and the object and the value come from the
switch whose ids were read (`IdsReadAs`), or from the software object
that was added. What a reason is depends on whether the program has
taken a signal yet (`SetAtStart`, `SetOnSignal`); `HasReason` puts the
two together.

The reasons are demands on a message with the messages before it, so the
proof is one weakest precondition in the environment that remembers its
history: a lemma `wp_f` for each function `f` of the application, with
the messages of `f` behind whatever came before. Functions that set
nothing are told from the others by what they can send at all
(`setFor_of_ne`). The demand says nothing of what follows a `Set`, so it
holds of runs that are cut short at any message, and whatever the bus
answers.
-/

namespace Retimer

open Interaction Interaction.Prog

/-! ## The messages before a `Set` -/

/-- The mapper names the service of an object. -/
def ServiceNamed (path interface service : String) (seg : List BusEvent) : Prop :=
  ∃ names : MapKeys, names.keys.head? = some service
    ∧ seg = [⟨getObjectCall path interface, some names⟩]

/-- A property is read, with the question for its service. -/
def ReadAs (dbusMap : DBusMapping) (value : List UInt8) (seg : List BusEvent) : Prop :=
  ∃ service lookup, ServiceNamed dbusMap.objectPath dbusMap.interface service lookup
    ∧ seg = lookup ++ [⟨getCall service dbusMap, some value⟩]

/-- Both ids of a switch are read, and give the SKU. -/
def IdsReadAs (switchPath : String) (skuId : List UInt8) (seg : List BusEvent) : Prop :=
  ∃ deviceId vendorId device vendor,
    ReadAs ⟨switchPath, switchInterface, "DeviceId"⟩ deviceId device
    ∧ ReadAs ⟨switchPath, switchInterface, "VendorId"⟩ vendorId vendor
    ∧ deviceId ≠ [] ∧ vendorId ≠ [] ∧ formatSKUId deviceId vendorId = .ok skuId
    ∧ seg = device ++ vendor

/-- Why something is set before the loop. The switch is the first of the paths
that the mapper has found for the retimer; where it has found none, the path is
the empty one, and the ids are those that were read there. -/
inductive SetAtStart : List BusEvent → DBusMapping → List UInt8 → Prop where
  | sku {past seg : List BusEvent} {i : Nat} {paths : List String} {skuId : List UInt8}
      (hi : i < numOfRetimers) (hids : IdsReadAs (paths.headD "") skuId seg) :
      SetAtStart (past ++ ⟨getSubTreePathsCall (retimerSwitchesBasePath ++ toString i), some paths⟩
        :: seg) (skuMapping (toString i)) skuId
  | softwareId {past : List BusEvent} {i : Nat} (hi : i < numOfRetimers) :
      SetAtStart past (softwareIdMapping (retimerFWInventoryPath ++ toString i)) retimerSoftwareId

/-- Why something is set in the loop: the signal that was taken last names the
switch, or the software object. Nothing but the messages about it stands between
the signal and the `Set`. -/
inductive SetOnSignal : List BusEvent → DBusMapping → List UInt8 → Prop where
  | sku {past seg : List BusEvent} {path : String} {skuId : List UInt8}
      (hpath : path.startsWith retimerSwitchesBasePath) (hids : IdsReadAs path skuId seg) :
      SetOnSignal (past ++ ⟨.nextSignal, some (.propertiesChanged path)⟩ :: seg)
        (skuMapping (retimerId path)) skuId
  | softwareId {past : List BusEvent} {path : String} {interfaces : MapKeys}
      (hpath : path.startsWith retimerFWInventoryPath)
      (hversion : versionInterface ∈ interfaces.keys) :
      SetOnSignal (past ++ [⟨.nextSignal, some (.interfacesAdded (some (path, interfaces)))⟩])
        (softwareIdMapping path) retimerSoftwareId

/-- `ev` sets nothing, or what `Reason` says it may, at the service that was
named right before. A `Set` that fails has been sent as well, and has its reason
like any other. -/
def SetFor (Reason : List BusEvent → DBusMapping → List UInt8 → Prop) (past : List BusEvent)
    (ev : BusEvent) : Prop :=
  ∀ m interface propertyName value, ev.1 = .set m interface propertyName value →
    ∃ service dbusMap reason lookup, ev.1 = setCall service dbusMap value
      ∧ past = reason ++ lookup ∧ Reason reason dbusMap value
      ∧ ServiceNamed dbusMap.objectPath dbusMap.interface service lookup

section Calls

variable {Reason : List BusEvent → DBusMapping → List UInt8 → Prop} {past : List BusEvent}

theorem setFor_of_ne {ev : BusEvent} (h : ∀ m i p v, ev.1 ≠ .set m i p v) :
    SetFor Reason past ev :=
  fun m i p v heq => absurd heq (h m i p v)

/-- Nothing is set when a service is looked up. What it leaves behind in the
past is the question and its answer (`ServiceNamed`). -/
theorem wp_getService {path interface : String} {Q : Option String → List BusEvent → Prop}
    (hnone : ∀ past, Q none past)
    (hsome : ∀ service seg, ServiceNamed path interface service seg →
      Q (some service) (past ++ seg)) :
    wp history (SetFor Reason) (getService path interface) Q past := by
  rw [getService, wp_bind, wp_history_perform]
  intro names
  refine ⟨setFor_of_ne (by simp [getObjectCall]), ?_⟩
  rcases names with _ | ⟨keys, hordered⟩
  · exact hnone _
  · rcases keys with _ | ⟨service, rest⟩
    · intro never
      exact never.elim
    · exact hsome service _ ⟨⟨service :: rest, hordered⟩, rfl, rfl⟩

theorem wp_getDBusProperty {dbusMap : DBusMapping} {Q : Option (List UInt8) → List BusEvent → Prop}
    (hnone : ∀ past, Q none past)
    (hsome : ∀ value seg, ReadAs dbusMap value seg → Q (some value) (past ++ seg)) :
    wp history (SetFor Reason) (getDBusProperty dbusMap) Q past := by
  rw [getDBusProperty, wp_bind]
  refine wp_getService hnone fun service lookup hnamed => ?_
  refine (wp_history_perform (e := getCall service dbusMap)).mpr fun value => ?_
  refine ⟨setFor_of_ne (by simp [getCall]), ?_⟩
  rcases value with _ | value
  · exact hnone _
  · rw [List.append_assoc]
    exact hsome value _ ⟨service, lookup, hnamed, rfl⟩

theorem wp_setDBusProperty {dbusMap : DBusMapping} {value : List UInt8}
    {Q : Bool → List BusEvent → Prop} (hreason : Reason past dbusMap value)
    (hQ : ∀ done past, Q done past) :
    wp history (SetFor Reason) (setDBusProperty dbusMap value) Q past := by
  rw [setDBusProperty, wp_bind]
  refine wp_getService (fun past => hQ false past) fun service lookup hnamed => ?_
  refine (wp_history_perform (e := setCall service dbusMap value)).mpr fun done => ?_
  refine ⟨fun m i p v heq => ?_, hQ done _⟩
  cases heq
  exact ⟨service, dbusMap, past, lookup, rfl, rfl, hreason, hnamed⟩

theorem wp_getSKUId {objPath : String}
    {Q : Except StdException (List UInt8) → List BusEvent → Prop}
    (herror : ∀ e past, Q (.error e) past) (hempty : ∀ past, Q (.ok []) past)
    (hsku : ∀ skuId seg, IdsReadAs objPath skuId seg → Q (.ok skuId) (past ++ seg)) :
    wp history (SetFor Reason) (interp DBusCall.onBus (getSKUId objPath)) Q past := by
  rw [getSKUId, DBus.getDBusProperty, DBus.getDBusProperty, interp_perform_bind, wp_bind]
  refine wp_getDBusProperty hempty fun deviceId device hdevice => ?_
  dsimp only
  rw [interp_perform_bind, wp_bind]
  refine wp_getDBusProperty hempty fun vendorId vendor hvendor => ?_
  dsimp only
  split
  · exact hempty _
  · next hne =>
      simp only [Bool.or_eq_true, List.isEmpty_iff, not_or] at hne
      show Q (formatSKUId deviceId vendorId) _
      cases hformat : formatSKUId deviceId vendorId with
      | error e => exact herror e _
      | ok skuId =>
          rw [List.append_assoc]
          exact hsku skuId _ ⟨deviceId, vendorId, device, vendor, hdevice, hvendor, hne.1, hne.2,
            hformat, rfl⟩

theorem wp_getSwitchDBusObject {rootPath : String} {Q : Option String → List BusEvent → Prop}
    (hnone : ∀ past, Q none past)
    (hsome : ∀ paths : List String,
      Q (some (paths.headD "")) (past ++ [⟨getSubTreePathsCall rootPath, some paths⟩])) :
    wp history (SetFor Reason) (getSwitchDBusObject rootPath) Q past := by
  rw [getSwitchDBusObject, wp_bind]
  refine (wp_history_perform (e := getSubTreePathsCall rootPath)).mpr fun paths => ?_
  refine ⟨setFor_of_ne (by simp [getSubTreePathsCall]), ?_⟩
  rcases paths with _ | _ | ⟨path, paths⟩
  · exact hnone _
  · exact hsome []
  · exact hsome (path :: paths)

end Calls

/-! ## The start -/

section Start

variable {past : List BusEvent} {i : Nat}

theorem wp_existingSku {Q : List UInt8 → List BusEvent → Prop} (hempty : ∀ past, Q [] past)
    (hsku : ∀ skuId paths seg, IdsReadAs (paths.headD "") skuId seg →
      Q skuId (past ++ ⟨getSubTreePathsCall (retimerSwitchesBasePath ++ toString i), some paths⟩
        :: seg)) :
    wp history (SetFor SetAtStart) (existingSku i) Q past := by
  rw [existingSku, wp_bind]
  refine wp_getSwitchDBusObject hempty fun paths => ?_
  dsimp only
  rw [wp_bind]
  refine wp_getSKUId (fun e => hempty) hempty fun skuId seg hids => ?_
  rw [List.append_assoc]
  exact hsku skuId paths seg hids

theorem wp_startRetimer (hi : i < numOfRetimers) :
    wp history (SetFor SetAtStart) (startRetimer i) (fun _ _ => True) past := by
  have hsoftware : ∀ past, wp history (SetFor SetAtStart)
      (setDBusProperty (softwareIdMapping (retimerFWInventoryPath ++ toString i)) retimerSoftwareId
        >>= fun _ => pure ()) (fun _ _ => True) past :=
    fun past => wp_bind.mpr (wp_setDBusProperty (.softwareId hi) fun _ _ => trivial)
  rw [startRetimer, wp_bind]
  refine wp_existingSku hsoftware fun skuId paths seg hids => ?_
  dsimp only
  split
  · rw [wp_bind]
    exact wp_setDBusProperty (.sku hi hids) fun _ => hsoftware
  · exact hsoftware _

theorem wp_startRetimers {is : List Nat} (his : ∀ i ∈ is, i < numOfRetimers) :
    wp history (SetFor SetAtStart) (startRetimers is) (fun _ _ => True) past := by
  induction is generalizing past with
  | nil => trivial
  | cons i is ih =>
      obtain ⟨hi, hrest⟩ := List.forall_mem_cons.mp his
      rw [startRetimers, wp_bind]
      exact wp_mono (wp_startRetimer hi) (fun _ _ h => h) fun _ _ _ => ih hrest

end Start

/-! ## The loop -/

/-- What stands behind the prefix is put behind it again. -/
theorem append_drop_of_startsWith {front path : String} (h : path.startsWith front) :
    front ++ .ofList (path.toList.drop front.length) = path := by
  obtain ⟨rest, hrest⟩ := String.startsWith_string_iff.mp h
  rw [← String.toList_inj, String.toList_append, String.toList_ofList, ← hrest,
    ← String.length_toList, List.drop_left]

section Loop

variable {past : List BusEvent} {added : Matches}

theorem wp_addedInterfaces {path : String} {interfaces : List String} (hnodup : interfaces.Nodup)
    (hreason : versionInterface ∈ interfaces → path.startsWith retimerFWInventoryPath →
      SetOnSignal past (softwareIdMapping path) retimerSoftwareId) :
    wp history (SetFor SetOnSignal) (addedInterfaces path interfaces) (fun _ _ => True) past := by
  induction interfaces generalizing past with
  | nil => trivial
  | cons intf rest ih =>
      obtain ⟨hintf, hrest⟩ := List.nodup_cons.mp hnodup
      rw [addedInterfaces]
      dsimp only
      split
      · next heq =>
          subst heq
          have hbehind : ∀ past, wp history (SetFor SetOnSignal) (addedInterfaces path rest)
              (fun _ _ => True) past :=
            fun past => ih hrest fun hmem => absurd hmem hintf
          split
          · next hpath =>
              rw [append_drop_of_startsWith hpath, wp_bind]
              exact wp_setDBusProperty (hreason List.mem_cons_self hpath) fun _ => hbehind
          · exact hbehind past
      · exact ih hrest fun hmem => hreason (List.mem_cons_of_mem _ hmem)

theorem wp_switchObjectCallback {path : String} :
    wp history (SetFor SetOnSignal) (interp DBusCall.onBus (switchObjectCallback path))
      (fun _ _ => True) (past ++ [⟨.nextSignal, some (.propertiesChanged path)⟩]) := by
  rw [switchObjectCallback]
  split
  · next hpath =>
      rw [interp_bind, wp_bind]
      refine wp_getSKUId (fun _ _ => trivial) (fun _ => trivial) fun skuId seg hids => ?_
      dsimp only
      split
      · trivial
      · rw [DBus.setDBusProperty, interp_perform_bind, wp_bind, List.append_assoc]
        exact wp_setDBusProperty (.sku hpath hids) fun _ _ => trivial
  · trivial

theorem wp_dispatch {signal : Signal} :
    wp history (SetFor SetOnSignal) (dispatch added signal) (fun _ _ => True)
      (past ++ [⟨.nextSignal, some signal⟩]) := by
  cases signal with
  | propertiesChanged path =>
      rw [dispatch]
      split
      · trivial
      · rw [wp_bind]
        refine wp_mono wp_switchObjectCallback (fun _ _ h => h) fun res _ _ => ?_
        rcases res with _ | _ <;> trivial
  | interfacesAdded message =>
      rw [dispatch]
      split
      · trivial
      · rcases message with _ | ⟨path, interfaces⟩
        · trivial
        · rw [softwareObjectCallback, wp_bind]
          exact wp_mono (wp_addedInterfaces interfaces.nodup fun hversion hpath =>
            .softwareId hpath hversion) (fun _ _ h => h) fun _ _ _ => trivial

theorem wp_eventLoop {count : Nat} :
    wp history (SetFor SetOnSignal) (eventLoop added count) (fun _ _ => True) past := by
  induction count generalizing past with
  | zero => trivial
  | succ count ih =>
      rw [eventLoop, wp_bind, wp_history_perform]
      refine fun signal => ⟨setFor_of_ne (by simp), ?_⟩
      rcases signal with _ | signal
      · trivial
      · refine wp_bind.mpr (wp_mono wp_dispatch (fun _ _ h => h) fun res _ _ => ?_)
        rcases res with e | _
        · refine wp_bind.mpr (wp_history_perform.mpr fun caught => ⟨setFor_of_ne (by simp), ?_⟩)
          split
          · exact ih
          · trivial
        · exact ih

end Loop

/-! ## The whole run -/

/-- Before the first signal, something is set for the retimers that are there
already. Then it takes a signal. -/
def HasReason (past : List BusEvent) (dbusMap : DBusMapping) (value : List UInt8) : Prop :=
  (SetAtStart past dbusMap value ∧ ∀ ev ∈ past, ev.1 ≠ .nextSignal)
    ∨ SetOnSignal past dbusMap value

section Whole

theorem only_getService {path interface : String} :
    Only (· ≠ .nextSignal) (getService path interface) := by
  rw [getService]
  refine Only.bind (only_perform.mpr (by simp [getObjectCall])) fun names => ?_
  rcases names with _ | ⟨_ | ⟨service, rest⟩, hordered⟩
  · trivial
  · exact ⟨by simp, fun never => never.elim⟩
  · trivial

theorem only_setDBusProperty {dbusMap : DBusMapping} {value : List UInt8} :
    Only (· ≠ .nextSignal) (setDBusProperty dbusMap value) := by
  rw [setDBusProperty]
  refine only_getService.bind fun service => ?_
  cases service with
  | none => trivial
  | some service => exact only_perform.mpr (by simp [setCall])

theorem only_onBus (c : DBusCall) : Only (· ≠ .nextSignal) c.onBus := by
  cases c with
  | setDBusProperty dbusMap value => exact only_setDBusProperty
  | getDBusProperty dbusMap =>
      show Only _ (getDBusProperty dbusMap)
      rw [getDBusProperty]
      refine only_getService.bind fun service => ?_
      cases service with
      | none => trivial
      | some service => exact only_perform.mpr (by simp [getCall])

theorem only_existingSku {i : Nat} : Only (· ≠ .nextSignal) (existingSku i) := by
  rw [existingSku, getSwitchDBusObject]
  refine Only.bind (Only.bind (only_perform.mpr (by simp [getSubTreePathsCall])) fun paths => ?_)
    fun switchPath => ?_
  · rcases paths with _ | _ | ⟨path, paths⟩ <;> trivial
  · cases switchPath with
    | none => trivial
    | some switchPath =>
        refine (only_interp only_onBus).bind fun res => ?_
        cases res <;> trivial

theorem only_startRetimers {is : List Nat} : Only (· ≠ .nextSignal) (startRetimers is) := by
  induction is with
  | nil => trivial
  | cons i is ih =>
      rw [startRetimers, startRetimer]
      refine Only.bind (only_existingSku.bind fun skuId => ?_) fun _ => ih
      dsimp only
      split
      · exact only_setDBusProperty.bind fun _ => only_setDBusProperty.bind fun _ => trivial
      · exact only_setDBusProperty.bind fun _ => trivial

theorem wp_listenForGPUManagerEvents {past : List BusEvent}
    {Reason : List BusEvent → DBusMapping → List UInt8 → Prop}
    {Q : Matches → List BusEvent → Prop} (hQ : ∀ added past, Q added past) :
    wp history (SetFor Reason) listenForGPUManagerEvents Q past := by
  rw [listenForGPUManagerEvents, wp_bind, wp_history_perform]
  refine fun switchMatch => ⟨setFor_of_ne (by simp), ?_⟩
  split
  · exact hQ _ _
  · rw [wp_bind, wp_history_perform]
    exact fun softwareMatch => ⟨setFor_of_ne (by simp), hQ _ _⟩

theorem wp_retimerApp {count : Nat} :
    wp history (SetFor HasReason) (retimerApp count) (fun _ _ => True) [] := by
  have hset : wp history (SetFor SetAtStart) (startRetimers (List.range numOfRetimers))
      (fun _ _ => True) [] := wp_startRetimers fun i hi => List.mem_range.mp hi
  have hstart := wp_history_only only_startRetimers hset nofun
  rw [retimerApp, wp_bind]
  refine wp_mono hstart (fun past ev hset => ?_) fun _ past _ => ?_
  · intro m interface propertyName value heq
    obtain ⟨service, dbusMap, reason, lookup, hcall, rfl, hreason, hnamed⟩ := hset.1 _ _ _ _ heq
    exact ⟨service, dbusMap, reason, lookup, hcall, rfl,
      Or.inl ⟨hreason, fun ev hev => hset.2 ev (List.mem_append_left _ hev)⟩, hnamed⟩
  · refine wp_bind.mpr (wp_listenForGPUManagerEvents fun added past => ?_)
    refine wp_mono wp_eventLoop (fun past ev hset => ?_) fun _ _ _ => trivial
    intro m interface propertyName value heq
    obtain ⟨service, dbusMap, reason, lookup, hcall, hpast, hreason, hnamed⟩ := hset _ _ _ _ heq
    exact ⟨service, dbusMap, reason, lookup, hcall, hpast, Or.inr hreason, hnamed⟩

end Whole

/-- **What the application sets.** In every run and whatever the bus answers, a
`Set` goes to the service that the mapper has just named for its object. It is
the software id of a retimer, or the SKU that the ids read right before give,
for the retimer whose switch was found or has sent the signal. -/
theorem retimerApp_hasReason (count : Nat) (past : List BusEvent) (m : MethodCall)
    (interface propertyName : String) (value : List UInt8) (done : Bool)
    (q : Bus (Except BusException Unit))
    (h : Trace (retimerApp count) (past ++ [⟨.set m interface propertyName value, done⟩]) q) :
    ∃ service dbusMap reason lookup,
      BusCall.set m interface propertyName value = setCall service dbusMap value
      ∧ past = reason ++ lookup ∧ HasReason reason dbusMap value
      ∧ ServiceNamed dbusMap.objectPath dbusMap.interface service lookup :=
  wp_history wp_retimerApp h m interface propertyName value rfl

section Small

/-- A bus with one service, and a switch for every retimer. -/
def smallBus : Unit → (c : BusCall) → Option (BusAnswer c × Unit)
  | (), .getObject _ _ _ =>
      some (some ⟨["xyz.openbmc_project.Small"], List.pairwise_singleton _ _⟩, ())
  | (), .getSubTreePaths _ rootPath _ _ => some (some [rootPath ++ "/Switches/PCIeRetimer_0"], ())
  | (), .get _ _ propertyName =>
      some (some (bytesOf (if propertyName = "DeviceId" then "0x22a3" else "0x10de")), ())
  | (), .nextSignal => some (none, ())
  | (), .set _ _ _ _ | (), .addMatch _ | (), .escaped _ => some (true, ())
  | (), .undefinedBehaviour => none

/-- Up to the first `Set`. -/
def firstSet : List BusEvent × Bus (Except BusException Unit) × Unit :=
  play smallBus 7 () (retimerApp 0)

def beforeFirstSet : List BusEvent := firstSet.1.take 6

def firstSetCall : MethodCall :=
  ⟨"xyz.openbmc_project.Small", retimerInventoryPath ++ "0", dbusProperties, "Set"⟩

def smallSku : List UInt8 := bytesOf "0x22A310DE"

theorem trace_firstSet : Trace (retimerApp 0)
    (beforeFirstSet ++ [⟨.set firstSetCall assetInterface "SKU" smallSku, true⟩]) firstSet.2.1 :=
  trace_play smallBus 7 () (retimerApp 0)

theorem retimerApp_hasReason_small : ∃ service dbusMap reason lookup,
    BusCall.set firstSetCall assetInterface "SKU" smallSku = setCall service dbusMap smallSku
      ∧ beforeFirstSet = reason ++ lookup ∧ HasReason reason dbusMap smallSku
      ∧ ServiceNamed dbusMap.objectPath dbusMap.interface service lookup :=
  retimerApp_hasReason 0 beforeFirstSet firstSetCall assetInterface "SKU" smallSku true
    firstSet.2.1 trace_firstSet

end Small

end Retimer
