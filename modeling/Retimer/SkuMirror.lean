import Retimer.RetimerBus
import Retimer.SkuFormat
import Retimer.Notices

/-!
# The SKUs follow the ids

The ids that the switches publish change at any time, also between the
messages of one callback. Each change is announced with
`PropertiesChanged` once the match is there. `nvidia-retimer-app` keeps
up: whenever it waits for the next signal, the SKU of a retimer is the
one of the ids that its switch has now, unless a signal is still to
come, a call about it has failed, or it changed before the match was
there.

The bus is an environment with a state (`Fabric`): the switches as
values whose changes are announced (`Interaction.Source`), and the SKU
of every object of the inventory. `Fabric.Answers` is what is taken for
granted of it: the ids that are read are those of the moment, the mapper
finds a retimer's switch below the topology with its number, a `Set`
that was sent is carried out, and nobody else sets a SKU.

The invariant is `Keeps`. All that is known of the switches is shown,
but for one of them: the one that the application has just been told of
and is busy with. What is known is stable under changes by its
definition (`Stable`, `stable_keeps`), so a step lemma has to look at
the one message alone (`wp_message`). `Keeps.tell` starts a callback,
`wp_getSKUId_kept` carries what is known through the two reads,
`wp_setSku` ends it with `Keeps.all`; where a call fails on the way, the
switch counts as lost and `Keeps.all_of_fail` ends it.

`wp_retimerApp_kept` goes through the start and the loop, with the
demand `Waits` on the events, and is read off every trace.
-/

namespace Retimer

open Interaction Interaction.Prog

/-! ## The bus -/

/-- The ids that a switch publishes. -/
structure Ids where
  deviceId : List UInt8
  vendorId : List UInt8
deriving DecidableEq

/-- The switches, and the `SKU` of every object of the inventory. What else is
published on the bus plays no part in it. -/
structure Fabric where
  switches : Source String Ids
  sku : String → List UInt8

/-- The object in the inventory for the switch at `path`. -/
def inventoryObject (path : String) : String := retimerInventoryPath ++ retimerId path

namespace Fabric

/-- A call about the object at `path` has failed. -/
def fail (s : Fabric) (path : String) : Fabric :=
  { s with switches := s.switches.lose fun p => p = path ∨ inventoryObject p = path }

/-- The application is told of the switch at `path`. -/
def tell (s : Fabric) (path : String) : Fabric := { s with switches := s.switches.hear path }

def setSku (s : Fabric) (path : String) (value : List UInt8) : Fabric :=
  { s with sku := Function.update s.sku path value }

/-- What a message does, for switches at the paths `switchAt`. The mapper finds
a retimer's switch below the topology with its number. A `Set` that was sent is
carried out, and nobody else sets a SKU. -/
def Answers (switchAt : String → Prop) (s : Fabric) : BusEvent → Fabric → Prop
  | ⟨.getObject _ path _, none⟩, s' => s' = s.fail path
  | ⟨.getSubTreePaths _ rootPath _ _, some (path :: _)⟩, s' => s' = s.tell path ∧ switchAt path
      ∧ path.startsWith retimerSwitchesBasePath
      ∧ rootPath = retimerSwitchesBasePath ++ retimerId path
  | ⟨.get m _ _, none⟩, s' => s' = s.fail m.path
  | ⟨.get m interface propertyName, some value⟩, s' => s' = s
      ∧ (interface = switchInterface → switchAt m.path
        ∧ (propertyName = "DeviceId" → value = (s.switches.value m.path).deviceId)
        ∧ (propertyName = "VendorId" → value = (s.switches.value m.path).vendorId))
  | ⟨.set m _ _ _, false⟩, s' => s' = s.fail m.path
  | ⟨.set m interface propertyName value, true⟩, s' =>
      s' = if interface = assetInterface ∧ propertyName = "SKU" then s.setSku m.path value else s
  | ⟨.addMatch rule, true⟩, s' =>
      s' = if rule = switchRule then { s with switches := s.switches.listen } else s
  | ⟨.nextSignal, some (.propertiesChanged path)⟩, s' =>
      s.switches.listening = true ∧ s' = s.tell path
  | _, s' => s' = s

end Fabric

/-- The switches may change before every message. -/
def fabric (switchAt : String → Prop) : Env BusCall BusAnswer Fabric := fun s ev s' =>
  ∃ switches, s.switches.Changes switches ∧ Fabric.Answers switchAt { s with switches } ev s'

/-- Retimers have different numbers. -/
structure Layout (switchAt : String → Prop) : Prop where
  ne_empty : ¬switchAt ""
  distinct : ∀ path path', switchAt path → switchAt path' →
    path.startsWith retimerSwitchesBasePath → path'.startsWith retimerSwitchesBasePath →
    retimerId path = retimerId path' → path = path'

/-! ## What the application keeps up -/

/-- The ids give a SKU. -/
def GivesSku (ids : Ids) (skuId : List UInt8) : Prop :=
  ids.deviceId ≠ [] ∧ ids.vendorId ≠ [] ∧ formatSKUId ids.deviceId ids.vendorId = .ok skuId

/-- The SKU of the retimer is the one of the ids of its switch. -/
def ShowsIds (s : Fabric) (path : String) (ids : Ids) : Prop :=
  ∀ skuId, GivesSku ids skuId → s.sku (inventoryObject path) = skuId

/-- All that is known of the retimers' switches is shown, `but` for one of them.
Signals of switches come only if there is a match. Between two callbacks there
is no exception: `but` is then false everywhere. -/
structure Keeps (switchAt : String → Prop) (but : String → Prop) (hasMatch : Bool) (s : Fabric) :
    Prop where
  shown : ∀ path, switchAt path → path.startsWith retimerSwitchesBasePath → ¬but path →
    s.switches.Known path (ShowsIds s path)
  told : s.switches.listening = true → hasMatch = true

/-- The application waits only when everything is shown. -/
def Waits (switchAt : String → Prop) (s : Fabric) (ev : BusEvent) : Prop :=
  ev.1 = .nextSignal → ∀ path, switchAt path → path.startsWith retimerSwitchesBasePath →
    s.switches.Known path (ShowsIds s path)

section Kept

variable {switchAt but : String → Prop} {hasMatch : Bool} {s : Fabric} {path : String}

theorem changes_listening {switches switches' : Source String Ids}
    (h : switches.Changes switches') : switches'.listening = switches.listening := by
  induction h with
  | refl => rfl
  | tail _ hchange ih =>
      obtain ⟨k, v, rfl⟩ := hchange
      exact ih

theorem Keeps.changes {switches : Source String Ids} (h : Keeps switchAt but hasMatch s)
    (hchanges : s.switches.Changes switches) :
    Keeps switchAt but hasMatch { s with switches } where
  shown path hswitch hpath hbut := (h.shown path hswitch hpath hbut).changes hchanges
  told := by
    rw [changes_listening hchanges]
    exact h.told

theorem Keeps.fail (h : Keeps switchAt but hasMatch s) (path : String) :
    Keeps switchAt but hasMatch (s.fail path) where
  shown path hswitch hpath hbut := (h.shown path hswitch hpath hbut).lose
  told := h.told

/-- A switch is left out when the application is told of it: its SKU may be an
old one until the callback has read the ids. -/
theorem Keeps.tell (h : Keeps switchAt (fun _ => False) hasMatch s) :
    Keeps switchAt (· = path) hasMatch (s.tell path) where
  shown path' hswitch hpath hne := (h.shown path' hswitch hpath id).hear_ne hne
  told := h.told

theorem Keeps.leaveOut (h : Keeps switchAt (fun _ => False) hasMatch s) :
    Keeps switchAt (· = path) hasMatch s where
  shown path' hswitch hpath _ := h.shown path' hswitch hpath id
  told := h.told

/-- The switch that was left out is shown as well. -/
theorem Keeps.all (h : Keeps switchAt (· = path) hasMatch s)
    (hpath : switchAt path → path.startsWith retimerSwitchesBasePath →
      s.switches.Known path (ShowsIds s path)) :
    Keeps switchAt (fun _ => False) hasMatch s where
  shown path' hswitch hstarts _ := by
    by_cases heq : path' = path
    · subst heq
      exact hpath hswitch hstarts
    · exact h.shown path' hswitch hstarts heq
  told := h.told

theorem Keeps.all_of_fail (h : Keeps switchAt (· = path) hasMatch s) :
    Keeps switchAt (fun _ => False) hasMatch (s.fail path) :=
  (h.fail path).all fun _ _ => Source.known_of_lost (Source.lost_of_lose (Or.inl rfl))

theorem Keeps.setSku {skuId : List UInt8} (hlayout : Layout switchAt) (hswitch : switchAt path)
    (hstarts : path.startsWith retimerSwitchesBasePath) (h : Keeps switchAt (· = path) hasMatch s)
    (hids : s.switches.Known path (GivesSku · skuId)) :
    Keeps switchAt (fun _ => False) hasMatch (s.setSku (inventoryObject path) skuId) := by
  have hothers : Keeps switchAt (· = path) hasMatch (s.setSku (inventoryObject path) skuId) := by
    refine ⟨fun path' hswitch' hstarts' hne => ?_, h.told⟩
    refine (h.shown path' hswitch' hstarts' hne).mono fun ids hshown skuId' hgives => ?_
    have hother : inventoryObject path' ≠ inventoryObject path := fun heq =>
      hne (hlayout.distinct path' path hswitch' hswitch hstarts' hstarts
        (String.append_right_inj _ |>.mp heq))
    show Function.update s.sku _ skuId _ = skuId'
    rw [Function.update_of_ne hother]
    exact hshown skuId' hgives
  refine hothers.all fun _ _ => hids.mono fun ids hgives skuId' hgives' => ?_
  show Function.update s.sku _ skuId _ = skuId'
  rw [Function.update_self]
  exact Except.ok.inj (hgives.2.2.symm.trans hgives'.2.2)

end Kept

/-! ## Calls -/

section Calls

variable {switchAt : String → Prop} {hasMatch : Bool} {s : Fabric} {I : Fabric → Prop}

/-- What holds however the switches change. A demand at a point where the
application waits must be of this kind. -/
def Stable (I : Fabric → Prop) : Prop :=
  ∀ s switches, I s → s.switches.Changes switches → I { s with switches }

theorem stable_keeps {but : String → Prop} : Stable (Keeps switchAt but hasMatch) :=
  fun _ _ h hchanges => h.changes hchanges

theorem stable_known {path : String} {P : Ids → Prop} :
    Stable fun s => s.switches.Known path P :=
  fun _ _ h hchanges => h.changes hchanges

theorem Stable.and {I' : Fabric → Prop} (h : Stable I) (h' : Stable I') :
    Stable fun s => I s ∧ I' s :=
  fun s switches hs hchanges => ⟨h s switches hs.1 hchanges, h' s switches hs.2 hchanges⟩

/-- One message. -/
theorem wp_message {e : BusCall} {Q : BusAnswer e → Fabric → Prop} (hI : Stable I) (hs : I s)
    (he : e ≠ .nextSignal)
    (hQ : ∀ r u s', I u → Fabric.Answers switchAt u ⟨e, r⟩ s' → Q r s') :
    wp (fabric switchAt) (Waits switchAt) (perform e) Q s := by
  rintro r s' ⟨switches, hchanges, hanswers⟩
  exact ⟨fun heq => absurd heq he, hQ r _ s' (hI s switches hs hchanges) hanswers⟩

theorem wp_getService_kept {path interface : String} {Q : Option String → Fabric → Prop}
    (hI : Stable I) (hs : I s) (hnone : ∀ u, I u → Q none (u.fail path))
    (hsome : ∀ service u, I u → Q (some service) u) :
    wp (fabric switchAt) (Waits switchAt) (getService path interface) Q s := by
  rw [getService, wp_bind]
  refine wp_message hI hs (by simp [getObjectCall]) fun names u s' hu hanswers => ?_
  rcases names with _ | ⟨_ | ⟨service, rest⟩, hordered⟩
  · obtain rfl : s' = u.fail path := hanswers
    exact hnone u hu
  · exact fun never => never.elim
  · obtain rfl : s' = u := hanswers
    exact hsome service s' hu

theorem wp_getDBusProperty_kept {dbusMap : DBusMapping}
    {Q : Option (List UInt8) → Fabric → Prop} (hI : Stable I) (hs : I s)
    (hnone : ∀ u, I u → Q none (u.fail dbusMap.objectPath))
    (hsome : ∀ service value u, I u →
      Fabric.Answers switchAt u ⟨getCall service dbusMap, some value⟩ u → Q (some value) u) :
    wp (fabric switchAt) (Waits switchAt) (getDBusProperty dbusMap) Q s := by
  rw [getDBusProperty, wp_bind]
  refine wp_getService_kept hI hs hnone fun service u hu => ?_
  refine wp_message (e := getCall service dbusMap) hI hu (by simp [getCall]) ?_
  rintro (_ | value) u s' hu hanswers
  · obtain rfl : s' = u.fail dbusMap.objectPath := hanswers
    exact hnone u hu
  · obtain rfl : s' = u := hanswers.1
    exact hsome service value s' hu hanswers

theorem wp_setDBusProperty_kept {dbusMap : DBusMapping} {value : List UInt8}
    {Q : Bool → Fabric → Prop} (hI : Stable I) (hs : I s)
    (hfailed : ∀ u, I u → Q false (u.fail dbusMap.objectPath))
    (hset : ∀ service u s', I u →
      Fabric.Answers switchAt u ⟨setCall service dbusMap value, true⟩ s' → Q true s') :
    wp (fabric switchAt) (Waits switchAt) (setDBusProperty dbusMap value) Q s := by
  rw [setDBusProperty, wp_bind]
  refine wp_getService_kept hI hs hfailed fun service u hu => ?_
  refine wp_message (e := setCall service dbusMap value) hI hu (by simp [setCall]) ?_
  rintro (_ | _) u s' hu hanswers
  · obtain rfl : s' = u.fail dbusMap.objectPath := hanswers
    exact hfailed u hu
  · exact hset service u s' hu hanswers

/-- Another property than a SKU is set. -/
theorem wp_setSoftwareId {objectPath : String} {value : List UInt8}
    (h : Keeps switchAt (fun _ => False) hasMatch s) :
    wp (fabric switchAt) (Waits switchAt)
      (setDBusProperty (softwareIdMapping objectPath) value)
      (fun _ => Keeps switchAt (fun _ => False) hasMatch) s := by
  refine wp_setDBusProperty_kept stable_keeps h (fun u hu => hu.fail _)
    fun service u s' hu hanswers => ?_
  have hother : ¬(versionInterface = assetInterface ∧ "SoftwareId" = "SKU") := by decide
  have heq : s' = if versionInterface = assetInterface ∧ "SoftwareId" = "SKU" then _ else u :=
    hanswers
  rw [if_neg hother] at heq
  rw [heq]
  exact hu

end Calls

/-! ## One switch -/

section Exchange

variable {switchAt : String → Prop} {hasMatch : Bool} {s : Fabric} {path : String}

theorem formatSKUId_ne_nil {deviceId vendorId skuId : List UInt8}
    (h : formatSKUId deviceId vendorId = .ok skuId) : skuId ≠ [] := by
  obtain ⟨-, -, rfl⟩ := formatSKUId_ok.mp h
  exact List.cons_ne_nil _ _

/-- The ids are read one after the other, and may change in between. Either
nothing is left to show, or the SKU of what is known. -/
theorem wp_getSKUId_kept {Q : Except StdException (List UInt8) → Fabric → Prop}
    (h : Keeps switchAt (· = path) hasMatch s)
    (hdone : ∀ res u, Keeps switchAt (fun _ => False) hasMatch u →
      (∀ skuId, res = .ok skuId → skuId = []) → Q res u)
    (hsku : ∀ skuId u, skuId ≠ [] → switchAt path → Keeps switchAt (· = path) hasMatch u →
      u.switches.Known path (GivesSku · skuId) → Q (.ok skuId) u) :
    wp (fabric switchAt) (Waits switchAt) (interp DBusCall.onBus (getSKUId path)) Q s := by
  have hfailed : ∀ u, Keeps switchAt (· = path) hasMatch u → Q (.ok []) (u.fail path) :=
    fun u hu => hdone _ _ hu.all_of_fail fun skuId heq => (Except.ok.inj heq).symm
  rw [getSKUId, DBus.getDBusProperty, DBus.getDBusProperty, interp_perform_bind, wp_bind]
  refine wp_getDBusProperty_kept stable_keeps h hfailed fun service deviceId u hu hanswers => ?_
  obtain ⟨hswitch, hdevice, -⟩ := hanswers.2 rfl
  have hknown : u.switches.Known path (fun ids => ids.deviceId = deviceId) := by
    rw [hdevice rfl]
    exact Source.known_self Ids.deviceId
  dsimp only
  rw [interp_perform_bind, wp_bind]
  refine wp_getDBusProperty_kept (stable_keeps.and stable_known) ⟨hu, hknown⟩
    (fun u hu => hfailed u hu.1) fun service' vendorId v hv hanswers' => ?_
  obtain ⟨-, -, hvendor⟩ := hanswers'.2 rfl
  have hids : v.switches.Known path
      (fun ids => ids.deviceId = deviceId ∧ ids.vendorId = vendorId) := by
    refine hv.2.and ?_
    rw [hvendor rfl]
    exact Source.known_self Ids.vendorId
  have hnothing : (∀ skuId, ¬GivesSku ⟨deviceId, vendorId⟩ skuId) →
      Keeps switchAt (fun _ => False) hasMatch v := fun hnone =>
    hv.1.all fun _ _ => hids.mono fun ids heq skuId hgives => by
      obtain ⟨rfl, rfl⟩ := heq
      exact absurd hgives (hnone skuId)
  dsimp only
  split
  · next hempty =>
      refine hdone _ v (hnothing fun skuId hgives => ?_) fun skuId heq => (Except.ok.inj heq).symm
      simp only [Bool.or_eq_true, List.isEmpty_iff] at hempty
      exact hempty.elim hgives.1 hgives.2.1
  · next hne =>
      simp only [Bool.or_eq_true, List.isEmpty_iff, not_or] at hne
      show Q (formatSKUId deviceId vendorId) v
      cases hformat : formatSKUId deviceId vendorId with
      | error e =>
          refine hdone _ v (hnothing fun skuId hgives => ?_) fun skuId heq => by cases heq
          cases hformat.symm.trans hgives.2.2
      | ok skuId =>
          refine hsku skuId v (formatSKUId_ne_nil hformat) hswitch hv.1
            (hids.mono fun ids heq => ?_)
          obtain ⟨rfl, rfl⟩ := heq
          exact ⟨hne.1, hne.2, hformat⟩

theorem wp_setSku {skuId : List UInt8} (hlayout : Layout switchAt) (hswitch : switchAt path)
    (hstarts : path.startsWith retimerSwitchesBasePath)
    (h : Keeps switchAt (· = path) hasMatch s)
    (hids : s.switches.Known path (GivesSku · skuId)) :
    wp (fabric switchAt) (Waits switchAt)
      (setDBusProperty (skuMapping (retimerId path)) skuId)
      (fun _ => Keeps switchAt (fun _ => False) hasMatch) s := by
  refine wp_setDBusProperty_kept (stable_keeps.and stable_known) ⟨h, hids⟩ (fun u hu => ?_)
    fun service u s' hu hanswers => ?_
  · exact (hu.1.fail _).all fun _ _ => Source.known_of_lost (Source.lost_of_lose (Or.inr rfl))
  · have heq : s' = u.setSku (inventoryObject path) skuId := hanswers
    rw [heq]
    exact hu.1.setSku hlayout hswitch hstarts hu.2

end Exchange

/-! ## The whole run -/

section Whole

variable {switchAt : String → Prop} {hasMatch : Bool} {s : Fabric}

theorem wp_getSwitchDBusObject_kept {i : Nat} {Q : Option String → Fabric → Prop}
    (hlayout : Layout switchAt) (h : Keeps switchAt (fun _ => False) hasMatch s)
    (hnone : ∀ u, Keeps switchAt (fun _ => False) hasMatch u → Q none u)
    (hsome : ∀ path u, Keeps switchAt (· = path) hasMatch u →
      (switchAt path → retimerId path = toString i ∧ path.startsWith retimerSwitchesBasePath) →
      Q (some path) u) :
    wp (fabric switchAt) (Waits switchAt)
      (getSwitchDBusObject (retimerSwitchesBasePath ++ toString i)) Q s := by
  rw [getSwitchDBusObject, wp_bind]
  refine wp_message (e := getSubTreePathsCall _) stable_keeps h (by simp [getSubTreePathsCall]) ?_
  rintro (_ | _ | ⟨path, paths⟩) u s' hu hanswers
  · obtain rfl : s' = u := hanswers
    exact hnone s' hu
  · -- nothing can be read from the empty path
    obtain rfl : s' = u := hanswers
    exact hsome "" s' hu.leaveOut fun hswitch => absurd hswitch hlayout.ne_empty
  · obtain ⟨rfl, -, hstarts, hroot⟩ := hanswers
    exact hsome path _ hu.tell fun _ => ⟨(String.append_right_inj _ |>.mp hroot).symm, hstarts⟩

theorem wp_existingSku_kept {i : Nat} {Q : List UInt8 → Fabric → Prop} (hlayout : Layout switchAt)
    (h : Keeps switchAt (fun _ => False) hasMatch s)
    (hdone : ∀ u, Keeps switchAt (fun _ => False) hasMatch u → Q [] u)
    (hsku : ∀ skuId path u, skuId ≠ [] → retimerId path = toString i → switchAt path →
      path.startsWith retimerSwitchesBasePath → Keeps switchAt (· = path) hasMatch u →
      u.switches.Known path (GivesSku · skuId) → Q skuId u) :
    wp (fabric switchAt) (Waits switchAt) (existingSku i) Q s := by
  rw [existingSku, wp_bind]
  refine wp_getSwitchDBusObject_kept hlayout h hdone fun path u hu hfound => ?_
  refine wp_bind.mpr (wp_getSKUId_kept hu ?_ fun skuId v hne hswitch hv hids => ?_)
  · rintro (e | skuId) v hv hempty
    · exact hdone v hv
    · obtain rfl := hempty skuId rfl
      exact hdone v hv
  · obtain ⟨hid, hstarts⟩ := hfound hswitch
    exact hsku skuId path v hne hid hswitch hstarts hv hids

theorem wp_startRetimer_kept {i : Nat} (hlayout : Layout switchAt)
    (h : Keeps switchAt (fun _ => False) hasMatch s) :
    wp (fabric switchAt) (Waits switchAt) (startRetimer i)
      (fun _ => Keeps switchAt (fun _ => False) hasMatch) s := by
  have hsoftware : ∀ u, Keeps switchAt (fun _ => False) hasMatch u →
      wp (fabric switchAt) (Waits switchAt)
        (setDBusProperty (softwareIdMapping (retimerFWInventoryPath ++ toString i))
          retimerSoftwareId >>= fun _ => pure ())
        (fun _ => Keeps switchAt (fun _ => False) hasMatch) u :=
    fun u hu => wp_bind.mpr (wp_setSoftwareId hu)
  rw [startRetimer, wp_bind]
  refine wp_existingSku_kept hlayout h hsoftware
    fun skuId path u hne hid hswitch hstarts hu hids => ?_
  have hset : skuId.isEmpty = false := by simpa using hne
  dsimp only
  rw [if_pos hset, wp_bind, ← hid]
  exact wp_mono (wp_setSku hlayout hswitch hstarts hu hids) (fun _ _ hG => hG)
    fun _ u hu => hid ▸ hsoftware u hu

theorem wp_startRetimers_kept {is : List Nat} (hlayout : Layout switchAt)
    (h : Keeps switchAt (fun _ => False) hasMatch s) :
    wp (fabric switchAt) (Waits switchAt) (startRetimers is)
      (fun _ => Keeps switchAt (fun _ => False) hasMatch) s := by
  induction is generalizing s with
  | nil => exact h
  | cons i is ih =>
      rw [startRetimers, wp_bind]
      exact wp_mono (wp_startRetimer_kept hlayout h) (fun _ _ hG => hG) fun _ u hu => ih hu

theorem wp_listenForGPUManagerEvents_kept
    (h : Keeps switchAt (fun _ => False) false s) :
    wp (fabric switchAt) (Waits switchAt) listenForGPUManagerEvents
      (fun added => Keeps switchAt (fun _ => False) added.switchObjectAddedMatch) s := by
  rw [listenForGPUManagerEvents, wp_bind]
  refine wp_message stable_keeps h (by simp) ?_
  rintro (_ | _) u s' hu hanswers
  · obtain rfl : s' = u := hanswers
    exact hu
  · have heq : s' = if switchRule = switchRule then
        { u with switches := u.switches.listen } else u := hanswers
    rw [if_pos rfl] at heq
    have hs' : Keeps switchAt (fun _ => False) true s' :=
      heq ▸ ⟨hu.shown, fun _ => rfl⟩
    show wp _ _ (perform (BusCall.addMatch softwareRule) >>= _) _ _
    rw [wp_bind]
    refine wp_message stable_keeps hs' (by simp) ?_
    rintro (_ | _) v s'' hv hanswers'
    · obtain rfl : s'' = v := hanswers'
      exact hv
    · have hother : ¬softwareRule = switchRule := by decide
      have heq' : s'' = if softwareRule = switchRule then
          { v with switches := v.switches.listen } else v := hanswers'
      rw [if_neg hother] at heq'
      exact heq' ▸ hv

theorem wp_addedInterfaces_kept {path : String} {interfaces : List String}
    (h : Keeps switchAt (fun _ => False) hasMatch s) :
    wp (fabric switchAt) (Waits switchAt) (addedInterfaces path interfaces)
      (fun _ => Keeps switchAt (fun _ => False) hasMatch) s := by
  induction interfaces generalizing s with
  | nil => exact h
  | cons intf rest ih =>
      rw [addedInterfaces]
      dsimp only
      split
      · split
        · rw [wp_bind]
          exact wp_mono (wp_setSoftwareId h) (fun _ _ hG => hG) fun _ u hu => ih hu
        · exact ih h
      · exact ih h

theorem wp_switchObjectCallback_kept {path : String} (hlayout : Layout switchAt)
    (h : Keeps switchAt (· = path) hasMatch s) :
    wp (fabric switchAt) (Waits switchAt) (interp DBusCall.onBus (switchObjectCallback path))
      (fun _ => Keeps switchAt (fun _ => False) hasMatch) s := by
  rw [switchObjectCallback]
  split
  · next hstarts =>
      rw [interp_bind, wp_bind]
      refine wp_getSKUId_kept h (fun res u hu hempty => ?_) fun skuId u hne hswitch hu hids => ?_
      · rcases res with e | skuId
        · exact hu
        · obtain rfl := hempty skuId rfl
          exact hu
      · have hset : ¬skuId.isEmpty = true := by simpa using hne
        dsimp only
        rw [if_neg hset, DBus.setDBusProperty, interp_perform_bind, wp_bind]
        exact wp_setSku hlayout hswitch hstarts hu hids
  · next hstarts => exact h.all fun _ hpath => absurd hpath hstarts

theorem wp_dispatch_kept {added : Matches} {signal : Signal} {s' : Fabric}
    (hlayout : Layout switchAt)
    (h : Keeps switchAt (fun _ => False) added.switchObjectAddedMatch s)
    (hsignal : Fabric.Answers switchAt s ⟨.nextSignal, some signal⟩ s') :
    wp (fabric switchAt) (Waits switchAt) (dispatch added signal)
      (fun _ => Keeps switchAt (fun _ => False) added.switchObjectAddedMatch) s' := by
  cases signal with
  | propertiesChanged path =>
      obtain ⟨hlistening, rfl⟩ := hsignal
      have hadded : ¬added.switchObjectAddedMatch = false := by simp [h.told hlistening]
      rw [dispatch, if_neg hadded, wp_bind]
      refine wp_mono (wp_switchObjectCallback_kept hlayout h.tell) (fun _ _ hG => hG) ?_
      rintro (e | _) u hu
      · exact hu
      · exact hu
  | interfacesAdded message =>
      obtain rfl : s' = s := hsignal
      rw [dispatch]
      split
      · exact h
      · rcases message with _ | ⟨path, interfaces⟩
        · exact h
        · rw [softwareObjectCallback, wp_bind]
          exact wp_mono (wp_addedInterfaces_kept h) (fun _ _ hG => hG) fun _ u hu => hu

theorem wp_eventLoop_kept {added : Matches} {count : Nat} (hlayout : Layout switchAt)
    (h : Keeps switchAt (fun _ => False) added.switchObjectAddedMatch s) :
    wp (fabric switchAt) (Waits switchAt) (eventLoop added count)
      (fun _ => Keeps switchAt (fun _ => False) added.switchObjectAddedMatch) s := by
  induction count generalizing s with
  | zero => exact h
  | succ count ih =>
      rw [eventLoop, wp_bind]
      rintro signal s' ⟨switches, hchanges, hanswers⟩
      refine ⟨fun _ path hswitch hpath => h.shown path hswitch hpath id, ?_⟩
      rcases signal with _ | signal
      · obtain rfl : s' = _ := hanswers
        exact h.changes hchanges
      · refine wp_bind.mpr (wp_mono (wp_dispatch_kept hlayout (h.changes hchanges) hanswers)
          (fun _ _ hG => hG) fun res u hu => ?_)
        rcases res with e | _
        · refine wp_bind.mpr (wp_message stable_keeps hu (by simp) fun caught v s'' hv hgoes => ?_)
          obtain rfl : s'' = v := hgoes
          cases caught with
          | false => exact hv
          | true => exact ih hv
        · exact ih hu

theorem wp_retimerApp_kept {count : Nat} (hlayout : Layout switchAt)
    (hnone : s.switches.followed = []) (hsilent : s.switches.listening = false) :
    wp (fabric switchAt) (Waits switchAt) (retimerApp count) (fun _ _ => True) s := by
  have hstart : Keeps switchAt (fun _ => False) false s :=
    ⟨fun path _ _ _ => Source.known_of_lost (hnone ▸ List.not_mem_nil),
      fun hlistening => hsilent.symm.trans hlistening⟩
  rw [retimerApp, wp_bind]
  refine wp_mono (wp_startRetimers_kept hlayout hstart) (fun _ _ hG => hG) fun _ u hu => ?_
  refine wp_bind.mpr (wp_mono (wp_listenForGPUManagerEvents_kept hu) (fun _ _ hG => hG) ?_)
  exact fun added v hv => wp_mono (wp_eventLoop_kept hlayout hv) (fun _ _ hG => hG)
    fun _ _ _ => trivial

end Whole

/-- **The SKUs follow the ids.** Whenever the application waits for a signal,
the SKU of a retimer is the one that the ids of its switch give: if no signal of
the switch is still to come, and since the application was last told of the
switch no call about it has failed and it has not changed unannounced. The ids
may have changed any number of times before, at any message, and in the middle
of a callback. -/
theorem retimerApp_shows (switchAt : String → Prop) (count : Nat) (s m s' : Fabric)
    (pre : List BusEvent) (signal : Option Signal) (q : Bus (Except BusException Unit))
    (hlayout : Layout switchAt) (hnone : s.switches.followed = [])
    (hsilent : s.switches.listening = false)
    (h : Trace (retimerApp count) (pre ++ [⟨.nextSignal, signal⟩]) q)
    (hpre : Follows (fabric switchAt) s pre m)
    (hsignal : fabric switchAt m ⟨.nextSignal, signal⟩ s') :
    ∀ path skuId, switchAt path → path.startsWith retimerSwitchesBasePath →
      path ∉ m.switches.pending → path ∈ m.switches.followed →
      GivesSku (m.switches.value path) skuId → m.sku (inventoryObject path) = skuId := by
  have hwaits : Waits switchAt m ⟨.nextSignal, signal⟩ :=
    wp_event (wp_retimerApp_kept hlayout hnone hsilent) h hpre hsignal
  intro path skuId hswitch hstarts hpending hfollowed hgives
  exact hwaits rfl path hswitch hstarts hpending hfollowed skuId hgives

section Small

def smallSwitch : String := retimerSwitchesBasePath ++ "0/Switches/PCIeRetimer_0"

def smallIds : Ids := ⟨bytesOf "0x22a3", bytesOf "0x10de"⟩

/-- The switch gets another device id once it is listened to. -/
def laterIds : Ids := ⟨bytesOf "0x22a4", bytesOf "0x10de"⟩

def smallFabric : Fabric := ⟨⟨fun _ => smallIds, false, [], []⟩, fun _ => []⟩

def changedAnswer (s : Fabric) : (e : BusCall) → Option (BusAnswer e × Fabric)
  | .getObject _ _ _ =>
      some (some ⟨["xyz.openbmc_project.Changing"], List.pairwise_singleton _ _⟩, s)
  | .getSubTreePaths _ rootPath _ _ =>
      if rootPath = retimerSwitchesBasePath ++ "0" then
        some (some [smallSwitch], s.tell smallSwitch)
      else some (some [], s)
  | .get m interface propertyName =>
      if m.path = smallSwitch ∧ interface = switchInterface then
        let ids := s.switches.value smallSwitch
        some (some (if propertyName = "DeviceId" then ids.deviceId else ids.vendorId), s)
      else some (none, s.fail m.path)
  | .set m interface propertyName value =>
      some (true, if interface = assetInterface ∧ propertyName = "SKU" then s.setSku m.path value
        else s)
  | .addMatch rule =>
      if rule = switchRule then some (true, { s with switches := s.switches.listen })
      else some (true, { s with switches := s.switches.change smallSwitch laterIds })
  | .nextSignal =>
      match s.switches.pending with
      | [] => some (none, s)
      | path :: _ =>
          if s.switches.listening then some (some (.propertiesChanged path), s.tell path) else none
  | .escaped _ => some (false, s)
  | .undefinedBehaviour => none

def changedRun : List BusEvent × Bus (Except BusException Unit) × Fabric :=
  play changedAnswer 53 smallFabric (retimerApp 2)

theorem startsWith_smallSwitch : smallSwitch.startsWith retimerSwitchesBasePath :=
  String.startsWith_string_iff.mpr (by
    rw [smallSwitch, String.toList_append]
    exact List.prefix_append _ _)

theorem retimerId_smallSwitch : retimerId smallSwitch = "0" := rfl

theorem layout_smallSwitch : Layout (· = smallSwitch) where
  ne_empty := by decide
  distinct path path' hpath hpath' _ _ _ := hpath.trans hpath'.symm

theorem fabric_changedAnswer {s s' : Fabric} {e : BusCall} {r : BusAnswer e}
    (h : changedAnswer s e = some (r, s')) : fabric (· = smallSwitch) s ⟨e, r⟩ s' := by
  cases e with
  | getObject m path interfaces =>
      cases h
      exact ⟨_, .refl, rfl⟩
  | getSubTreePaths m rootPath depth interfaces =>
      simp only [changedAnswer] at h
      split at h
      · next hroot =>
          cases h
          refine ⟨_, .refl, rfl, rfl, startsWith_smallSwitch, ?_⟩
          rw [hroot, retimerId_smallSwitch]
      · cases h
        exact ⟨_, .refl, rfl⟩
  | get m interface propertyName =>
      simp only [changedAnswer] at h
      split at h
      · next hget =>
          cases h
          refine ⟨_, .refl, rfl, fun _ => ⟨hget.1, ?_, ?_⟩⟩
          · rintro rfl
            rw [if_pos rfl, hget.1]
          · rintro rfl
            have hother : ¬"VendorId" = "DeviceId" := by decide
            rw [if_neg hother, hget.1]
      · cases h
        exact ⟨_, .refl, rfl⟩
  | set m interface propertyName value =>
      cases h
      exact ⟨_, .refl, rfl⟩
  | addMatch rule =>
      simp only [changedAnswer] at h
      split at h
      · next hrule =>
          cases h
          refine ⟨_, .refl, ?_⟩
          show _ = if rule = switchRule then _ else _
          rw [if_pos hrule]
      · next hrule =>
          cases h
          refine ⟨_, .single ⟨smallSwitch, laterIds, rfl⟩, ?_⟩
          show _ = if rule = switchRule then _ else _
          rw [if_neg hrule]
  | nextSignal =>
      simp only [changedAnswer] at h
      split at h
      · cases h
        exact ⟨_, .refl, rfl⟩
      · split at h
        · next hlistening =>
            cases h
            exact ⟨_, .refl, hlistening, rfl⟩
        · cases h
  | escaped e =>
      cases h
      exact ⟨_, .refl, rfl⟩
  | undefinedBehaviour => cases h

theorem retimerApp_shows_small :
    changedRun.2.2.sku (inventoryObject smallSwitch) = bytesOf "0x22A410DE" := by
  obtain ⟨q, htrace⟩ := (trace_play changedAnswer 53 smallFabric (retimerApp 2)).next
    (e := .nextSignal) (by decide +kernel) none
  have hfollows : Follows (fabric (· = smallSwitch)) smallFabric changedRun.1 changedRun.2.2 :=
    follows_play (fun _ _ _ _ => fabric_changedAnswer) 53 smallFabric (retimerApp 2)
  have hidle : ∀ s : Fabric, fabric (· = smallSwitch) s ⟨.nextSignal, none⟩ s :=
    fun s => ⟨_, .refl, rfl⟩
  refine retimerApp_shows (· = smallSwitch) 2 smallFabric changedRun.2.2 changedRun.2.2
    changedRun.1 none q layout_smallSwitch rfl rfl htrace hfollows (hidle _) smallSwitch _ rfl
    startsWith_smallSwitch ?_ ?_ ?_
  · decide +kernel
  · decide +kernel
  · have hids : changedRun.2.2.switches.value smallSwitch = laterIds := by decide +kernel
    rw [hids]
    exact ⟨by decide, by decide, rfl⟩

end Small

end Retimer
