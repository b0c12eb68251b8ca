import Retimer.ArgumentChecks
import Retimer.RtManager
import Retimer.Keyed

/-!
# The inventory is what the file says

For each `Index`, its first entry should become a retimer, on the path
of the `Index` and with the bus and the address that are written there,
if both fit into a byte. The constructor looks for an entry it has taken
already by its `getInventoryPath`, which no retimer has, so that it
depends on sd-bus alone to refuse a second object on a path; it stores
both numbers in a byte; and it takes a later entry where the first one
of an `Index` cannot be read.

What the file says is `configured`: the first entry of each key
(`firsts`, of the library), where it can be read and fits. What the loop
does is `Inserts` of the library: `run_addFru` has one iteration insert
or refuse, since the test for the path never holds, and `run_addFrus`
the whole loop, by induction over the entries. sd-bus is an environment
with the registered paths as its state (`objectServer`); it may refuse a
second object on a path or not.

The comparison of the two is a statement about lists.
`narrowed_eq_configured_iff` has the inserted entries, cut to bytes, be
the configured ones exactly if no path was taken twice and every first
entry that matters fits (`FirstsFit`); it rests on `Inserts.eq_firsts`
and `firsts_filterMap`.
-/

namespace Retimer

open Interaction Interaction.Prog Keyed

/-! ## What the file says -/

/-- An entry with its numbers, as written. -/
structure Entry where
  index : String
  bus : Int
  address : Int
deriving DecidableEq

/-- The numbers fit into a byte. -/
def Entry.Fits (entry : Entry) : Prop :=
  (0 ≤ entry.bus ∧ entry.bus < 256) ∧ 0 ≤ entry.address ∧ entry.address < 256

instance : DecidablePred Entry.Fits := fun _ => inferInstanceAs (Decidable (_ ∧ _))

/-- What an entry says, if `std::stoi` can read both numbers. -/
def Fru.written (fru : Fru) : Option Entry := do
  let index ← fru.index
  let busN ← fru.bus
  let address ← fru.address
  let busId ← (stoi busN 10).toOption
  let devAddr ← (stoi address 16).toOption
  return ⟨index, busId.toInt, devAddr.toInt⟩

def Fru.fitting (fru : Fru) : Option Entry := fru.written.filter fun entry => entry.Fits

/-- The entries that should be in the inventory, in order. A first entry that
cannot be read or does not fit hides the later ones of its `Index`. -/
def configured (frus : List Fru) : List Entry := (firsts Fru.index frus).filterMap Fru.fitting

/-- One object for each of them, with its path and its numbers. -/
def Listed (frus : List Fru) (rtInvs : List RetimerObject) : Prop :=
  rtInvs.map (fun inv => (inv.objPath, inv.b, inv.d))
    = (configured frus).map fun entry => (invpath entry.index, entry.bus, entry.address)

/-- The inventory holds each configured retimer once, as configured. -/
structure AsConfigured (frus : List Fru) (rtInvs : List RetimerObject) : Prop where
  listed : Listed frus rtInvs
  path : rtInvs.map RetimerObject.getInventoryPath
    = (configured frus).map fun entry => invpath entry.index
  distinct : (rtInvs.map RetimerObject.getInventoryPath).Nodup

/-- sd-bus with its registered paths. It takes an object on a path that is free. -/
def objectServer : Env InventoryCall InventoryAnswer (List String)
  | paths, ⟨.createObject objPath, true⟩, paths' => paths' = objPath :: paths
  | paths, ⟨.createObject objPath, false⟩, paths' => objPath ∈ paths ∧ paths' = paths
  | paths, _, paths' => paths' = paths

/-! ## Reading an entry -/

section Reading

variable {fru : Fru} {entry : Entry}

/-- An entry that can be read is stored with both numbers cut to a byte. -/
theorem readFru_cases : (∃ e, readFru fru = .error e ∧ fru.written = none)
    ∨ ∃ (entry : Entry) (busId devAddr : UInt8), readFru fru = .ok (entry.index, busId, devAddr)
      ∧ fru.written = some entry ∧ (busId.toNat : Int) = entry.bus % 256
      ∧ (devAddr.toNat : Int) = entry.address % 256 := by
  obtain ⟨index, bus, address⟩ := fru
  rcases index with _ | index
  · exact Or.inl ⟨_, rfl, rfl⟩
  rcases bus with _ | busN
  · exact Or.inl ⟨_, rfl, rfl⟩
  rcases address with _ | address
  · exact Or.inl ⟨_, rfl, rfl⟩
  cases hbus : stoi busN 10 with
  | error e =>
      refine Or.inl ⟨e, ?_, ?_⟩
      · simp [readFru, field, hbus, bind, Except.bind]
      · simp [Fru.written, hbus, Except.toOption]
  | ok bus =>
      cases haddress : stoi address 16 with
      | error e =>
          refine Or.inl ⟨e, ?_, ?_⟩
          · simp [readFru, field, hbus, haddress, bind, Except.bind]
          · simp [Fru.written, haddress, Except.toOption]
      | ok address =>
          refine Or.inr ⟨⟨index, bus.toInt, address.toInt⟩, toUint8 bus, toUint8 address, ?_, ?_,
            toUint8_emod bus, toUint8_emod address⟩
          · simp [readFru, field, hbus, haddress, bind, Except.bind, pure, Except.pure]
          · simp [Fru.written, hbus, haddress, Except.toOption]

theorem written_index (h : fru.written = some entry) : some entry.index = fru.index := by
  simp only [Fru.written, Option.bind_eq_bind, Option.bind_eq_some_iff] at h
  obtain ⟨index, hindex, _, _, _, _, _, _, _, _, hentry⟩ := h
  obtain rfl := Option.some.inj hentry
  exact hindex.symm

theorem fitting_eq_some_iff : fru.fitting = some entry ↔ fru.written = some entry ∧ entry.Fits := by
  simp [Fru.fitting, Option.filter_eq_some_iff]

theorem invpath_injective {id id' : String} (h : invpath id = invpath id') : id = id' := by
  simpa [invpath, ← String.toList_inj] using h

theorem invpath_ne_empty {id : String} : invpath id ≠ "" := by
  simp [invpath, baseInvPath, ← String.toList_inj]

end Reading

/-! ## Runs of the constructor -/

/-- What the code makes of an entry: both numbers cut to a byte, and no
inventory path. -/
structure MadeOf (entry : Entry) (inv : RetimerObject) : Prop where
  objPath : inv.objPath = invpath entry.index
  inventoryPath : inv.getInventoryPath = ""
  bus : inv.b = entry.bus % 256
  address : inv.d = entry.address % 256

/-- What an iteration makes of the inventory and of the registered paths: an
entry that cannot be read is skipped, and one on a path that is taken is refused
by sd-bus. -/
inductive AddRun (rtInvs : List RetimerObject) (paths : List String) (fru : Fru) :
    List RetimerObject → List String → Prop where
  | skipped : fru.written = none → AddRun rtInvs paths fru rtInvs paths
  | refused {entry : Entry} : fru.written = some entry → invpath entry.index ∈ paths →
      AddRun rtInvs paths fru rtInvs paths
  | added {entry : Entry} {inv : RetimerObject} : fru.written = some entry → MadeOf entry inv →
      AddRun rtInvs paths fru (rtInvs ++ [inv]) (invpath entry.index :: paths)

section Runs

variable {tr : List InventoryEvent} {paths paths' : List String} {frus : List Fru} {fru : Fru}
  {rtInvs rtInvs' : List RetimerObject}

theorem run_utilRunCommand {b d : UInt8} {command : String} {s : List UInt8}
    (h : Run (Util.runCommand b d command) tr s) :
    ∃ cmd output, tr = [⟨.executeCmd cmd, output⟩] := by
  obtain ⟨output, tr', rfl, hrest⟩ := run_perform_bind.mp h
  refine ⟨_, output, ?_⟩
  cases output with
  | none =>
      obtain ⟨rfl, -⟩ := run_ret.mp hrest
      rfl
  | some output =>
      obtain ⟨rfl, -⟩ := run_ret.mp hrest
      rfl

theorem run_makeRetimer {objPath name : String} {busN address : UInt8} {res : Option RetimerObject}
    (h : Run (makeRetimer objPath busN address name) tr res)
    (hbus : Follows objectServer paths tr paths') :
    res = none ∧ objPath ∈ paths ∧ paths' = paths
      ∨ ∃ inv, res = some inv ∧ paths' = objPath :: paths ∧ inv.objPath = objPath
        ∧ inv.getInventoryPath = "" ∧ inv.b = busN.toNat ∧ inv.d = address.toNat := by
  obtain ⟨created, tr', rfl, hrest⟩ := run_perform_bind.mp h
  obtain ⟨paths₁, hcreate, hbus'⟩ := hbus
  cases created with
  | false =>
      obtain ⟨rfl, rfl⟩ := run_ret.mp hrest
      obtain ⟨hmem, rfl⟩ := hcreate
      exact Or.inl ⟨rfl, hmem, hbus'⟩
  | true =>
      obtain rfl : paths₁ = objPath :: paths := hcreate
      rw [if_pos rfl] at hrest
      obtain ⟨_, _, _, rfl, h1, hrest₁⟩ := run_bind.mp hrest
      obtain ⟨_, _, _, rfl, h2, hrest₂⟩ := run_bind.mp hrest₁
      obtain ⟨_, _, _, rfl, h3, hrest₃⟩ := run_bind.mp hrest₂
      obtain ⟨_, _, _, rfl, h4, hrest₄⟩ := run_bind.mp hrest₃
      obtain ⟨_, _, rfl, hreturn⟩ := run_perform_bind.mp hrest₄
      obtain ⟨rfl, rfl⟩ := run_ret.mp hreturn
      obtain ⟨_, _, rfl⟩ := run_utilRunCommand h1
      obtain ⟨_, _, rfl⟩ := run_utilRunCommand h2
      obtain ⟨_, _, rfl⟩ := run_utilRunCommand h3
      obtain ⟨_, _, rfl⟩ := run_utilRunCommand h4
      -- neither a command nor the signal changes what is registered
      obtain ⟨_, rfl, _, rfl, _, rfl, _, rfl, _, rfl, rfl⟩ := hbus'
      exact Or.inr ⟨_, rfl, rfl, rfl, rfl, rfl, rfl⟩

/-- The test for the path never holds, since no retimer has one. Only the sd-bus
keeps two objects off one path. -/
theorem run_addFru (h : Run (addFru rtInvs fru) tr rtInvs')
    (hbus : Follows objectServer paths tr paths')
    (hblank : ∀ inv ∈ rtInvs, inv.getInventoryPath = "") :
    AddRun rtInvs paths fru rtInvs' paths' := by
  unfold addFru at h
  rcases readFru_cases with ⟨e, hread, hnone⟩ | ⟨entry, busId, devAddr, hread, hentry⟩
  · rw [hread] at h
    obtain ⟨rfl, rfl⟩ := run_ret.mp h
    obtain rfl : paths' = paths := hbus
    exact .skipped hnone
  · obtain ⟨hwritten, hentryBus, hentryAddress⟩ := hentry
    have hsearch : rtInvs.any (fun inv => inv.getInventoryPath = invpath entry.index) = false := by
      rw [List.any_eq_false]
      intro inv hinv hpath
      exact invpath_ne_empty ((of_decide_eq_true hpath).symm.trans (hblank inv hinv))
    simp only [hread, hsearch, Bool.false_eq_true, ↓reduceIte] at h
    obtain ⟨tr₁, res, tr₂, rfl, hmake, hrest⟩ := run_bind.mp h
    obtain ⟨paths₁, hbus₁, hbus₂⟩ := follows_append.mp hbus
    rcases run_makeRetimer hmake hbus₁ with ⟨rfl, hmem, rfl⟩ | ⟨inv, rfl, rfl, hmade⟩
    · obtain ⟨rfl, rfl⟩ := run_ret.mp hrest
      obtain rfl := follows_nil.mp hbus₂
      exact .refused hwritten hmem
    · obtain ⟨hpath, hempty, hb, hd⟩ := hmade
      obtain ⟨rfl, rfl⟩ := run_ret.mp hrest
      obtain rfl := follows_nil.mp hbus₂
      exact .added hwritten ⟨hpath, hempty, hb.trans hentryBus, hd.trans hentryAddress⟩

theorem AddRun.blank (h : AddRun rtInvs paths fru rtInvs' paths')
    (hblank : ∀ inv ∈ rtInvs, inv.getInventoryPath = "") :
    ∀ inv ∈ rtInvs', inv.getInventoryPath = "" := by
  cases h with
  | skipped _ => exact hblank
  | refused _ _ => exact hblank
  | added _ hmade =>
      intro inv hinv
      rcases List.mem_append.mp hinv with hinv | hinv
      · exact hblank inv hinv
      · obtain rfl := List.mem_singleton.mp hinv
        exact hmade.inventoryPath

/-- The loop: of the entries that can be read, those go in whose path is free, and
perhaps others. -/
theorem run_addFrus {ids : List String} (h : Run (frus.foldlM addFru rtInvs) tr rtInvs')
    (hbus : Follows objectServer (ids.map invpath) tr paths')
    (hblank : ∀ inv ∈ rtInvs, inv.getInventoryPath = "") :
    ∃ entries invs, Inserts Entry.index ids (frus.filterMap Fru.written) entries
      ∧ rtInvs' = rtInvs ++ invs ∧ List.Forall₂ MadeOf entries invs
      ∧ paths' = ((entries.map Entry.index).reverse ++ ids).map invpath := by
  induction frus generalizing rtInvs ids tr with
  | nil =>
      obtain ⟨rfl, rfl⟩ := run_ret.mp h
      exact ⟨[], [], .nil, (List.append_nil _).symm, .nil, follows_nil.mp hbus⟩
  | cons fru frus ih =>
      rw [List.foldlM_cons] at h
      obtain ⟨tr₁, rtInvs₁, tr₂, rfl, hadd, hrest⟩ := run_bind.mp h
      obtain ⟨paths₁, hbus₁, hbus₂⟩ := follows_append.mp hbus
      have hstep := run_addFru hadd hbus₁ hblank
      have hblank₁ := hstep.blank hblank
      cases hstep with
      | skipped hnone =>
          rw [List.filterMap_cons_none hnone]
          exact ih hrest hbus₂ hblank₁
      | refused hwritten hmem =>
          rw [List.filterMap_cons_some hwritten]
          obtain ⟨id, hid, heq⟩ := List.mem_map.mp hmem
          obtain rfl := invpath_injective heq
          obtain ⟨entries, invs, hins, hinvs⟩ := ih hrest hbus₂ hblank₁
          exact ⟨entries, invs, .refuse hid hins, hinvs⟩
      | @added entry inv hwritten hmade =>
          rw [List.filterMap_cons_some hwritten]
          have hbus₃ : Follows objectServer ((entry.index :: ids).map invpath) tr₂ paths' := hbus₂
          obtain ⟨entries, invs, hins, hinvs, hall, hpaths⟩ := ih hrest hbus₃ hblank₁
          refine ⟨entry :: entries, inv :: invs, .insert hins, ?_, .cons hmade hall, ?_⟩
          · rw [hinvs, List.append_assoc, List.singleton_append]
          · rw [hpaths, List.map_cons, List.reverse_cons, List.append_assoc, List.singleton_append]

end Runs

/-! ## The entries of the file -/

def Entry.narrowed (entry : Entry) : Entry :=
  ⟨entry.index, entry.bus % 256, entry.address % 256⟩

section Entries

variable {frus : List Fru} {fru : Fru} {entry entry' : Entry} {entries : List Entry}

theorem Entry.Fits.narrowed (h : entry.Fits) : entry.narrowed = entry := by
  obtain ⟨⟨hlow, hhigh⟩, hlow', hhigh'⟩ := h
  rw [Entry.narrowed, Int.emod_eq_of_lt hlow hhigh, Int.emod_eq_of_lt hlow' hhigh']

theorem fitting_of_written_ne (h : fru.fitting ≠ none) : fru.written ≠ none := by
  intro hnone
  exact h (by rw [Fru.fitting, hnone, Option.filter_none])

theorem mem_configured_iff : entry ∈ configured frus ↔
    ∃ first ∈ firsts Fru.index frus, first.fitting = some entry :=
  List.mem_filterMap

theorem nodup_configured : ((configured frus).map Entry.index).Nodup := by
  have hfirsts : ((firsts Fru.index frus).map Fru.index).Nodup := nodup_firsts
  rw [List.Nodup, List.pairwise_map] at hfirsts ⊢
  rw [configured, List.pairwise_filterMap]
  refine hfirsts.imp ?_
  intro first first' hne entry hentry entry' hentry' heq
  apply hne
  rw [← written_index (fitting_eq_some_iff.mp hentry).1,
    ← written_index (fitting_eq_some_iff.mp hentry').1, heq]

/-- Wherever an entry can be read, the first one of its `Index` can, and fits
into a byte. An entry that cannot be read is skipped, and the handler goes on
with the next one. -/
def FirstsFit (frus : List Fru) : Prop :=
  ∀ first ∈ firsts Fru.index frus, ∀ fru ∈ frus, fru.index = first.index →
    fru.written ≠ none → first.fitting ≠ none

theorem configured_of_firstsFit (h : FirstsFit frus) :
    (firsts Entry.index (frus.filterMap Fru.written)).map Entry.narrowed = configured frus := by
  have hfirsts : firsts Entry.index (frus.filterMap Fru.written)
      = (firsts Fru.index frus).filterMap Fru.written := by
    apply firsts_filterMap
    · intro fru fru' entry entry' hentry hentry'
      rw [← written_index hentry, ← written_index hentry', Option.some.injEq]
    · intro fru hfru first hfirst heq hnone
      by_contra hwritten
      exact fitting_of_written_ne (h first hfirst fru hfru heq hwritten) hnone
  rw [hfirsts, List.map_filterMap, configured]
  apply List.filterMap_congr
  intro first hfirst
  cases hwritten : first.written with
  | none => rw [Fru.fitting, hwritten, Option.filter_none, Option.map_none]
  | some entry =>
      have hfits : first.fitting ≠ none :=
        h first hfirst first (mem_of_mem_firsts hfirst) rfl (by simp [hwritten])
      obtain ⟨entry', hentry'⟩ := Option.ne_none_iff_exists'.mp hfits
      obtain ⟨hwritten', hentry⟩ := fitting_eq_some_iff.mp hentry'
      obtain rfl := Option.some.inj (hwritten.symm.trans hwritten')
      rw [hentry', Option.map_some, hentry.narrowed]

theorem firstsFit_of_configured (hins : Inserts Entry.index [] (frus.filterMap Fru.written) entries)
    (h : entries.map Entry.narrowed = configured frus) : FirstsFit frus := by
  intro first hfirst fru hfru heq hwritten
  obtain ⟨entry, hentry⟩ := Option.ne_none_iff_exists'.mp hwritten
  have hoffered : entry ∈ frus.filterMap Fru.written := List.mem_filterMap.mpr ⟨fru, hfru, hentry⟩
  have htaken : entry.index ∈ entries.map Entry.index :=
    (hins.covers hoffered).resolve_left List.not_mem_nil
  have hconfigured : entry.index ∈ (configured frus).map Entry.index := by
    rw [← h, List.map_map]
    exact htaken
  obtain ⟨entry', hmem, hindex⟩ := List.mem_map.mp hconfigured
  obtain ⟨first', hfirst', hfitting⟩ := mem_configured_iff.mp hmem
  -- the entry that is configured for this `Index` comes from its first one
  have hsame : first'.index = first.index := by
    rw [← heq, ← written_index hentry, ← written_index (fitting_eq_some_iff.mp hfitting).1, hindex]
  obtain rfl := List.inj_on_of_nodup_map nodup_firsts hfirst' hfirst hsame
  simp [hfitting]

theorem narrowed_eq_configured_iff
    (hins : Inserts Entry.index [] (frus.filterMap Fru.written) entries) :
    entries.map Entry.narrowed = configured frus
      ↔ (entries.map Entry.index).Nodup ∧ FirstsFit frus := by
  constructor
  · intro h
    refine ⟨?_, firstsFit_of_configured hins h⟩
    have hindex : entries.map Entry.index = (entries.map Entry.narrowed).map Entry.index := by
      rw [List.map_map]
      rfl
    rw [hindex, h]
    exact nodup_configured
  · rintro ⟨hnodup, hfit⟩
    rw [hins.eq_firsts hnodup]
    exact configured_of_firstsFit hfit

end Entries

/-! ## The inventory -/

section Inventory

variable {frus : List Fru} {entries : List Entry} {rtInvs : List RetimerObject}

theorem listed_iff (h : List.Forall₂ MadeOf entries rtInvs) :
    Listed frus rtInvs ↔ entries.map Entry.narrowed = configured frus := by
  have hshown : rtInvs.map (fun inv => (inv.objPath, inv.b, inv.d))
      = (entries.map Entry.narrowed).map
          fun entry => (invpath entry.index, entry.bus, entry.address) := by
    induction h with
    | nil => rfl
    | cons hmade _ ih =>
        rw [List.map_cons, List.map_cons, List.map_cons, ih, hmade.objPath, hmade.bus,
          hmade.address]
        rfl
  rw [Listed, hshown]
  refine List.map_inj_right ?_
  rintro ⟨id, bus, address⟩ ⟨id', bus', address'⟩ heq
  simp only [Prod.mk.injEq] at heq
  rw [invpath_injective heq.1, heq.2.1, heq.2.2]

/-- Without a path of its own, no retimer is as configured. -/
theorem eq_nil_of_asConfigured (h : List.Forall₂ MadeOf entries rtInvs)
    (hconf : AsConfigured frus rtInvs) : entries = [] := by
  cases h with
  | nil => rfl
  | cons hmade _ =>
      have hpath := hconf.path
      rw [List.map_cons, hmade.inventoryPath] at hpath
      obtain ⟨entry, -, hempty⟩ := List.mem_map.mp (hpath ▸ List.mem_cons_self)
      exact absurd hempty invpath_ne_empty

end Inventory

/-- **The inventory.** It is as configured only where it is empty because
nothing can be read: `getInventoryPath` is never set, so already one retimer is
without its path. The list of its objects is right if sd-bus has refused every
second object on a path, and the first entry of each `Index` can be read and
fits where any entry of the `Index` can be read. -/
theorem rtManager_asConfigured_iff {frus : List Fru} {tr : List InventoryEvent}
    {res : Except ManagerException (List RetimerObject)} {paths : List String}
    (hrun : Run (rtManager (some (some frus))) tr res) (hbus : Follows objectServer [] tr paths) :
    ∃ rtInvs, res = .ok rtInvs
      ∧ (AsConfigured frus rtInvs ↔ ∀ fru ∈ frus, fru.written = none)
      ∧ (Listed frus rtInvs ↔ paths.Nodup ∧ FirstsFit frus) := by
  obtain ⟨tr₁, rtInvs, tr₂, rfl, hloop, hreturn⟩ := run_bind.mp hrun
  obtain ⟨rfl, rfl⟩ := run_ret.mp hreturn
  rw [List.append_nil] at hbus
  have hfree : Follows objectServer (([] : List String).map invpath) tr₁ paths := hbus
  obtain ⟨entries, invs, hins, rfl, hall, rfl⟩ :=
    run_addFrus hloop hfree fun inv hinv => absurd hinv List.not_mem_nil
  refine ⟨rtInvs, rfl, ?_, ?_⟩
  · constructor
    · intro hconf
      exact List.filterMap_eq_nil_iff.mp (hins.eq_nil_iff.mp (eq_nil_of_asConfigured hall hconf))
    · intro hnone
      obtain rfl := hins.eq_nil_iff.mpr (List.filterMap_eq_nil_iff.mpr hnone)
      cases hall
      have hconf : configured frus = [] := by
        rw [configured, List.filterMap_eq_nil_iff]
        intro first hfirst
        rw [Fru.fitting, hnone first (mem_of_mem_firsts hfirst), Option.filter_none]
      exact ⟨by rw [Listed, hconf]; rfl, by rw [hconf]; rfl, List.nodup_nil⟩
  · rw [listed_iff hall, narrowed_eq_configured_iff hins, List.append_nil,
      List.nodup_map_iff fun _ _ => invpath_injective, List.nodup_reverse]

/-! ## One retimer -/

section Single

/-- The answers of an sd-bus that takes every object, where no command writes anything. -/
def acceptingReply (paths : List String) :
    (c : InventoryCall) → Option (InventoryAnswer c × List String)
  | .createObject objPath => some (true, objPath :: paths)
  | .executeCmd _ => some (some [], paths)
  | .emitObjectAdded _ => some ((), paths)

theorem objectServer_acceptingReply (paths : List String) (c : InventoryCall)
    (r : InventoryAnswer c) (paths' : List String)
    (h : acceptingReply paths c = some (r, paths')) : objectServer paths ⟨c, r⟩ paths' := by
  cases c <;> cases h <;> rfl

def singleFru : Fru := ⟨some "0", some (bytesOf "12"), some (bytesOf "0x20")⟩

def singleRun : List InventoryEvent ×
    Inventory (Except ManagerException (List RetimerObject)) × List String :=
  play acceptingReply 10 [] (rtManager (some (some [singleFru])))

def singleInv : RetimerObject :=
  { objPath := invpath "0", b := 12, d := 32, manufacturer := [], model := [], partNumber := [],
    serialNumber := [], present := true, prettyName := "Retimer " ++ "0", functional := true,
    chassisType := "xyz.openbmc_project.Inventory.Item.Chassis.ChassisType.Module" }

theorem run_single : Run (rtManager (some (some [singleFru]))) singleRun.1 (.ok [singleInv]) :=
  run_play (by rfl)

theorem follows_single : Follows objectServer [] singleRun.1 singleRun.2.2 :=
  follows_play objectServer_acceptingReply 10 [] _

theorem rtManager_asConfigured_iff_single :
    ∃ rtInvs, (Except.ok [singleInv] : Except ManagerException _) = .ok rtInvs
      ∧ (AsConfigured [singleFru] rtInvs ↔ ∀ fru ∈ [singleFru], fru.written = none)
      ∧ (Listed [singleFru] rtInvs ↔ singleRun.2.2.Nodup ∧ FirstsFit [singleFru]) :=
  rtManager_asConfigured_iff run_single follows_single

/-- Already one retimer is without the path that it is registered on. -/
theorem rtManager_no_inventoryPath :
    ¬∀ (frus : List Fru) (tr : List InventoryEvent)
      (res : Except ManagerException (List RetimerObject)) (paths : List String),
      Run (rtManager (some (some frus))) tr res → Follows objectServer [] tr paths →
      ∃ rtInvs, res = .ok rtInvs ∧ AsConfigured frus rtInvs := by
  intro h
  obtain ⟨rtInvs, hres, hconf⟩ := h [singleFru] _ _ _ run_single follows_single
  obtain rfl : [singleInv] = rtInvs := Except.ok.inj hres
  have hpath : "" ∈ (configured [singleFru]).map fun entry => invpath entry.index := by
    rw [← hconf.path]
    exact List.mem_singleton.mpr rfl
  obtain ⟨entry, -, hempty⟩ := List.mem_map.mp hpath
  exact absurd hempty invpath_ne_empty

end Single

end Retimer
