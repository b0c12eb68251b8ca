import Retimer.HashBus
import Retimer.HashExits
import Retimer.WorkingService

/-!
# What the clients of the hash service see

A client may keep the `Digest` that was announced last instead of asking
for it again. That is as good: every reply is the value announced last
for its object, unless that signal got lost. Where nothing fails
(`Working.step`), the value is the hash of firmware that was delivered
for the retimer.

The bus is an environment around any board (`hashBus`): it keeps the
objects that were registered, the values announced and the objects whose
signal got lost (`Clients`), and calls a getter for registered objects
only. `wp_busLoop` and `wp_serviceMain` are the rules of the loop, for
any invariant between the digests and the state and for any demand on
replies (`Replies`); the invariant has to be kept by `GetHash` alone.

The first result has the invariant `Coherent`: the clients have the
present digests where they missed no signal. A request changes the
digest of its own retimer only (`others_readFWImagenComputeHash`), and
announces it (`Coherent.signal`).

The second one has the machine on which nothing fails as its board, with
the requests so far (`workingBoard`), and `ServesCurrent` as its
invariant: no read is under way, and the digests are those of what was
delivered. Its step is `serves_methodComputeHash`, by `hashBus_onSys`
the same method without its bus.
-/

namespace Retimer

open Interaction Interaction.Prog

/-! ## The clients -/

structure Clients where
  /-- The objects of the service. -/
  registered : List String
  /-- The `Digest` that was announced last. -/
  announced : String → List UInt8
  /-- Objects whose last signal did not reach the clients. -/
  missed : List String

def newClients : Clients := ⟨[], fun _ => [], []⟩

namespace Clients

def register (c : Clients) (path : String) : Clients :=
  { c with registered := path :: c.registered }

def signal (c : Clients) (path : String) (value : List UInt8) (reached : Bool) : Clients :=
  if reached then
    { c with
      announced := Function.update c.announced path value
      missed := c.missed.filter (· ≠ path) }
  else { c with missed := path :: c.missed }

end Clients

section Environment

variable {S : Type}

/-- The bus around a board. The library calls a getter for registered objects
only. -/
def hashBus (board : Env Call Answer S) : Env ServiceCall ServiceAnswer (S × Clients)
  | s, ⟨.sys c, a⟩, s' => board s.1 ⟨c, a⟩ s'.1 ∧ s'.2 = s.2
  | s, ⟨.sdBusAddObjectVtable path _ _, true⟩, s' => s' = (s.1, s.2.register path)
  | s, ⟨.sdBusProcess, .read path _⟩, s' => path ∈ s.2.registered ∧ s' = s
  | s, ⟨.sdBusEmitPropertiesChanged path _ .digest value, _⟩, s' =>
      ∃ reached, s' = (s.1, s.2.signal path value reached)
  | s, _, s' => s' = s

/-- Nothing outside `g_retimerHash` is read, and a `Digest` in a reply is one that
`D` allows. -/
def Replies (D : S × Clients → String → List UInt8 → Prop) (s : S × Clients)
    (ev : ServiceEvent) : Prop :=
  match ev.1 with
  | .sdBusMessageAppend path .digest value => D s path value
  | .outOfBounds => False
  | _ => True

variable {board : Env Call Answer S} {D : S × Clients → String → List UInt8 → Prop}
  {s : S × Clients}

/-- Calls outside the bus leave the clients alone. -/
theorem wp_onService {α : Type} {p : Sys α} {Q : α → S × Clients → Prop}
    (h : ∀ tr a t, Run p tr a → Follows board s.1 tr t → Q a (t, s.2)) :
    wp (hashBus board) (Replies D) (interp Call.onService p) Q s := by
  induction p generalizing s with
  | ret a => exact h [] a s.1 .nil rfl
  | ask c k ih =>
      rw [interp_ask, wp_bind, Call.onService, wp_perform]
      rintro a ⟨t, clients⟩ ⟨hboard, hclients⟩
      refine ⟨trivial, ih a fun tr a' t' hrun hfollows => ?_⟩
      rw [hclients]
      exact h (⟨c, a⟩ :: tr) a' t' (.cons hrun) ⟨t, hboard, hfollows⟩

/-! ## The loop of the bus -/

section Loop

variable {b : Build} {fuel : Nat} {behind : UInt8} {I : Digests → S × Clients → Prop}

/-- The objects of `c` are retimers. -/
def OwnObjects (c : Clients) : Prop :=
  ∀ path ∈ c.registered, ∃ r < maxRetimers, path = retimerPath r

theorem wp_replyProperties {digests : Digests} {path : String} {properties : List HashProperty}
    (hpath : ∃ r < maxRetimers, path = retimerPath r ∧ D s path (digests.property r)) :
    wp (hashBus board) (Replies D) (replyProperties digests path properties)
      (fun _ s' => s' = s) s := by
  induction properties with
  | nil => rfl
  | cons property rest ih =>
      have happend : ∀ value, Replies D s ⟨.sdBusMessageAppend path property value, true⟩ →
          wp (hashBus board) (Replies D) (do
            let appended ← perform (ServiceCall.sdBusMessageAppend path property value)
            if appended = false then
              return ()
            replyProperties digests path rest) (fun _ s' => s' = s) s := by
        intro value hreplies
        rw [wp_bind, wp_perform]
        intro appended s' hs'
        obtain rfl : s' = s := by cases appended <;> exact hs'
        refine ⟨hreplies, ?_⟩
        cases appended with
        | false => rfl
        | true => exact ih
      obtain ⟨r, hr, rfl, hD⟩ := hpath
      cases property with
      | digest =>
          rw [replyProperties, HashProperty.get, propertyGetHashDigest_retimerPath hr, ret_bind]
          exact happend _ hD
      | algorithm => exact happend _ trivial

theorem wp_busLoop {count : Nat} {digests : Digests}
    (hown : ∀ digests s, I digests s → OwnObjects s.2)
    (hreply : ∀ digests s, I digests s → ∀ r < maxRetimers,
      D s (retimerPath r) (digests.property r))
    (hmethod : ∀ digests s, I digests s →
      wp (hashBus board) (Replies D) (methodComputeHashOnBus b fuel behind digests)
        (fun res s' => ∀ ret digests', res = some (ret, digests') → I digests' s') s)
    (hs : I digests s) :
    wp (hashBus board) (Replies D) (busLoop b fuel behind count digests) (fun _ _ => True) s := by
  induction count generalizing digests s with
  | zero => trivial
  | succ count ih =>
      rw [busLoop, wp_bind, wp_perform]
      rintro (_ | _ | _ | _ | ⟨path, properties⟩) s' hs'
      · exact ⟨trivial, fun _ _ _ => ⟨trivial, trivial⟩⟩
      · obtain rfl : s' = s := hs'
        refine ⟨trivial, ?_⟩
        rw [wp_bind, wp_perform]
        intro waited s'' hs''
        obtain rfl : s'' = s' := by cases waited <;> exact hs''
        refine ⟨trivial, ?_⟩
        cases waited with
        | false => exact fun _ _ _ => ⟨trivial, trivial⟩
        | true => exact ih hs
      · obtain rfl : s' = s := hs'
        exact ⟨trivial, ih hs⟩
      · obtain rfl : s' = s := hs'
        refine ⟨trivial, wp_bind.mpr (wp_mono (hmethod _ _ hs) (fun _ _ h => h) ?_)⟩
        rintro (_ | ⟨ret, digests'⟩) s'' hs''
        · trivial
        · exact ih (hs'' ret digests' rfl)
      · obtain ⟨hmem, rfl⟩ := hs'
        obtain ⟨r, hr, rfl⟩ := hown _ _ hs path hmem
        refine ⟨trivial, wp_bind.mpr (wp_mono (wp_replyProperties
          ⟨r, hr, rfl, hreply _ _ hs r hr⟩) (fun _ _ h => h) ?_)⟩
        rintro _ s'' rfl
        exact ih hs

end Loop

end Environment

/-! ## Replies and signals -/

theorem retimerPath_inj : ∀ r < maxRetimers, ∀ r' < maxRetimers,
    retimerPath r = retimerPath r' → r = r' := by
  decide

/-- The clients have the present digests, where they missed no signal. All
objects that they know of are retimers of the service. -/
structure Coherent (digests : Digests) (c : Clients) : Prop where
  own : OwnObjects c
  shown : ∀ r < maxRetimers, retimerPath r ∉ c.missed →
    c.announced (retimerPath r) = digests.property r

/-- The value is the one that was announced last. -/
def AsAnnounced {S : Type} (s : S × Clients) (path : String) (value : List UInt8) : Prop :=
  path ∉ s.2.missed → s.2.announced path = value

section Coherent

variable {S : Type} {board : Env Call Answer S} {s : S × Clients} {b : Build} {fuel r : Nat}
  {behind : UInt8} {digests digests' : Digests} {c : Clients}

theorem OwnObjects.signal (h : OwnObjects c) {path : String} {value : List UInt8}
    {reached : Bool} : OwnObjects (c.signal path value reached) := by
  cases reached <;> exact h

theorem Coherent.signal (h : Coherent digests c) (hr : r < maxRetimers)
    (hothers : ∀ r' ≠ r, digests'.property r' = digests.property r') (reached : Bool) :
    Coherent digests' (c.signal (retimerPath r) (digests'.property r) reached) := by
  refine ⟨h.own.signal, fun r' hr' hmissed => ?_⟩
  by_cases heq : r' = r
  · subst heq
    cases reached with
    | false => exact absurd List.mem_cons_self hmissed
    | true => exact Function.update_self ..
  · have hne : retimerPath r' ≠ retimerPath r := fun hpath =>
      heq (retimerPath_inj r' hr' r hr hpath)
    have hkept : retimerPath r' ∉ c.missed → c.announced (retimerPath r') = digests'.property r' :=
      fun hold => (h.shown r' hr' hold).trans (hothers r' heq).symm
    cases reached with
    | false => exact hkept fun hmem => hmissed (List.mem_cons_of_mem _ hmem)
    | true =>
        refine (Function.update_of_ne hne ..).trans (hkept fun hmem => hmissed ?_)
        exact List.mem_filter.mpr ⟨hmem, decide_eq_true hne⟩

/-- A request changes the digest of its own retimer only. -/
theorem others_readFWImagenComputeHash {tr : List SysEvent} {ret : Int32}
    (h : Run (readFWImagenComputeHash b fuel behind r digests) tr (some (ret, digests')))
    {r' : Nat} (hne : r' ≠ r) : digests'.property r' = digests.property r' := by
  cases hashRun_of_run h with
  | noDevice hfd => rfl
  | noDirectory hfd hdir => rfl
  | noFile hfd hdir hdummyfd hrest => rfl
  | opened hfd hdir hdummyfd hhash =>
      cases (stored_hashFirmware hhash).1 with
      | kept hunhashed => rfl
      | hashed hfinal => exact property_store_ne hne

theorem coherent_methodComputeHash (h : Coherent digests s.2) :
    wp (hashBus board) (Replies AsAnnounced) (methodComputeHashOnBus b fuel behind digests)
      (fun res s' => ∀ ret digests', res = some (ret, digests') → Coherent digests' s'.2) s := by
  rw [methodComputeHashOnBus, wp_bind, Call.onService, wp_perform]
  rintro retimerId ⟨t, c⟩ ⟨-, hc⟩
  obtain rfl : c = s.2 := hc
  refine ⟨trivial, ?_⟩
  cases retimerId with
  | none =>
      rintro ret digests' ⟨⟩
      exact h
  | some retimerId =>
      dsimp only
      split
      · rw [wp_bind, Call.onService, wp_perform]
        rintro replied ⟨t', c⟩ ⟨-, hc⟩
        obtain rfl : c = s.2 := hc
        refine ⟨trivial, ?_⟩
        rintro ret digests' ⟨⟩
        exact h
      · next hvalid =>
          have hr : retimerId.toNat < maxRetimers := Nat.not_le.mp hvalid
          rw [wp_bind, Call.onService, wp_perform]
          rintro replied ⟨t', c⟩ ⟨-, hc⟩
          obtain rfl : c = s.2 := hc
          refine ⟨trivial, ?_⟩
          split
          · rintro ret digests' ⟨⟩
            exact h
          · refine wp_bind.mpr (wp_onService fun tr res t'' hrun _ => ?_)
            rcases res with _ | ⟨ret, digests'⟩
            · intro ret digests' hres
              cases hres
            · dsimp only
              rw [wp_bind, emitDigestChanged_retimerPath hr, wp_perform]
              rintro _ s' ⟨reached, rfl⟩
              refine ⟨trivial, ?_⟩
              rintro ret' digests'' ⟨⟩
              refine h.signal hr (fun r' hne => ?_) reached
              rw [others_readFWImagenComputeHash hrun hne, property_store_ne hne]

end Coherent

/-! ## The service -/

section Service

variable {S : Type} {board : Env Call Answer S} {s : S × Clients} {b : Build} {fuel : Nat}
  {behind : UInt8} {c : Clients} {D : S × Clients → String → List UInt8 → Prop}

theorem wp_registerObjects {is : List Nat} {I : Clients → Prop} (hI : I s.2)
    (hregister : ∀ c, I c → ∀ i ∈ is, I (c.register (retimerPath i))) :
    wp (hashBus board) (Replies D) (registerObjects is) (fun _ s' => s'.1 = s.1 ∧ I s'.2) s := by
  induction is generalizing s with
  | nil => exact ⟨rfl, hI⟩
  | cons i is ih =>
      rw [registerObjects, wp_bind, wp_perform]
      rintro (_ | _) s' hs'
      · obtain rfl : s' = s := hs'
        exact ⟨trivial, rfl, hI⟩
      · obtain rfl : s' = (s.1, s.2.register (retimerPath i)) := hs'
        have hrest := ih (s := (s.1, s.2.register (retimerPath i)))
          (hregister _ hI i List.mem_cons_self)
          fun c hc j hj => hregister c hc j (List.mem_cons_of_mem _ hj)
        exact ⟨trivial, hrest⟩

/-- What the loop keeps up from the start on, the service keeps up. The name of
the service and the registered objects are dealt with here, once for all
invariants of the loop. -/
theorem wp_serviceMain {name : String} {count : Nat} {I : Clients → Prop} (hI : I s.2)
    (hregister : ∀ c, I c → ∀ r < maxRetimers, I (c.register (retimerPath r)))
    (hloop : ∀ s', s'.1 = s.1 → I s'.2 → wp (hashBus board) (Replies D)
      (busLoop b fuel behind count initialDigests) (fun _ _ => True) s') :
    wp (hashBus board) (Replies D) (serviceMain b name fuel behind count) (fun _ _ => True) s := by
  have hunref : ∀ s' : S × Clients, wp (hashBus board) (Replies D)
      (do perform ServiceCall.sdBusUnref; return some exitFailure : Service (Option Int32))
      (fun _ _ => True) s' :=
    fun s' _ _ _ => ⟨trivial, trivial⟩
  rw [serviceMain, wp_bind, wp_perform]
  intro opened s' hs'
  obtain rfl : s' = s := by cases opened <;> exact hs'
  refine ⟨trivial, ?_⟩
  split
  · trivial
  · rw [wp_bind, wp_perform]
    intro named s'' hs''
    obtain rfl : s'' = s' := by cases named <;> exact hs''
    refine ⟨trivial, ?_⟩
    split
    · exact hunref s''
    · rw [wp_bind, wp_perform]
      intro managed s' hs'
      obtain rfl : s' = s'' := by cases managed <;> exact hs'
      refine ⟨trivial, ?_⟩
      split
      · exact hunref s'
      · refine wp_bind.mpr (wp_mono (wp_registerObjects hI fun c hc i hi => ?_)
          (fun _ _ h => h) fun registered s'' hs'' => ?_)
        · exact hregister c hc i (List.mem_range.mp hi)
        · split
          · exact hunref s''
          · exact hloop s'' hs''.1 hs''.2

theorem OwnObjects.register (h : OwnObjects c) {r : Nat} (hr : r < maxRetimers) :
    OwnObjects (c.register (retimerPath r)) :=
  List.forall_mem_cons.mpr ⟨⟨r, hr, rfl⟩, h⟩

theorem coherent_serviceMain {name : String} {count : Nat} {t : S} :
    wp (hashBus board) (Replies AsAnnounced) (serviceMain b name fuel behind count)
      (fun _ _ => True) (t, newClients) := by
  have hnew : Coherent initialDigests newClients :=
    ⟨fun path hpath => absurd hpath List.not_mem_nil, fun _ _ _ => rfl⟩
  refine wp_serviceMain hnew (fun c hc r hr => ⟨hc.own.register hr, hc.shown⟩) fun s' _ hs' => ?_
  exact wp_busLoop (I := fun digests s => Coherent digests s.2) (fun _ _ h => h.own)
    (fun _ _ h r hr hmissed => h.shown r hr hmissed) (fun _ _ h => coherent_methodComputeHash h) hs'

end Service

/-- **Replies agree with signals.** In every run of the service, whatever the
board does, the getter of `Digest` reads an entry of the array, and its value is
the one that was announced last for the object, or empty, unless that signal was
missed. The run need not have come to its end, and signals of different objects
may be lost independently. -/
theorem serviceMain_asAnnounced {S : Type} (board : Env Call Answer S) (b : Build) (name : String)
    (fuel : Nat) (behind : UInt8) (count : Nat) (t : S) (pre : List ServiceEvent)
    (ev : ServiceEvent) (q : Service (Option Int32)) (m s' : S × Clients)
    (h : Trace (serviceMain b name fuel behind count) (pre ++ [ev]) q)
    (hpre : Follows (hashBus board) (t, newClients) pre m) (hev : hashBus board m ev s') :
    Replies AsAnnounced m ev :=
  wp_event coherent_serviceMain h hpre hev

/-! ## A working service -/

def askedBy : SysEvent → List Nat
  | ⟨.sdBusMessageRead, some retimerId⟩ => [retimerId.toNat]
  | _ => []

def askedSoFar : Env Call Answer (List Nat) :=
  fun asked ev asked' => asked' = asked ++ askedBy ev

/-- A machine on which nothing fails, with the requests it got. -/
abbrev workingBoard (b : Build) (sha384 : List UInt8 → Vector UInt8 48) :
    Env Call Answer ((Nat × ReadEngine × TempFile × List UInt8) × List Nat) :=
  ((Working.step b).prod (serviceEnv b sha384)).prod askedSoFar

section WorkingBoard

variable {b : Build} {sha384 : List UInt8 → Vector UInt8 48} {fuel : Nat} {behind : UInt8}
  {digests : Digests} {s : ((Nat × ReadEngine × TempFile × List UInt8) × List Nat) × Clients}

/-- The hash of firmware that was delivered for the retimer, if it was asked for. -/
def AsDelivered (b : Build) (sha384 : List UInt8 → Vector UInt8 48)
    (s : ((Nat × ReadEngine × TempFile × List UInt8) × List Nat) × Clients) (path : String)
    (value : List UInt8) : Prop :=
  ∃ r < maxRetimers, path = retimerPath r
    ∧ (r ∈ s.1.2 ∧ b.maxFwImageSize % bytePerPage = 0 →
      ∃ fw, (r, fw) ∈ s.1.1.2.1.delivered ∧ value = hexText (sha384 fw))
    ∧ (¬(r ∈ s.1.2 ∧ b.maxFwImageSize % bytePerPage = 0) → value = [])

theorem mem_askedBy {ev : SysEvent} {r : Nat} : r ∈ askedBy ev ↔ Asked [ev] r := by
  obtain ⟨c, a⟩ := ev
  constructor
  · intro h
    unfold askedBy at h
    split at h
    · next retimerId heq =>
        rw [List.mem_singleton.mp h]
        exact ⟨retimerId, List.mem_singleton.mpr heq.symm, rfl⟩
    · cases h
  · rintro ⟨retimerId, hmem, rfl⟩
    rw [← List.mem_singleton.mp hmem]
    exact List.mem_singleton_self _

theorem asked_of_follows {asked asked' : List Nat} {tr : List SysEvent} {r : Nat}
    (h : Follows askedSoFar asked tr asked') : r ∈ asked' ↔ r ∈ asked ∨ Asked tr r := by
  induction tr generalizing asked with
  | nil =>
      obtain rfl := follows_nil.mp h
      exact (or_iff_left (not_asked fun _ hev => absurd hev List.not_mem_nil)).symm
  | cons ev tr ih =>
      obtain ⟨m, rfl, hrest⟩ := h
      rw [ih hrest, List.mem_append, mem_askedBy, or_assoc, ← asked_append]
      rfl

/-- What `method_computeHash` asks of the bus. -/
def IsMethodCall : ServiceCall → Prop
  | .sys _ => True
  | .sdBusEmitPropertiesChanged path _ _ _ => ∃ r < maxRetimers, path = retimerPath r
  | _ => False

theorem only_methodComputeHashOnBus :
    Only IsMethodCall (methodComputeHashOnBus b fuel behind digests) := by
  have hsys : ∀ {α : Type} {p : Sys α}, Only IsMethodCall (interp Call.onService p) :=
    only_interp fun c => only_perform.mpr trivial
  rw [methodComputeHashOnBus]
  refine Only.bind (only_perform.mpr trivial) fun retimerId => ?_
  cases retimerId with
  | none => trivial
  | some retimerId =>
      dsimp only
      split
      · exact Only.bind (only_perform.mpr trivial) fun _ => trivial
      · next hvalid =>
          refine Only.bind (only_perform.mpr trivial) fun replied => ?_
          split
          · trivial
          · refine hsys.bind fun res => ?_
            rcases res with _ | ⟨ret, digests'⟩
            · trivial
            · dsimp only
              rw [emitDigestChanged_retimerPath (Nat.not_le.mp hvalid)]
              exact Only.bind (only_perform.mpr ⟨_, Nat.not_le.mp hvalid, rfl⟩) fun _ => trivial

/-- On the board, a call of the method is what is left of it without the bus. -/
theorem hashBus_onSys {s s' : ((Nat × ReadEngine × TempFile × List UInt8) × List Nat) × Clients}
    {e : ServiceCall} {a : ServiceAnswer e} (he : IsMethodCall e)
    (h : hashBus (workingBoard b sha384) s ⟨e, a⟩ s') :
    ∃ seg, Run e.onSys seg a ∧ Follows (workingBoard b sha384) s.1 seg s'.1 := by
  cases e with
  | sys c => exact ⟨[⟨c, a⟩], run_perform.mpr rfl, _, h.1, rfl⟩
  | sdBusEmitPropertiesChanged path interface property value =>
      obtain ⟨r, hr, rfl⟩ := he
      have hboard : s'.1 = s.1 := by
        cases property with
        | digest =>
            obtain ⟨reached, rfl⟩ := h
            rfl
        | algorithm =>
            obtain rfl : s' = s := h
            rfl
      refine ⟨[⟨.sdBusEmitPropertiesChanged r, ()⟩], ?_, s.1, ?_, hboard⟩
      · rw [ServiceCall.onSys, scan_retimerPath r hr]
        dsimp only
        rw [toNat_ofNat_retimer hr]
        exact run_perform.mpr rfl
      · exact ⟨⟨⟨trivial, rfl⟩, ReadEngine.step_other id, rfl, rfl⟩, (List.append_nil _).symm⟩
  | _ => exact he.elim

theorem ownObjects_methodCall {S : Type} {board : Env Call Answer S} {s s' : S × Clients}
    {e : ServiceCall} {a : ServiceAnswer e} (he : IsMethodCall e) (hs : OwnObjects s.2)
    (h : hashBus board s ⟨e, a⟩ s') : OwnObjects s'.2 := by
  cases e with
  | sys c =>
      rw [h.2]
      exact hs
  | sdBusEmitPropertiesChanged path interface property value =>
      cases property with
      | digest =>
          obtain ⟨reached, rfl⟩ := h
          exact hs.signal
      | algorithm =>
          obtain rfl : s' = s := h
          exact hs
  | _ => exact he.elim

/-- The invariant of a working service: no read is under way, and the digests
are what they should be after the requests so far (`Current`). -/
def ServesCurrent (b : Build) (sha384 : List UInt8 → Vector UInt8 48) (digests : Digests)
    (s : ((Nat × ReadEngine × TempFile × List UInt8) × List Nat) × Clients) : Prop :=
  OwnObjects s.2 ∧ s.1.1.2.1.reading = none
    ∧ Current b sha384 (· ∈ s.1.2) s.1.1.2.1.delivered digests

theorem serves_methodComputeHash (hfuel : b.maxFwImageSize < fuel)
    (h : ServesCurrent b sha384 digests s) :
    wp (hashBus (workingBoard b sha384)) (Replies (AsDelivered b sha384))
      (methodComputeHashOnBus b fuel behind digests)
      (fun res s' => ∀ ret digests', res = some (ret, digests') →
        ServesCurrent b sha384 digests' s') s := by
  have hboard : Ensures (workingBoard b sha384) (methodComputeHash b fuel behind digests)
      (fun res t => ∀ ret digests', res = some (ret, digests') →
        t.1.2.1.reading = none ∧ Current b sha384 (· ∈ t.2) t.1.2.1.delivered digests') s.1 := by
    refine ensures_of_runs fun tr res t hrun hfollows => ?_
    obtain ⟨hidle, ret, digests', rfl, hcurrent⟩ :=
      working_methodComputeHash hfuel hrun hfollows.left h.2.1 h.2.2
    rintro ret' digests'' ⟨⟩
    exact ⟨hidle, hcurrent.congr fun r _ => asked_of_follows hfollows.right⟩
  rw [← interp_methodComputeHashOnBus] at hboard
  have hlifted := Ensures.of_interp only_methodComputeHashOnBus
    (fun s e a s' he henv => hashBus_onSys he henv) hboard
  have hown : Ensures (hashBus (workingBoard b sha384))
      (methodComputeHashOnBus b fuel behind digests) (fun _ s' => OwnObjects s'.2) s :=
    wp_of_only only_methodComputeHashOnBus
      (fun s e a s' he hs henv => ⟨trivial, ownObjects_methodCall he hs henv⟩) h.1
  refine wp_mono ((hlifted.and hown).of_only only_methodComputeHashOnBus) (fun s ev he => ?_) ?_
  · obtain ⟨e, a⟩ := ev
    cases e with
    | sdBusMessageAppend path property value => exact he.elim
    | outOfBounds => exact he.elim
    | _ => trivial
  · exact fun res s' hs' ret digests' hres => ⟨hs'.2, hs'.1 ret digests' hres⟩

theorem serves_serviceMain {name : String} {count : Nat}
    {t : Nat × ReadEngine × TempFile × List UInt8} (hfuel : b.maxFwImageSize < fuel)
    (hidle : t.2.1.reading = none) :
    wp (hashBus (workingBoard b sha384)) (Replies (AsDelivered b sha384))
      (serviceMain b name fuel behind count) (fun _ _ => True) ((t, []), newClients) := by
  refine wp_serviceMain (I := OwnObjects) (fun path hpath => absurd hpath List.not_mem_nil)
    (fun c hc r hr => hc.register hr) fun s' hboard hown => ?_
  refine wp_busLoop (I := ServesCurrent b sha384) (fun _ _ h => h.1)
    (fun digests s h r hr => ⟨r, hr, rfl, ?_⟩) (fun _ _ h => serves_methodComputeHash hfuel h)
    ⟨hown, ?_⟩
  · have hcurrent := h.2.2 r
    simpa only [hr, true_and] using hcurrent
  · rw [hboard]
    refine ⟨hidle, ?_⟩
    exact current_initial.congr fun r _ => iff_of_false List.not_mem_nil id

end WorkingBoard

section Small

/-- The small service and its clients, with the messages that are still to come. -/
structure SmallBus where
  service : ReadEngine × TempFile × List UInt8
  asked : List Nat
  clients : Clients
  messages : List Processed

/-- No poll finds the read under way. -/
def SmallBus.state (s : SmallBus) :
    ((Nat × ReadEngine × TempFile × List UInt8) × List Nat) × Clients :=
  (((0, s.service), s.asked), s.clients)

def busReply (s : SmallBus) : (c : ServiceCall) → Option (ServiceAnswer c × SmallBus)
  | .sys c =>
      match promptReply smallestBuild s.service c with
      | none => none
      | some (a, service) =>
          some (a, { s with service := service, asked := s.asked ++ askedBy ⟨c, a⟩ })
  | .sdBusAddObjectVtable path _ _ => some (true, { s with clients := s.clients.register path })
  | .sdBusProcess =>
      match s.messages with
      | .getHash :: rest => some (.getHash, { s with messages := rest })
      | .read path properties :: rest =>
          if path ∈ s.clients.registered then
            some (.read path properties, { s with messages := rest })
          else none
      | _ => none
  | .sdBusEmitPropertiesChanged path _ .digest value =>
      some ((), { s with clients := s.clients.signal path value true })
  | .sdBusOpenSystem | .sdBusRequestName _ | .sdBusAddObjectManager _ | .sdBusMessageAppend _ _ _ =>
      some (true, s)
  | _ => none

/-- A `GetHash` for retimer 0, between two clients that read its `Digest`. -/
def smallMessages : List Processed :=
  [.read (retimerPath 0) [.algorithm, .digest], .getHash, .read (retimerPath 0) [.digest]]

def smallBus₀ : SmallBus := ⟨smallService, [], newClients, smallMessages⟩

/-- Up to the reply that follows the `GetHash`. -/
def smallBusRun : List ServiceEvent × Service (Option Int32) × SmallBus :=
  play busReply 50 smallBus₀
    (serviceMain smallestBuild "com.Nvidia.RetimerHashCompute" 257 0 3)

def smallDigest : List UInt8 := hexText (smallSha384 smallFirmware)

theorem request_smallBusRun : smallBusRun.2.1.request
    = some (.sdBusMessageAppend (retimerPath 0) .digest smallDigest) := by
  decide +kernel

theorem hashBus_busReply {s s' : SmallBus} {c : ServiceCall} {a : ServiceAnswer c}
    (h : busReply s c = some (a, s')) :
    hashBus (workingBoard smallestBuild smallSha384) s.state ⟨c, a⟩ s'.state := by
  cases c with
  | sys c =>
      simp only [busReply] at h
      split at h
      · cases h
      · next a' service hreply =>
          cases h
          exact ⟨⟨promptReply_sound List.length_replicate.symm hreply, rfl⟩, rfl⟩
  | sdBusProcess =>
      simp only [busReply] at h
      split at h
      · cases h
        rfl
      · split at h
        · next hmem =>
            cases h
            exact ⟨hmem, rfl⟩
        · cases h
      · cases h
  | sdBusEmitPropertiesChanged path interface property value =>
      cases property with
      | digest =>
          cases h
          exact ⟨true, rfl⟩
      | algorithm => cases h
  | sdBusWait => cases h
  | sdBusUnref => cases h
  | outOfBounds => cases h
  | _ =>
      cases h
      rfl

theorem follows_busReply {α : Type} (n : Nat) (s : SmallBus) (p : Service α) :
    Follows (hashBus (workingBoard smallestBuild smallSha384)) s.state (play busReply n s p).1
      (play busReply n s p).2.2.state := by
  have hplay : Follows
      (fun s ev s' => hashBus (workingBoard smallestBuild smallSha384) s.state ev s'.state)
      s (play busReply n s p).1 (play busReply n s p).2.2 :=
    follows_play (fun _ _ _ _ => hashBus_busReply) n s p
  exact Follows.map (π := SmallBus.state) (fun _ _ _ hstep => hstep) hplay

theorem trace_smallBusRun : ∃ q,
    Trace (serviceMain smallestBuild "com.Nvidia.RetimerHashCompute" 257 0 3)
      (smallBusRun.1
        ++ [⟨.sdBusMessageAppend (retimerPath 0) .digest smallDigest, true⟩]) q :=
  (trace_play busReply 50 smallBus₀ _).next request_smallBusRun true

theorem hashBus_append {S : Type} {board : Env Call Answer S} {path : String}
    {property : HashProperty} {value : List UInt8} (s : S × Clients) :
    hashBus board s ⟨.sdBusMessageAppend path property value, true⟩ s := rfl

/-- Any demand on the reply at the end of the run. -/
theorem replies_smallBusRun
    {D : (((Nat × ReadEngine × TempFile × List UInt8) × List Nat) × Clients) → String →
      List UInt8 → Prop}
    (h : ∀ pre ev q m s', Trace (serviceMain smallestBuild "com.Nvidia.RetimerHashCompute" 257 0 3)
        (pre ++ [ev]) q →
      Follows (hashBus (workingBoard smallestBuild smallSha384)) smallBus₀.state pre m →
      hashBus (workingBoard smallestBuild smallSha384) m ev s' → Replies D m ev) :
    D smallBusRun.2.2.state (retimerPath 0) smallDigest := by
  obtain ⟨q, htrace⟩ := trace_smallBusRun
  exact h _ _ q _ _ htrace (follows_busReply 50 smallBus₀ _) (hashBus_append _)

theorem announced_of_reply {s : SmallBus} {path : String} {value : List UInt8}
    (h : AsAnnounced s.state path value) (hmissed : s.clients.missed = []) :
    s.clients.announced path = value := by
  refine h ?_
  show path ∉ s.clients.missed
  rw [hmissed]
  exact List.not_mem_nil

theorem serviceMain_asAnnounced_small :
    smallBusRun.2.2.clients.announced (retimerPath 0) = smallDigest := by
  have hmissed : smallBusRun.2.2.clients.missed = [] := by decide +kernel
  have hreply : AsAnnounced smallBusRun.2.2.state (retimerPath 0) smallDigest :=
    replies_smallBusRun fun pre ev q m s' => serviceMain_asAnnounced _ smallestBuild _ 257 0 3 _
      pre ev q m s'
  exact announced_of_reply hreply hmissed

end Small

end Retimer
