import MediaPipe.Jni.GraphConfig

/-!
# Packet handles

A Java `Packet` holds the address of a native `PacketWithContext`, which pairs a packet
with the `Graph` that wrapped it.  `WrapPacketIntoContext` allocates one and keys it in
the graph's `all_packets_`, which owns it; `GetPacketFromHandle` reads the object at an
address; `RemovePacket` reads the graph from the object and erases the object from that
graph's `all_packets_`.  Addresses come from `new`, which never returns the address of a
live object and may throw `std::bad_alloc`, which nothing here catches, so the process ends.
Reading or removing at an address where no object lives reads freed memory: what follows is
undefined, and a run of the model stops there.  Over every sequence of calls that goes on, an
address holds the packet of the last wrap that returned it unless a removal of it came since,
and every removal erases its key.  `CallbackToJava` wraps its packets, calls Java with their
handles and removes them.  Deleting a `Graph` destroys its `all_packets_`, and with it every
object it wrapped.
-/

namespace MediaPipe.Jni

/-- `internal::PacketWithContext`, by the address of its graph. -/
structure PacketWithContext where
  context : Nat
  packet : Packet
  deriving DecidableEq, Repr

/-- The live `PacketWithContext` objects by address, and the keys of the `all_packets_` of
the graph at each address. -/
@[ext] structure PacketRegistry where
  objects : Nat → Option PacketWithContext
  allPackets : Nat → Nat → Bool

def PacketRegistry.empty : PacketRegistry := ⟨fun _ => none, fun _ _ => false⟩

/-- `new`: an address at which no object lives, or `none` when it throws
`std::bad_alloc`. -/
structure Allocator where
  fresh : PacketRegistry → Option Nat
  fresh_free : ∀ registry handle, fresh registry = some handle → registry.objects handle = none

/-- An allocator for examples: the first free address below `limit`, `none` once all are
taken. -/
def firstFitAllocator (limit : Nat) : Allocator where
  fresh registry := (List.range limit).find? fun handle => (registry.objects handle).isNone
  fresh_free _ _ hfound := by simpa using List.find?_some hfound

/-- `WrapPacketIntoContext` on the graph at `graph`: the new object, keyed in that graph's
`all_packets_`; `none` when `new` throws. -/
def PacketRegistry.wrapPacketIntoContext (alloc : Allocator) (graph : Nat) (packet : Packet)
    (registry : PacketRegistry) : Option (Nat × PacketRegistry) :=
  (alloc.fresh registry).map fun handle =>
    (handle, ⟨Function.update registry.objects handle (some ⟨graph, packet⟩),
      Function.update registry.allPackets graph
        (Function.update (registry.allPackets graph) handle true)⟩)

/-- `GetPacketFromHandle`; `none` where no object lives. -/
def PacketRegistry.getPacketFromHandle (handle : Nat) (registry : PacketRegistry) :
    Option Packet :=
  (registry.objects handle).map PacketWithContext.packet

/-- `RemovePacket`: whether `erase` found the key in the `all_packets_` of the object's
graph; erasing the key destroys the object its `unique_ptr` owns.  `none` where no object
lives. -/
def PacketRegistry.removePacket (handle : Nat) (registry : PacketRegistry) :
    Option (Bool × PacketRegistry) :=
  match registry.objects handle with
  | none => none
  | some object =>
      let erased := registry.allPackets object.context handle
      some (erased, ⟨if erased then Function.update registry.objects handle none
          else registry.objects,
        Function.update registry.allPackets object.context
          (Function.update (registry.allPackets object.context) handle false)⟩)

/-- `delete` of the `Graph` at `graph` (`nativeReleaseGraph`): its `all_packets_` goes with
it, and with the map every object its `unique_ptr`s own. -/
def PacketRegistry.releaseGraph (graph : Nat) (registry : PacketRegistry) : PacketRegistry :=
  ⟨fun handle => if registry.allPackets graph handle then none else registry.objects handle,
    Function.update registry.allPackets graph fun _ => false⟩

inductive RegistryCall where
  | wrapPacketIntoContext (graph : Nat) (packet : Packet)
  | getPacketFromHandle (handle : Nat)
  | removePacket (handle : Nat)
  deriving DecidableEq, Repr

/-- What a call returns. -/
inductive RegistryResult where
  | handle (handle : Nat)
  | packet (packet : Packet)
  | removed (erased : Bool)
  deriving DecidableEq, Repr

/-- One call: its result and the registry after, or `none` where the process does not go
on: a read or removal at an address where no object lives reads freed memory, which is
undefined, and `new` throwing in `WrapPacketIntoContext` ends the process. -/
def PacketRegistry.step (alloc : Allocator) (registry : PacketRegistry) :
    RegistryCall → Option (RegistryResult × PacketRegistry)
  | .wrapPacketIntoContext graph packet =>
      (registry.wrapPacketIntoContext alloc graph packet).map fun wrapped =>
        (.handle wrapped.1, wrapped.2)
  | .getPacketFromHandle handle =>
      (registry.getPacketFromHandle handle).map fun packet => (.packet packet, registry)
  | .removePacket handle =>
      (registry.removePacket handle).map fun removed => (.removed removed.1, removed.2)

structure RegistrySession where
  registry : PacketRegistry
  transcript : List (RegistryCall × RegistryResult)

def RegistrySession.step (alloc : Allocator) (session : RegistrySession) (call : RegistryCall) :
    Option RegistrySession :=
  (session.registry.step alloc call).map fun next =>
    ⟨next.2, session.transcript ++ [(call, next.1)]⟩

/-- The calls one after another; `none` once one does not go on. -/
def RegistrySession.run (alloc : Allocator) :
    RegistrySession → List RegistryCall → Option RegistrySession
  | session, [] => some session
  | session, call :: calls => (session.step alloc call).bind fun next => next.run alloc calls

/-- What the calls so far say lives at `handle`, after one more call and its result: the
object of a wrap that returned `handle`, nothing after a removal of `handle`. -/
def liveStep (handle : Nat) (live : Option PacketWithContext) :
    RegistryCall × RegistryResult → Option PacketWithContext
  | (.wrapPacketIntoContext graph packet, .handle wrapped) =>
      if handle = wrapped then some ⟨graph, packet⟩ else live
  | (.removePacket removed, .removed _) => if handle = removed then none else live
  | _ => live

/-- What a transcript says lives at `handle`. -/
def liveObject (handle : Nat) (transcript : List (RegistryCall × RegistryResult)) :
    Option PacketWithContext :=
  transcript.foldl (liveStep handle) none

/-! ## One call -/

/-- `all_packets_` owns exactly the live objects: each live object is keyed in the map of its
graph, and each key of a graph's map is a live object of that graph. -/
structure PacketRegistry.Owned (registry : PacketRegistry) : Prop where
  keyed : ∀ handle object, registry.objects handle = some object →
    registry.allPackets object.context handle = true
  live : ∀ graph handle, registry.allPackets graph handle = true →
    ∃ packet, registry.objects handle = some ⟨graph, packet⟩

section Step

variable {alloc : Allocator} {registry : PacketRegistry}

theorem PacketRegistry.Owned.empty : PacketRegistry.empty.Owned :=
  ⟨fun _ _ h => by simp [PacketRegistry.empty] at h,
    fun _ _ h => by simp [PacketRegistry.empty] at h⟩

/-- Only the graph of the object at an address keys it. -/
theorem PacketRegistry.Owned.allPackets_eq (howned : registry.Owned) (graph handle : Nat) :
    registry.allPackets graph handle =
      (registry.objects handle).any fun object => graph == object.context := by
  cases hkey : registry.allPackets graph handle
  · cases hobject : registry.objects handle with
    | none => rfl
    | some object =>
        have hkeyed := howned.keyed handle object hobject
        by_cases hg : graph = object.context
        · rw [← hg, hkey] at hkeyed
          cases hkeyed
        · simp [hg]
  · obtain ⟨packet, hobject⟩ := howned.live graph handle hkey
    simp [hobject]

/-- A registry whose keys are those of its objects' graphs is owned. -/
theorem PacketRegistry.Owned.of_allPackets_eq
    (hkeys : ∀ graph handle, registry.allPackets graph handle =
      (registry.objects handle).any fun object => graph == object.context) :
    registry.Owned := by
  refine ⟨fun handle object hobject => by simp [hkeys, hobject], fun graph handle hkey => ?_⟩
  rw [hkeys] at hkey
  cases hobject : registry.objects handle with
  | none => simp [hobject] at hkey
  | some object =>
      simp only [hobject, Option.any_some, beq_iff_eq] at hkey
      exact ⟨object.packet, by rw [hkey]⟩

/-- Two owned registries with the same objects are the same. -/
theorem PacketRegistry.Owned.ext {other : PacketRegistry} (howned : registry.Owned)
    (hother : other.Owned) (hobjects : registry.objects = other.objects) : registry = other :=
  PacketRegistry.ext hobjects (funext fun graph => funext fun handle => by
    rw [howned.allPackets_eq, hother.allPackets_eq, hobjects])

/-- `WrapPacketIntoContext` keys a new object at the address `new` returns. -/
theorem PacketRegistry.step_wrapPacketIntoContext {handle : Nat}
    (hfresh : alloc.fresh registry = some handle) (graph : Nat) (packet : Packet) :
    registry.step alloc (.wrapPacketIntoContext graph packet) =
      some (.handle handle,
        ⟨Function.update registry.objects handle (some ⟨graph, packet⟩),
          Function.update registry.allPackets graph
            (Function.update (registry.allPackets graph) handle true)⟩) := by
  simp [PacketRegistry.step, PacketRegistry.wrapPacketIntoContext, hfresh]

/-- When `new` throws, the process ends. -/
theorem PacketRegistry.step_wrapPacketIntoContext_aborted
    (hfull : alloc.fresh registry = none) (graph : Nat) (packet : Packet) :
    registry.step alloc (.wrapPacketIntoContext graph packet) = none := by
  simp [PacketRegistry.step, PacketRegistry.wrapPacketIntoContext, hfull]

theorem PacketRegistry.step_getPacketFromHandle (handle : Nat) :
    registry.step alloc (.getPacketFromHandle handle) =
      (registry.objects handle).map fun object => (.packet object.packet, registry) := by
  cases hobject : registry.objects handle <;>
    simp [PacketRegistry.step, PacketRegistry.getPacketFromHandle, hobject]

/-- On an owned registry, `RemovePacket` of a live object frees it and erases its key. -/
theorem PacketRegistry.Owned.step_removePacket (howned : registry.Owned) (handle : Nat) :
    registry.step alloc (.removePacket handle) =
      (registry.objects handle).map fun _ => (.removed true,
        ⟨Function.update registry.objects handle none,
          fun g other => if other = handle then false else registry.allPackets g other⟩) := by
  cases hobject : registry.objects handle with
  | none => simp [PacketRegistry.step, PacketRegistry.removePacket, hobject]
  | some object =>
      simp only [PacketRegistry.step, PacketRegistry.removePacket, hobject,
        howned.keyed _ _ hobject, if_true, Option.map_some', Option.some.injEq, Prod.mk.injEq,
        true_and]
      refine PacketRegistry.ext rfl (funext fun g => funext fun other => ?_)
      by_cases hg : g = object.context <;> by_cases hother : other = handle <;>
        simp [Function.update_apply, howned.allPackets_eq, hobject, hother, hg]

/-- What a call that goes on does to an owned registry: a wrap keys a new object at a free
address, a read returns the packet of a live object and changes nothing, a removal frees a
live object and reports its key erased. -/
theorem PacketRegistry.Owned.step_cases (howned : registry.Owned) {call : RegistryCall}
    {result : RegistryResult} {next : PacketRegistry}
    (hstep : registry.step alloc call = some (result, next)) :
    (∃ graph packet handle, call = .wrapPacketIntoContext graph packet ∧
        result = .handle handle ∧ registry.objects handle = none ∧
        next.objects = Function.update registry.objects handle (some ⟨graph, packet⟩)) ∨
      (∃ handle object, call = .getPacketFromHandle handle ∧
        registry.objects handle = some object ∧ result = .packet object.packet ∧
        next = registry) ∨
      (∃ handle object, call = .removePacket handle ∧ registry.objects handle = some object ∧
        result = .removed true ∧ next.objects = Function.update registry.objects handle none) := by
  cases call with
  | wrapPacketIntoContext graph packet =>
      cases hfresh : alloc.fresh registry with
      | none => simp [PacketRegistry.step_wrapPacketIntoContext_aborted hfresh] at hstep
      | some handle =>
          rw [PacketRegistry.step_wrapPacketIntoContext hfresh] at hstep
          cases hstep
          exact .inl ⟨graph, packet, handle, rfl, rfl, alloc.fresh_free _ _ hfresh, rfl⟩
  | getPacketFromHandle handle =>
      rw [PacketRegistry.step_getPacketFromHandle] at hstep
      obtain ⟨object, hobject, hnext⟩ := Option.map_eq_some'.mp hstep
      cases hnext
      exact .inr (.inl ⟨handle, object, rfl, hobject, rfl, rfl⟩)
  | removePacket handle =>
      rw [howned.step_removePacket] at hstep
      obtain ⟨object, hobject, hnext⟩ := Option.map_eq_some'.mp hstep
      cases hnext
      exact .inr (.inr ⟨handle, object, rfl, hobject, rfl, rfl⟩)

/-- Every call that goes on keeps `all_packets_` the owner of exactly the live objects. -/
theorem PacketRegistry.Owned.step (howned : registry.Owned) {call : RegistryCall}
    {result : RegistryResult} {next : PacketRegistry}
    (hstep : registry.step alloc call = some (result, next)) : next.Owned := by
  cases call with
  | wrapPacketIntoContext graph packet =>
      cases hfresh : alloc.fresh registry with
      | none => simp [PacketRegistry.step_wrapPacketIntoContext_aborted hfresh] at hstep
      | some fresh =>
          rw [PacketRegistry.step_wrapPacketIntoContext hfresh] at hstep
          cases hstep
          refine .of_allPackets_eq fun g handle => ?_
          by_cases hhandle : handle = fresh <;> by_cases hg : g = graph <;>
            simp [Function.update_apply, hhandle, hg, howned.allPackets_eq,
              alloc.fresh_free _ _ hfresh]
  | getPacketFromHandle handle =>
      rw [PacketRegistry.step_getPacketFromHandle] at hstep
      obtain ⟨_, -, hnext⟩ := Option.map_eq_some'.mp hstep
      cases hnext
      exact howned
  | removePacket handle =>
      rw [howned.step_removePacket] at hstep
      obtain ⟨_, -, hnext⟩ := Option.map_eq_some'.mp hstep
      cases hnext
      refine .of_allPackets_eq fun g other => ?_
      by_cases hother : other = handle <;>
        simp [Function.update_apply, hother, howned.allPackets_eq]

/-- On an owned registry, each call changes the object at an address as `liveStep` reads the
call and its result, and no removal fails to erase its key. -/
theorem PacketRegistry.Owned.step_objects (howned : registry.Owned) {call : RegistryCall}
    {result : RegistryResult} {next : PacketRegistry}
    (hstep : registry.step alloc call = some (result, next)) (handle : Nat) :
    next.objects handle = liveStep handle (registry.objects handle) (call, result) ∧
      result ≠ .removed false := by
  rcases howned.step_cases hstep with
    ⟨graph, packet, wrapped, rfl, rfl, -, hnext⟩ | ⟨read, object, rfl, -, rfl, rfl⟩ |
      ⟨removed, object, rfl, -, rfl, hnext⟩
  · simp [hnext, liveStep, Function.update_apply]
  · simp [liveStep]
  · simp [hnext, liveStep, Function.update_apply]

/-- Deleting a graph frees the objects it wrapped and keeps `all_packets_` the owner of the
others. -/
theorem PacketRegistry.Owned.releaseGraph (howned : registry.Owned) (graph : Nat) :
    (registry.releaseGraph graph).Owned := by
  refine ⟨fun handle object hobject => ?_, fun other handle hkey => ?_⟩
  · simp only [PacketRegistry.releaseGraph] at hobject ⊢
    split_ifs at hobject with hwrapped
    have hkeyed := howned.keyed handle object hobject
    have hne : object.context ≠ graph := fun hgraph => hwrapped (hgraph ▸ hkeyed)
    rw [Function.update_noteq hne]
    exact hkeyed
  · simp only [PacketRegistry.releaseGraph] at hkey ⊢
    by_cases hother : other = graph
    · subst hother
      simp at hkey
    · rw [Function.update_noteq hother] at hkey
      obtain ⟨packet, hobject⟩ := howned.live other handle hkey
      refine ⟨packet, ?_⟩
      rw [howned.allPackets_eq, hobject]
      simp [Ne.symm hother]

end Step

/-! ## Every run -/

section Run

variable {alloc : Allocator} {session next final : RegistrySession}

theorem liveObject_append (handle : Nat) (transcript : List (RegistryCall × RegistryResult))
    (entry : RegistryCall × RegistryResult) :
    liveObject handle (transcript ++ [entry]) =
      liveStep handle (liveObject handle transcript) entry :=
  List.foldl_concat _ _ _ _

/-- The registry holds what the calls so far say and owns it, and no removal has read a live
object without erasing it. -/
structure RegistrySession.Consistent (session : RegistrySession) : Prop where
  owned : session.registry.Owned
  objects_eq : ∀ handle, session.registry.objects handle = liveObject handle session.transcript
  erases : ∀ entry ∈ session.transcript, entry.2 ≠ .removed false

theorem RegistrySession.Consistent.step (hcons : session.Consistent) {call : RegistryCall}
    (hstep : session.step alloc call = some next) : next.Consistent := by
  obtain ⟨⟨result, registry⟩, hregistry, rfl⟩ := Option.map_eq_some'.mp hstep
  refine ⟨hcons.owned.step hregistry, fun handle => ?_, fun entry hentry => ?_⟩
  · rw [liveObject_append, ← hcons.objects_eq]
    exact (hcons.owned.step_objects hregistry handle).1
  · rcases List.mem_append.mp hentry with hentry | hentry
    · exact hcons.erases entry hentry
    · rw [List.mem_singleton.mp hentry]
      exact (hcons.owned.step_objects hregistry 0).2

theorem RegistrySession.Consistent.run (hcons : session.Consistent) {calls : List RegistryCall}
    (hrun : session.run alloc calls = some final) : final.Consistent := by
  induction calls generalizing session with
  | nil =>
      cases hrun
      exact hcons
  | cons call calls ih =>
      obtain ⟨next, hnext, hrest⟩ := Option.bind_eq_some.mp hrun
      exact ih (hcons.step hnext) hrest

/-- After every sequence of calls on a new registry that reads and removes only live objects,
`all_packets_` owns exactly the live objects, each address holds the object of the last wrap
that returned it unless a removal of it came since, and every removal erased its key. -/
theorem RegistrySession.run_consistent {calls : List RegistryCall}
    (hrun : RegistrySession.run alloc ⟨PacketRegistry.empty, []⟩ calls = some final) :
    final.Consistent :=
  RegistrySession.Consistent.run ⟨.empty, fun _ => rfl, by simp⟩ hrun

/-- Two packets wrapped, the first read and removed, a third wrapped at the freed address. -/
theorem RegistrySession.run_consistent_of_reuse :
    let calls : List RegistryCall := [.wrapPacketIntoContext 1 (makePacket (.java 1)),
      .wrapPacketIntoContext 2 (makePacket (.java 2)), .getPacketFromHandle 0, .removePacket 0,
      .wrapPacketIntoContext 2 (makePacket (.java 3))]
    ∃ final, RegistrySession.run (firstFitAllocator 4) ⟨PacketRegistry.empty, []⟩ calls =
      some final ∧ final.Consistent := by
  intro calls
  exact ⟨_, rfl, @RegistrySession.run_consistent (firstFitAllocator 4) _ calls rfl⟩

end Run

/-! ## Callbacks to Java -/

/-- `WrapPacketIntoContext` on each packet in turn: the handles and the session after, or
`none` once `new` throws. -/
def wrapPackets (alloc : Allocator) (graph : Nat) :
    List Packet → RegistrySession → Option (List Nat × RegistrySession)
  | [], session => some ([], session)
  | packet :: packets, session =>
      (alloc.fresh session.registry).bind fun handle =>
        (session.step alloc (.wrapPacketIntoContext graph packet)).bind fun next =>
          (wrapPackets alloc graph packets next).map fun rest => (handle :: rest.1, rest.2)

/-- `CallbackToJava` on the graph at `graph`: it wraps its packets, hands their handles to
the Java callback, whose registry calls are `javaCalls`, and removes the handles in the same
order once the callback returns; `none` when `new` throws or a call reads freed memory. -/
def callbackToJavaWith (alloc : Allocator) (graph : Nat) (packets : List Packet)
    (javaCalls : List Nat → List RegistryCall) (session : RegistrySession) :
    Option RegistrySession :=
  (wrapPackets alloc graph packets session).bind fun wrapped =>
    (wrapped.2.run alloc (javaCalls wrapped.1)).bind fun called =>
      called.run alloc (wrapped.1.map .removePacket)

/-- `CallbackToJava(env, java_callback_obj, packet)`. -/
def callbackToJava (alloc : Allocator) (graph : Nat) (packet : Packet)
    (javaCalls : List Nat → List RegistryCall) (session : RegistrySession) :
    Option RegistrySession :=
  callbackToJavaWith alloc graph [packet] javaCalls session

/-- `CallbackToJava(env, java_callback_obj, packet, header_packet)`. -/
def callbackToJavaWithHeader (alloc : Allocator) (graph : Nat) (packet headerPacket : Packet)
    (javaCalls : List Nat → List RegistryCall) (session : RegistrySession) :
    Option RegistrySession :=
  callbackToJavaWith alloc graph [packet, headerPacket] javaCalls session

end MediaPipe.Jni
