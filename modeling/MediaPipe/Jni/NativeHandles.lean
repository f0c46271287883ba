import MediaPipe.Jni.GraphJni
import MediaPipe.Jni.PacketRegistry

/-!
# Native methods by packet handle

Java holds a packet by its handle, and the native methods of `Graph` that take packets read
them with `GetPacketFromHandle`: the side packets and stream headers of
`nativeRunGraphUntilClose` and `nativeStartRunningGraph` once their arrays' lengths match, and
the packet of `nativeAddPacketToInputStream`, which adds a copy.  `nativeMovePacketToInputStream`
hands the handle itself to `SetTimestampAndMovePacketToInputStream`, which sets the timestamp
of the packet behind it in place and then passes that packet by rvalue to
`AddPacketToInputStream(name, Packet&&)`: without a running graph it throws
`FailedPrecondition`, otherwise the running graph moves from it, and what it leaves there
(`leftAfterMove`) is not in the modelled sources.  Reading a handle at which no object lives is
undefined, and the run stops there; so is reading one after the `Graph` that wrapped its packet
was deleted, since the packets a `Graph` wrapped go with its `all_packets_`.

A native call by handle is the native call on the packets of the objects at its handles when
it is made (`HandleCall.toNative`), so every run from Java is the run of those native calls
(`JniState.nativeCalls`), and what holds of those, such as the lifecycle of `running_graph_`,
holds of it; `all_packets_` keeps owning exactly the live objects.
-/

namespace MediaPipe.Jni

/-- `GetPacketFromHandle` on each handle in turn; `none` when one holds no live object. -/
def PacketRegistry.getPackets (registry : PacketRegistry) : List Nat → Option (List Packet)
  | [] => some []
  | handle :: handles =>
      (registry.getPacketFromHandle handle).bind fun packet =>
        (registry.getPackets handles).map fun packets => packet :: packets

/-- The packet of the object at `handle`.  What stands for a handle at which no object lives
does not matter: a native call by handle reads only live handles, and of an array it does not
read it checks only the length. -/
def PacketRegistry.packetAt (registry : PacketRegistry) (handle : Nat) : Packet :=
  ((registry.objects handle).map PacketWithContext.packet).getD (makePacket (.java handle))

/-- The object at `handle` holding `packet` in place of its own. -/
def PacketRegistry.setPacket (handle : Nat) (packet : Packet) (registry : PacketRegistry) :
    PacketRegistry :=
  { registry with
    objects := Function.update registry.objects handle
      ((registry.objects handle).map fun object => { object with packet := packet }) }

/-- What the native methods act on: the wrapper session of their `android::Graph` and the
packet handles. -/
structure JniState where
  session : Session
  registry : PacketRegistry

/-- A native method's result and the session it leaves, the handles unchanged. -/
def JniState.withSession (state : JniState) (next : JavaResult × Session) :
    JavaResult × JniState :=
  (next.1, { state with session := next.2 })

/-- The native methods of `Graph` that take packets, with the packets by handle. -/
inductive HandleCall where
  | runGraphUntilClose (streamNames : List String) (packets : List Nat)
  | startRunningGraph (sidePacketNames : List String) (sidePacketHandles : List Nat)
      (streamNamesWithHeader : List String) (headerHandles : List Nat)
  | addPacketToInputStream (streamName : String) (packet : Nat) (timestamp : Int)
  | movePacketToInputStream (streamName : String) (packet : Nat) (timestamp : Int)
  deriving DecidableEq, Repr

/-- One native call by handle: what Java sees and the state after, or `none` when it reads a
handle at which no object lives.  `AddSidePacketsIntoGraph` and `AddStreamHeadersIntoGraph`
check the lengths before they read a handle.  `leftAfterMove` is what the running graph
leaves in a packet it moves from. -/
def HandleCall.step (tools : GraphTools) (env : Environment) (leftAfterMove : Packet → Packet)
    (state : JniState) : HandleCall → Option (JavaResult × JniState)
  | .runGraphUntilClose names handles =>
      if names.length ≠ handles.length then
        some (throwIfError (invalidArgumentError streamsPacketsMismatchMessage), state)
      else (state.registry.getPackets handles).map fun packets =>
        state.withSession (nativeRunGraphUntilClose tools env names packets state.session)
  | .startRunningGraph names handles headerNames headerHandles =>
      if names.length ≠ handles.length then
        some (throwIfError (invalidArgumentError streamsPacketsMismatchMessage), state)
      else (state.registry.getPackets handles).bind fun packets =>
        if headerNames.length ≠ headerHandles.length then
          some (state.withSession
            (throwIfError (failedPreconditionError streamsPacketsMismatchMessage),
              state.session.run tools env (packetCalls .setInputSidePacket names packets)))
        else (state.registry.getPackets headerHandles).map fun headers =>
          state.withSession
            (nativeStartRunningGraph tools env names packets headerNames headers state.session)
  | .addPacketToInputStream stream handle timestamp =>
      (state.registry.getPacketFromHandle handle).map fun packet =>
        state.withSession
          (nativeAddPacketToInputStream tools env stream packet timestamp state.session)
  | .movePacketToInputStream stream handle timestamp =>
      (state.registry.getPacketFromHandle handle).map fun packet =>
        let next := nativeMovePacketToInputStream tools env stream packet timestamp state.session
        let stamped := packet.atTimestamp timestamp
        (next.1, ⟨next.2, state.registry.setPacket handle
          (if state.session.state.runningGraph.isSome then leftAfterMove stamped else stamped)⟩)

/-- The native call on packets that a native call by handle makes, given the objects at its
handles. -/
def HandleCall.toNative (registry : PacketRegistry) : HandleCall → NativeCall
  | .runGraphUntilClose names handles =>
      .runGraphUntilClose names (handles.map registry.packetAt)
  | .startRunningGraph names handles headerNames headerHandles =>
      .startRunningGraph names (handles.map registry.packetAt) headerNames
        (headerHandles.map registry.packetAt)
  | .addPacketToInputStream stream handle timestamp =>
      .addPacketToInputStream stream (registry.packetAt handle) timestamp
  | .movePacketToInputStream stream handle timestamp =>
      .movePacketToInputStream stream (registry.packetAt handle) timestamp

/-- Whether a native method takes packets. -/
def NativeCall.takesPackets : NativeCall → Bool
  | .runGraphUntilClose _ _ | .startRunningGraph _ _ _ _ | .addPacketToInputStream _ _ _
  | .movePacketToInputStream _ _ _ => true
  | _ => false

/-- A call from Java: a native method of `Graph` by handle, one that takes no packet, a call
on the packet handles (`WrapPacketIntoContext` and `RemovePacket` as packets are made and
released), or `nativeReleaseGraph` of another `Graph`, the one at `graph`, which frees the
packets it wrapped. -/
inductive JniCall where
  | byHandle (call : HandleCall)
  | native (call : NativeCall) (hpackets : call.takesPackets = false)
  | registry (call : RegistryCall)
  | releaseGraph (graph : Nat)

/-- One call from Java; `none` once it reads a handle at which no object lives, or `new`
throws. -/
def JniState.step (tools : GraphTools) (env : Environment) (leftAfterMove : Packet → Packet)
    (alloc : Allocator) (state : JniState) : JniCall → Option JniState
  | .byHandle call => (call.step tools env leftAfterMove state).map Prod.snd
  | .native call _ => some { state with session := (call.step tools env state.session).2 }
  | .registry call =>
      (state.registry.step alloc call).map fun next => { state with registry := next.2 }
  | .releaseGraph graph => some { state with registry := state.registry.releaseGraph graph }

/-- Calls from Java one after another. -/
def JniState.run (tools : GraphTools) (env : Environment) (leftAfterMove : Packet → Packet)
    (alloc : Allocator) : JniState → List JniCall → Option JniState
  | state, [] => some state
  | state, call :: calls =>
      (state.step tools env leftAfterMove alloc call).bind fun next =>
        next.run tools env leftAfterMove alloc calls

/-- The native calls on packets a call from Java makes on its `android::Graph`. -/
def JniCall.toNatives (registry : PacketRegistry) : JniCall → List NativeCall
  | .byHandle call => [call.toNative registry]
  | .native call _ => [call]
  | .registry _ | .releaseGraph _ => []

/-- The native calls on packets a run from Java makes: each call by handle on the packets of
the objects at its handles when it is made. -/
def JniState.nativeCalls (tools : GraphTools) (env : Environment)
    (leftAfterMove : Packet → Packet) (alloc : Allocator) :
    JniState → List JniCall → List NativeCall
  | _, [] => []
  | state, call :: calls =>
      call.toNatives state.registry ++
        ((state.step tools env leftAfterMove alloc call).map fun next =>
          next.nativeCalls tools env leftAfterMove alloc calls).getD []

/-! ## Reading handles -/

section Read

variable {registry : PacketRegistry}

theorem PacketRegistry.packetAt_of_getPacketFromHandle {handle : Nat} {packet : Packet}
    (hpacket : registry.getPacketFromHandle handle = some packet) :
    registry.packetAt handle = packet := by
  show (registry.getPacketFromHandle handle).getD _ = packet
  rw [hpacket]
  rfl

/-- The packets read at live handles are the packets of the objects there. -/
theorem PacketRegistry.getPackets_eq_map {handles : List Nat} {packets : List Packet}
    (hpackets : registry.getPackets handles = some packets) :
    packets = handles.map registry.packetAt := by
  induction handles generalizing packets with
  | nil =>
      cases hpackets
      rfl
  | cons handle handles ih =>
      simp only [PacketRegistry.getPackets, Option.bind_eq_some, Option.map_eq_some'] at hpackets
      obtain ⟨packet, hpacket, rest, hrest, rfl⟩ := hpackets
      rw [List.map_cons, ih hrest, PacketRegistry.packetAt_of_getPacketFromHandle hpacket]

theorem PacketRegistry.setPacket_contexts (handle : Nat) (packet : Packet) (other : Nat) :
    ((registry.setPacket handle packet).objects other).map PacketWithContext.context =
      (registry.objects other).map PacketWithContext.context := by
  by_cases hother : other = handle
  · subst hother
    simp only [PacketRegistry.setPacket, Function.update_same]
    cases registry.objects other <;> rfl
  · simp [PacketRegistry.setPacket, hother]

end Read

/-! ## A native call by handle is a native call on packets -/

section Refine

variable {tools : GraphTools} {env : Environment} {leftAfterMove : Packet → Packet}
  {state : JniState}

/-- A native call by handle that reads only live handles is the native call on the packets
of the objects at its handles; it frees and allocates nothing, and changes no object's
graph. -/
theorem HandleCall.step_refines {call : HandleCall} {result : JavaResult} {next : JniState}
    (hstep : call.step tools env leftAfterMove state = some (result, next)) :
    next.registry.allPackets = state.registry.allPackets ∧
      (∀ handle, (next.registry.objects handle).map PacketWithContext.context =
        (state.registry.objects handle).map PacketWithContext.context) ∧
      (call.toNative state.registry).step tools env state.session = (result, next.session) := by
  cases call with
  | runGraphUntilClose names handles =>
      simp only [HandleCall.step] at hstep
      split_ifs at hstep with hlength
      · -- the handles are not read where the lengths differ
        cases hstep
        exact ⟨rfl, fun _ => rfl, nativeRunGraphUntilClose_mismatch (by simpa using hlength) _⟩
      · obtain ⟨packets, hpackets, hnext⟩ := Option.map_eq_some'.mp hstep
        obtain rfl := PacketRegistry.getPackets_eq_map hpackets
        cases hnext
        exact ⟨rfl, fun _ => rfl, rfl⟩
  | startRunningGraph names handles headerNames headerHandles =>
      simp only [HandleCall.step] at hstep
      split_ifs at hstep with hlength hheaders
      · cases hstep
        refine ⟨rfl, fun _ => rfl, ?_⟩
        simp [HandleCall.toNative, NativeCall.step, nativeStartRunningGraph_eq, hlength,
          throwIfError]
      · obtain ⟨packets, hpackets, hnext⟩ := Option.bind_eq_some.mp hstep
        obtain rfl := PacketRegistry.getPackets_eq_map hpackets
        cases hnext
        refine ⟨rfl, fun _ => rfl, ?_⟩
        simp [HandleCall.toNative, NativeCall.step, nativeStartRunningGraph_eq, hheaders,
          not_not.mp hlength, JniState.withSession, throwIfError]
      · obtain ⟨packets, hpackets, hstep⟩ := Option.bind_eq_some.mp hstep
        obtain ⟨headers, hheaders, hnext⟩ := Option.map_eq_some'.mp hstep
        obtain rfl := PacketRegistry.getPackets_eq_map hpackets
        obtain rfl := PacketRegistry.getPackets_eq_map hheaders
        cases hnext
        exact ⟨rfl, fun _ => rfl, rfl⟩
  | addPacketToInputStream stream handle timestamp =>
      obtain ⟨packet, hpacket, hnext⟩ := Option.map_eq_some'.mp hstep
      cases hnext
      rw [HandleCall.toNative, PacketRegistry.packetAt_of_getPacketFromHandle hpacket]
      exact ⟨rfl, fun _ => rfl, rfl⟩
  | movePacketToInputStream stream handle timestamp =>
      obtain ⟨packet, hpacket, hnext⟩ := Option.map_eq_some'.mp hstep
      cases hnext
      rw [HandleCall.toNative, PacketRegistry.packetAt_of_getPacketFromHandle hpacket]
      exact ⟨rfl, PacketRegistry.setPacket_contexts _ _, rfl⟩

/-- Every run from Java that reads only live handles is the run of the native calls on
packets it makes. -/
theorem JniState.run_nativeCalls {alloc : Allocator} {calls : List JniCall} {final : JniState}
    (hrun : state.run tools env leftAfterMove alloc calls = some final) :
    final.session = nativeRun tools env state.session
      (state.nativeCalls tools env leftAfterMove alloc calls) := by
  induction calls generalizing state with
  | nil =>
      cases hrun
      rfl
  | cons call calls ih =>
      obtain ⟨next, hstep, hrest⟩ := Option.bind_eq_some.mp hrun
      have hnext :
          next.session = nativeRun tools env state.session (call.toNatives state.registry) := by
        cases call with
        | byHandle call =>
            obtain ⟨⟨result, after⟩, hcall, rfl⟩ := Option.map_eq_some'.mp hstep
            simp [JniCall.toNatives, nativeRun, (HandleCall.step_refines hcall).2.2]
        | native call _ =>
            cases hstep
            rfl
        | registry call =>
            obtain ⟨_, -, rfl⟩ := Option.map_eq_some'.mp hstep
            rfl
        | releaseGraph graph =>
            cases hstep
            rfl
      rw [JniState.nativeCalls, hstep, Option.map_some', Option.getD_some, ih hrest, hnext]
      simp only [nativeRun, List.foldl_append]

/-- Over every run from Java on a new `Graph` that reads only live handles, `running_graph_` is
set exactly when a `StartRunningGraph` returned OK since the last `WaitUntilDone`, and a
running graph is one that was set up. -/
theorem JniState.run_runningGraph {alloc : Allocator} (mode : GraphInputStreamAddMode)
    (registry : PacketRegistry) {calls : List JniCall} {final : JniState}
    (hrun : JniState.run tools env leftAfterMove alloc ⟨Session.create mode, registry⟩ calls =
      some final) :
    (final.session.state.runningGraph.isSome ↔ StartedSinceWait final.session.transcript) ∧
      ∀ runningGraph, final.session.state.runningGraph = some runningGraph →
        runningGraph.SetUp := by
  rw [JniState.run_nativeCalls hrun]
  exact nativeRun_runningGraph mode _

theorem JniState.run_runningGraph_wrap_start_add :
    let env : Environment := ⟨fun _ _ => (okStatus, []), fun _ => 0, fun _ _ => okStatus,
      fun _ _ _ => okStatus, fun _ _ _ => okStatus, fun _ _ => okStatus⟩
    let packet := makePacket (.java 3)
    let calls : List JniCall := [.registry (.wrapPacketIntoContext 1 packet),
      .byHandle (.startRunningGraph [] [] [] []), .byHandle (.addPacketToInputStream "in" 0 5)]
    ∃ final, JniState.run exampleTools env id (firstFitAllocator 4)
        ⟨Session.create .waitTillNotFull, PacketRegistry.empty⟩ calls = some final ∧
      (final.session.state.runningGraph.isSome ↔ StartedSinceWait final.session.transcript) ∧
      ∀ runningGraph, final.session.state.runningGraph = some runningGraph →
        runningGraph.SetUp := by
  intro env packet calls
  exact ⟨_, rfl, @JniState.run_runningGraph exampleTools env id (firstFitAllocator 4)
    .waitTillNotFull PacketRegistry.empty calls _ rfl⟩

end Refine

end MediaPipe.Jni
