import MediaPipe.Jni.ConfigurationRefinement

/-!
# The native methods of `Graph`

`graph_jni.cc`: the Java class `Graph` holds a handle to an `android::Graph` and calls
these methods on it.  Each makes one or more wrapper calls, and `ThrowIfError` turns a
status that is not OK into a `MediaPipeException`, thrown when the method returns to Java;
a method that checks a status that way returns at once when it threw.  Packet handles
stand for the packets they wrap.  The wrapper calls a native method makes are fixed by its
arguments, so every sequence of native calls is a sequence of wrapper calls, and what
holds of every wrapper run holds of every run from Java.
-/

namespace MediaPipe.Jni

/-- What a native method leaves for Java: a normal return, a pending exception, or the
handle `nativeAddSurfaceOutput` returns, by the packet behind it; or nothing, because the
process aborted inside it. -/
inductive JavaResult where
  | returned
  | thrown (exception : Status)
  | handle (packet : Option Packet)
  | aborted
  deriving DecidableEq, Repr

/-- `ThrowIfError`: a status that is not OK is thrown. -/
def throwIfError (status : Status) : JavaResult :=
  if status.ok then .returned else .thrown status

/-- What Java sees of a wrapper call's result. -/
def CallResult.toJava : CallResult → JavaResult
  | .status returned => throwIfError returned
  | .handle packet => .handle packet
  | .void => .returned
  | .aborted => .aborted

/-- One wrapper call from native code: what it returned, and the session recording it.  In
a process that has aborted no call returns. -/
def Session.call (tools : GraphTools) (env : Environment) (session : Session)
    (call : GraphCall) : CallResult × Session :=
  (if session.aborted then .aborted
    else (session.state.step tools env (session.transcript.map Prod.fst) call).1,
    session.step tools env call)

/-- A native method that forwards to one wrapper method and hands Java its result,
through `ThrowIfError` when it is a status. -/
def Session.callFromJava (tools : GraphTools) (env : Environment) (call : GraphCall)
    (session : Session) : JavaResult × Session :=
  ((session.call tools env call).1.toJava, (session.call tools env call).2)

/-- `if (ThrowIfError(env, status)) return;`, then `rest`. -/
def unlessThrown (checked : Status × Session) (rest : Session → JavaResult × Session) :
    JavaResult × Session :=
  if checked.1.ok then rest checked.2 else (throwIfError checked.1, checked.2)

/-! ## Arrays of side packets and stream headers -/

def streamsPacketsMismatchMessage : String := "Number of streams and packets doesn't match!"

/-- One `set` call per name, with the packet at the same index, in index order. -/
def packetCalls (set : String → Packet → GraphCall) (streamNames : List String)
    (packets : List Packet) : List GraphCall :=
  (streamNames.zip packets).map fun entry => set entry.1 entry.2

/-- The shared body of `AddSidePacketsIntoGraph` and `AddStreamHeadersIntoGraph`:
`mismatch` when the arrays differ in length, otherwise the `set` calls. -/
def addPacketsIntoGraph (mismatch : Status) (set : String → Packet → GraphCall)
    (tools : GraphTools) (env : Environment) (streamNames : List String)
    (packets : List Packet) (session : Session) : Status × Session :=
  if streamNames.length ≠ packets.length then (mismatch, session)
  else (okStatus, session.run tools env (packetCalls set streamNames packets))

def addSidePacketsIntoGraph (tools : GraphTools) (env : Environment)
    (streamNames : List String) (packets : List Packet) (session : Session) :
    Status × Session :=
  addPacketsIntoGraph (invalidArgumentError streamsPacketsMismatchMessage)
    .setInputSidePacket tools env streamNames packets session

/-- Unlike `AddSidePacketsIntoGraph`, a length mismatch is `FailedPrecondition`. -/
def addStreamHeadersIntoGraph (tools : GraphTools) (env : Environment)
    (streamNames : List String) (packets : List Packet) (session : Session) :
    Status × Session :=
  addPacketsIntoGraph (failedPreconditionError streamsPacketsMismatchMessage)
    .setStreamHeader tools env streamNames packets session

/-! ## The native methods -/

section Native

variable (tools : GraphTools) (env : Environment)

def nativeLoadBinaryGraph (path : String) (session : Session) : JavaResult × Session :=
  session.callFromJava tools env (.loadBinaryGraph path)

def nativeLoadBinaryGraphBytes (data : Bytes) (session : Session) : JavaResult × Session :=
  session.callFromJava tools env (.loadBinaryGraphBytes data)

def callbackAllocationMessage : String := "Failed to allocate packet callback"

/-- The shared body of `nativeAddPacketCallback` and `nativeAddPacketWithHeaderCallback`:
`globalCallbackRef` is what `NewGlobalRef` returned for the Java callback, `none` for a
null reference. -/
def addPacketCallbackWith (register : String → Nat → GraphCall) (streamName : String)
    (globalCallbackRef : Option Nat) (session : Session) : JavaResult × Session :=
  match globalCallbackRef with
  | some callback => session.callFromJava tools env (register streamName callback)
  | none => (throwIfError (internalError callbackAllocationMessage), session)

def nativeAddPacketCallback (streamName : String) (globalCallbackRef : Option Nat)
    (session : Session) : JavaResult × Session :=
  addPacketCallbackWith tools env .addCallbackHandler streamName globalCallbackRef session

def nativeAddPacketWithHeaderCallback (streamName : String) (globalCallbackRef : Option Nat)
    (session : Session) : JavaResult × Session :=
  addPacketCallbackWith tools env .addCallbackWithHeaderHandler streamName globalCallbackRef
    session

def nativeAddSurfaceOutput (streamName : String) (session : Session) : JavaResult × Session :=
  session.callFromJava tools env (.addSurfaceOutput streamName)

def nativeRunGraphUntilClose (streamNames : List String) (packets : List Packet)
    (session : Session) : JavaResult × Session :=
  unlessThrown (addSidePacketsIntoGraph tools env streamNames packets session) fun session =>
    session.callFromJava tools env .runGraphUntilClose

def nativeStartRunningGraph (sidePacketNames : List String) (sidePacketHandles : List Packet)
    (streamNamesWithHeader : List String) (headerHandles : List Packet) (session : Session) :
    JavaResult × Session :=
  unlessThrown (addSidePacketsIntoGraph tools env sidePacketNames sidePacketHandles session)
    fun session =>
      unlessThrown (addStreamHeadersIntoGraph tools env streamNamesWithHeader headerHandles
        session) fun session => session.callFromJava tools env .startRunningGraph

/-- A copy of the packet, at `timestamp`, goes into the stream. -/
def nativeAddPacketToInputStream (streamName : String) (packet : Packet) (timestamp : Int)
    (session : Session) : JavaResult × Session :=
  session.callFromJava tools env
    (.addPacketToInputStream streamName (packet.atTimestamp timestamp))

def nativeMovePacketToInputStream (streamName : String) (packet : Packet) (timestamp : Int)
    (session : Session) : JavaResult × Session :=
  session.callFromJava tools env
    (.setTimestampAndMovePacketToInputStream streamName packet timestamp)

def nativeSetGraphInputStreamBlockingMode (mode : Bool) (session : Session) :
    JavaResult × Session :=
  session.callFromJava tools env
    (.setGraphInputStreamAddMode (if mode then .waitTillNotFull else .addIfNotFull))

def nativeCloseInputStream (streamName : String) (session : Session) : JavaResult × Session :=
  session.callFromJava tools env (.closeInputStream streamName)

def nativeCloseAllInputStreams (session : Session) : JavaResult × Session :=
  session.callFromJava tools env .closeAllInputStreams

def nativeCloseAllPacketSources (session : Session) : JavaResult × Session :=
  session.callFromJava tools env .closeAllPacketSources

def nativeWaitUntilGraphDone (session : Session) : JavaResult × Session :=
  session.callFromJava tools env .waitUntilDone

def nativeWaitUntilGraphIdle (session : Session) : JavaResult × Session :=
  session.callFromJava tools env .waitUntilIdle

def nativeSetParentGlContext (javaGlContext : Nat) (session : Session) :
    JavaResult × Session :=
  session.callFromJava tools env (.setParentGlContext javaGlContext)

def nativeCancelGraph (session : Session) : JavaResult × Session :=
  session.callFromJava tools env .cancelGraph

end Native

/-! ## Native calls -/

/-- The native methods of `Graph` that act on its `android::Graph`, with their
arguments. -/
inductive NativeCall where
  | loadBinaryGraph (path : String)
  | loadBinaryGraphBytes (data : Bytes)
  | addPacketCallback (streamName : String) (globalCallbackRef : Option Nat)
  | addPacketWithHeaderCallback (streamName : String) (globalCallbackRef : Option Nat)
  | addSurfaceOutput (streamName : String)
  | runGraphUntilClose (streamNames : List String) (packets : List Packet)
  | startRunningGraph (sidePacketNames : List String) (sidePacketHandles : List Packet)
      (streamNamesWithHeader : List String) (headerHandles : List Packet)
  | addPacketToInputStream (streamName : String) (packet : Packet) (timestamp : Int)
  | movePacketToInputStream (streamName : String) (packet : Packet) (timestamp : Int)
  | setGraphInputStreamBlockingMode (mode : Bool)
  | closeInputStream (streamName : String)
  | closeAllInputStreams
  | closeAllPacketSources
  | waitUntilGraphDone
  | waitUntilGraphIdle
  | setParentGlContext (javaGlContext : Nat)
  | cancelGraph
  deriving DecidableEq, Repr

def NativeCall.step (tools : GraphTools) (env : Environment) (session : Session) :
    NativeCall → JavaResult × Session
  | .loadBinaryGraph path => nativeLoadBinaryGraph tools env path session
  | .loadBinaryGraphBytes data => nativeLoadBinaryGraphBytes tools env data session
  | .addPacketCallback stream ref => nativeAddPacketCallback tools env stream ref session
  | .addPacketWithHeaderCallback stream ref =>
      nativeAddPacketWithHeaderCallback tools env stream ref session
  | .addSurfaceOutput stream => nativeAddSurfaceOutput tools env stream session
  | .runGraphUntilClose names packets => nativeRunGraphUntilClose tools env names packets session
  | .startRunningGraph names packets headerNames headers =>
      nativeStartRunningGraph tools env names packets headerNames headers session
  | .addPacketToInputStream stream packet timestamp =>
      nativeAddPacketToInputStream tools env stream packet timestamp session
  | .movePacketToInputStream stream packet timestamp =>
      nativeMovePacketToInputStream tools env stream packet timestamp session
  | .setGraphInputStreamBlockingMode mode =>
      nativeSetGraphInputStreamBlockingMode tools env mode session
  | .closeInputStream stream => nativeCloseInputStream tools env stream session
  | .closeAllInputStreams => nativeCloseAllInputStreams tools env session
  | .closeAllPacketSources => nativeCloseAllPacketSources tools env session
  | .waitUntilGraphDone => nativeWaitUntilGraphDone tools env session
  | .waitUntilGraphIdle => nativeWaitUntilGraphIdle tools env session
  | .setParentGlContext context => nativeSetParentGlContext tools env context session
  | .cancelGraph => nativeCancelGraph tools env session

/-- Native calls one after another on the same `android::Graph`. -/
def nativeRun (tools : GraphTools) (env : Environment) (session : Session)
    (calls : List NativeCall) : Session :=
  calls.foldl (fun session call => (call.step tools env session).2) session

/-- The wrapper calls a native method makes, in order: fixed by its arguments, since it
returns early only on its own checks of array lengths and of `NewGlobalRef`. -/
def NativeCall.graphCalls : NativeCall → List GraphCall
  | .loadBinaryGraph path => [.loadBinaryGraph path]
  | .loadBinaryGraphBytes data => [.loadBinaryGraphBytes data]
  | .addPacketCallback stream ref => ref.toList.map (.addCallbackHandler stream)
  | .addPacketWithHeaderCallback stream ref => ref.toList.map (.addCallbackWithHeaderHandler stream)
  | .addSurfaceOutput stream => [.addSurfaceOutput stream]
  | .runGraphUntilClose names packets =>
      if names.length = packets.length then
        packetCalls .setInputSidePacket names packets ++ [.runGraphUntilClose]
      else []
  | .startRunningGraph names packets headerNames headers =>
      if names.length = packets.length then
        packetCalls .setInputSidePacket names packets ++
          if headerNames.length = headers.length then
            packetCalls .setStreamHeader headerNames headers ++ [.startRunningGraph]
          else []
      else []
  | .addPacketToInputStream stream packet timestamp =>
      [.addPacketToInputStream stream (packet.atTimestamp timestamp)]
  | .movePacketToInputStream stream packet timestamp =>
      [.setTimestampAndMovePacketToInputStream stream packet timestamp]
  | .setGraphInputStreamBlockingMode mode =>
      [.setGraphInputStreamAddMode (if mode then .waitTillNotFull else .addIfNotFull)]
  | .closeInputStream stream => [.closeInputStream stream]
  | .closeAllInputStreams => [.closeAllInputStreams]
  | .closeAllPacketSources => [.closeAllPacketSources]
  | .waitUntilGraphDone => [.waitUntilDone]
  | .waitUntilGraphIdle => [.waitUntilIdle]
  | .setParentGlContext context => [.setParentGlContext context]
  | .cancelGraph => [.cancelGraph]

/-! ## A native call is its wrapper calls -/

section Expand

variable {tools : GraphTools} {env : Environment}

theorem Session.run_append (session : Session) (calls rest : List GraphCall) :
    session.run tools env (calls ++ rest) = (session.run tools env calls).run tools env rest := by
  simp [Session.run, List.foldl_append]

/-- A checked array call: its own status when the lengths differ, otherwise `rest` after
the `set` calls. -/
theorem unlessThrown_addPacketsIntoGraph {mismatch : Status} (hmismatch : mismatch.ok = false)
    (set : String → Packet → GraphCall) (names : List String) (packets : List Packet)
    (session : Session) (rest : Session → JavaResult × Session) :
    unlessThrown (addPacketsIntoGraph mismatch set tools env names packets session) rest =
      if names.length = packets.length then
        rest (session.run tools env (packetCalls set names packets))
      else (.thrown mismatch, session) := by
  by_cases hlength : names.length = packets.length <;>
    simp [unlessThrown, addPacketsIntoGraph, throwIfError, hlength, hmismatch]

theorem nativeStartRunningGraph_eq (names : List String) (packets : List Packet)
    (headerNames : List String) (headers : List Packet) (session : Session) :
    nativeStartRunningGraph tools env names packets headerNames headers session =
      if names.length = packets.length then
        if headerNames.length = headers.length then
          (session.run tools env (packetCalls .setInputSidePacket names packets ++
            packetCalls .setStreamHeader headerNames headers)).callFromJava tools env
              .startRunningGraph
        else (.thrown (failedPreconditionError streamsPacketsMismatchMessage),
          session.run tools env (packetCalls .setInputSidePacket names packets))
      else (.thrown (invalidArgumentError streamsPacketsMismatchMessage), session) := by
  simp only [nativeStartRunningGraph, addSidePacketsIntoGraph, addStreamHeadersIntoGraph,
    unlessThrown_addPacketsIntoGraph (invalidArgumentError_ok _),
    unlessThrown_addPacketsIntoGraph (failedPreconditionError_ok _), Session.run_append]

/-- Where the arrays differ in length, `nativeRunGraphUntilClose` throws before any wrapper
call, whatever the packets. -/
theorem nativeRunGraphUntilClose_mismatch {names : List String} {packets : List Packet}
    (hlength : names.length ≠ packets.length) (session : Session) :
    nativeRunGraphUntilClose tools env names packets session =
      (throwIfError (invalidArgumentError streamsPacketsMismatchMessage), session) := by
  simp [nativeRunGraphUntilClose, addSidePacketsIntoGraph,
    unlessThrown_addPacketsIntoGraph (invalidArgumentError_ok _), hlength, throwIfError]

/-- What a native call does to the wrapper is what its wrapper calls do. -/
theorem NativeCall.step_snd (session : Session) (call : NativeCall) :
    (call.step tools env session).2 = session.run tools env call.graphCalls := by
  cases call with
  | addPacketCallback stream ref | addPacketWithHeaderCallback stream ref => cases ref <;> rfl
  | runGraphUntilClose names packets =>
      simp only [NativeCall.step, nativeRunGraphUntilClose, addSidePacketsIntoGraph,
        unlessThrown_addPacketsIntoGraph (invalidArgumentError_ok _), NativeCall.graphCalls]
      split_ifs <;> simp [Session.run_append, Session.callFromJava, Session.call]
  | startRunningGraph names packets headerNames headers =>
      rw [NativeCall.step, nativeStartRunningGraph_eq, NativeCall.graphCalls]
      split_ifs <;> simp [Session.run_append, Session.callFromJava, Session.call]
  | _ => rfl

/-- Every run of native calls is the wrapper run of the calls they make. -/
theorem nativeRun_eq (session : Session) (calls : List NativeCall) :
    nativeRun tools env session calls =
      session.run tools env (calls.flatMap NativeCall.graphCalls) := by
  induction calls generalizing session with
  | nil => rfl
  | cons call calls ih =>
      rw [nativeRun, List.foldl_cons, ← nativeRun, ih, NativeCall.step_snd, List.flatMap_cons,
        Session.run_append]

end Expand

/-! ## Every run from Java -/

section Run

variable {tools : GraphTools} {env : Environment}

/-- Over every sequence of native calls on a new `Graph`, whatever the collaborators
answer, a graph runs exactly when some `StartRunningGraph` the native calls made returned
OK and no `WaitUntilDone` came after it, and the graph that runs is set up. -/
theorem nativeRun_runningGraph (mode : GraphInputStreamAddMode) (calls : List NativeCall) :
    let session := nativeRun tools env (Session.create mode) calls
    (session.state.runningGraph.isSome ↔ StartedSinceWait session.transcript) ∧
      ∀ runningGraph, session.state.runningGraph = some runningGraph → runningGraph.SetUp := by
  have hinv : RunningInv
      ((Session.create mode).run tools env (calls.flatMap NativeCall.graphCalls)) :=
    (RunningInv.create mode).run _
  simp only [nativeRun_eq]
  exact ⟨hinv.running_iff, hinv.setUp⟩

/-- Over every sequence of native calls on a new `Graph` in which no load returns OK after a
registration made while a graph was loaded and no parse fails after a load returned OK,
whatever the collaborators answer, `graph_loaded_` records whether a load returned OK, and
the config and the combined side packets are those the wrapper calls the native calls made
are meant to build. -/
theorem nativeRun_configuration (mode : GraphInputStreamAddMode) (calls : List NativeCall)
    (hsafe : ReloadsSafely env (nativeRun tools env (Session.create mode) calls).transcript) :
    let session := nativeRun tools env (Session.create mode) calls
    (session.state.graphLoaded = true ↔ Loaded session.transcript) ∧
      ConfigConsistent session.state
        (IntendedConfig.create.run tools env [] (session.transcript.map Prod.fst)) := by
  rw [nativeRun_eq] at hsafe
  have hinv := (@ConfigInv.create tools env mode).run hsafe
  simp only [nativeRun_eq]
  exact ⟨hinv.loaded_iff, hinv.refines.consistent⟩

/-- Two loads, a callback, a surface and a start with one side packet, from Java. -/
theorem nativeRun_configuration_after_start :
    let env : Environment := ⟨fun _ _ => (okStatus, []), fun _ => 5, fun _ _ => okStatus,
      fun _ _ _ => okStatus, fun _ _ _ => okStatus, fun _ _ => okStatus⟩
    let calls : List NativeCall := [.loadBinaryGraphBytes [1], .loadBinaryGraphBytes [2],
      .addPacketCallback "out" (some 7), .addSurfaceOutput "video",
      .startRunningGraph ["x"] [makePacket (.java 3)] [] []]
    let session := nativeRun exampleTools env (Session.create .waitTillNotFull) calls
    ReloadsSafely env session.transcript ∧
      (session.state.graphLoaded = true ↔ Loaded session.transcript) ∧
        ConfigConsistent session.state
          (IntendedConfig.create.run exampleTools env [] (session.transcript.map Prod.fst)) := by
  intro env calls session
  have hsafe : ReloadsSafely env session.transcript :=
    ReloadsSafely.of_loads_first (session.transcript.take 2) (session.transcript.drop 2)
      (List.take_append_drop 2 _).symm (by decide) (by decide)
  exact ⟨hsafe, nativeRun_configuration .waitTillNotFull calls hsafe⟩

end Run

end MediaPipe.Jni
