import MediaPipe.Jni.GraphConfig

/-!
# `android::Graph`

The native half of the Java `Graph`: it loads a config, appends sink nodes for Java
callbacks and output surfaces, keeps the side packets, stream headers and service
packets the Java side sets, and owns at most one running `CalculatorGraph`.  Each method
is a function from the wrapper's fields to its result and new fields.  What the file
system, `new` and every `CalculatorGraph` method answer comes from an `Environment`,
which may answer each call differently, from the calls made before.  `Session.run` plays
a sequence of calls on a new `Graph` and records each call with its result.
-/

namespace MediaPipe.Jni

inductive GraphInputStreamAddMode where
  | waitTillNotFull
  | addIfNotFull
  deriving DecidableEq, Repr

/-- `internal::CallbackHandler`, by the Java callback it wraps. -/
structure CallbackHandler where
  javaCallback : Nat
  deriving DecidableEq, Repr

/-- The status-returning calls `StartRunningGraph` makes on a new `CalculatorGraph`. -/
inductive CalculatorGraphCall where
  | setGpuResources (gpuResources : Option Nat)
  | setServicePacket (service : Nat) (packet : Packet)
  | initializeConfig (config : CalculatorGraphConfig)
  | startRun (extraSidePackets streamHeaders : SideMap)

/-- A `CalculatorGraph` the wrapper created: its input-stream add mode and the setup calls
it answered, each with its status. -/
structure CalculatorGraph where
  graphInputStreamAddMode : GraphInputStreamAddMode
  setupCalls : List (CalculatorGraphCall × Status)

/-- The calls the wrapper forwards to `running_graph_`. -/
inductive RunningGraphCall where
  | addPacketToInputStream (streamName : String) (packet : Packet)
  | closeInputStream (streamName : String)
  | closeAllInputStreams
  | closeAllPacketSources
  | waitUntilDone
  | waitUntilIdle
  deriving DecidableEq, Repr

structure Graph where
  graphLoaded : Bool
  graph : CalculatorGraphConfig
  sidePacketsCallbacks : SideMap
  callbackHandlers : List CallbackHandler
  outputSurfaceSidePackets : SideMap
  sidePackets : SideMap
  streamHeaders : SideMap
  servicePackets : List (Nat × Packet)
  gpuResources : Option Nat
  graphInputStreamAddMode : GraphInputStreamAddMode
  runningGraph : Option CalculatorGraph

/-- `Graph::Graph()`: nothing loaded, every map empty, no running graph. -/
def Graph.create (graphInputStreamAddMode : GraphInputStreamAddMode) : Graph where
  graphLoaded := false
  graph := ⟨[]⟩
  sidePacketsCallbacks := fun _ => none
  callbackHandlers := []
  outputSurfaceSidePackets := fun _ => none
  sidePackets := fun _ => none
  streamHeaders := fun _ => none
  servicePackets := []
  gpuResources := none
  graphInputStreamAddMode := graphInputStreamAddMode
  runningGraph := none

/-- `CreateCombinedSidePackets`: a copy of `side_packets_callbacks_` into which
`side_packets_` and then `output_surface_side_packets_` are inserted; `insert` keeps a
name that is already there. -/
def Graph.createCombinedSidePackets (g : Graph) : SideMap :=
  fun name => (g.sidePacketsCallbacks name).or
    ((g.sidePackets name).or (g.outputSurfaceSidePackets name))

/-! ## Loading and configuring -/

def graphNotLoadedMessage : String := "Graph is not loaded!"

/-- The shared body of `AddCallbackHandler` and `AddCallbackWithHeaderHandler`:
`addCalculator` gives the sink node and its side-packet name, `callback` the packet
wrapping the new handler. -/
def Graph.addCallbackHandlerWith (addCalculator : CalculatorGraphConfig → Node × String)
    (callback : Nat → Payload) (javaCallback : Nat) (g : Graph) : Status × Graph :=
  if g.graphLoaded then
    let sink := addCalculator g.graph
    (okStatus, { g with
      graph := g.graph.addNode sink.1
      sidePacketsCallbacks :=
        g.sidePacketsCallbacks.emplace sink.2 (makePacket (callback g.callbackHandlers.length))
      callbackHandlers := g.callbackHandlers ++ [⟨javaCallback⟩] })
  else (internalError graphNotLoadedMessage, g)

def Graph.addCallbackHandler (tools : GraphTools) (outputStreamName : String)
    (javaCallback : Nat) (g : Graph) : Status × Graph :=
  g.addCallbackHandlerWith (tools.addCallbackCalculator outputStreamName) .callback
    javaCallback

def Graph.addCallbackWithHeaderHandler (tools : GraphTools) (outputStreamName : String)
    (javaCallback : Nat) (g : Graph) : Status × Graph :=
  g.addCallbackHandlerWith
    (tools.addCallbackWithHeaderCalculator outputStreamName outputStreamName)
    .callbackWithHeader javaCallback

/-- The sink node `AddSurfaceOutput` appends and the side-packet name it reads.  The node
is in `graph_` before either name is generated. -/
def surfaceSink (tools : GraphTools) (outputStreamName : String)
    (config : CalculatorGraphConfig) : Node × String :=
  let sinkNode : Node :=
    ⟨tools.getUnusedNodeName (config.addNode ⟨"", "", [], []⟩)
        ("egl_surface_sink_" ++ outputStreamName),
      "GlSurfaceSinkCalculator", [outputStreamName], [tools.gpuSharedSidePacket]⟩
  let inputSidePacketName :=
    tools.getUnusedSidePacketName (config.addNode sinkNode) (outputStreamName ++ "_surface")
  ({ sinkNode with
      inputSidePackets := sinkNode.inputSidePackets ++ [⟨"SURFACE", inputSidePacketName⟩] },
    inputSidePacketName)

/-- `AddSurfaceOutput`: the packet the returned handle wraps, `none` for the handle 0
returned when no graph is loaded; `holder` is the address of the new `EglSurfaceHolder`. -/
def Graph.addSurfaceOutput (tools : GraphTools) (outputStreamName : String) (holder : Nat)
    (g : Graph) : Option Packet × Graph :=
  if g.graphLoaded then
    let sink := surfaceSink tools outputStreamName g.graph
    let surfaces := g.outputSurfaceSidePackets.emplace sink.2 (makePacket (.surfaceHolder holder))
    (surfaces sink.2, { g with
      graph := g.graph.addNode sink.1
      outputSurfaceSidePackets := surfaces })
  else (none, g)

section Fields

variable {g : Graph}

@[simp] theorem Graph.addCallbackHandlerWith_graphLoaded
    (addCalculator : CalculatorGraphConfig → Node × String) (callback : Nat → Payload)
    (javaCallback : Nat) :
    (g.addCallbackHandlerWith addCalculator callback javaCallback).2.graphLoaded =
      g.graphLoaded := by
  unfold Graph.addCallbackHandlerWith
  split <;> rfl

@[simp] theorem Graph.addCallbackHandlerWith_runningGraph
    (addCalculator : CalculatorGraphConfig → Node × String) (callback : Nat → Payload)
    (javaCallback : Nat) :
    (g.addCallbackHandlerWith addCalculator callback javaCallback).2.runningGraph =
      g.runningGraph := by
  unfold Graph.addCallbackHandlerWith
  split <;> rfl

@[simp] theorem Graph.addSurfaceOutput_graphLoaded (tools : GraphTools)
    (outputStreamName : String) (holder : Nat) :
    (g.addSurfaceOutput tools outputStreamName holder).2.graphLoaded = g.graphLoaded := by
  unfold Graph.addSurfaceOutput
  split <;> rfl

@[simp] theorem Graph.addSurfaceOutput_runningGraph (tools : GraphTools)
    (outputStreamName : String) (holder : Nat) :
    (g.addSurfaceOutput tools outputStreamName holder).2.runningGraph = g.runningGraph := by
  unfold Graph.addSurfaceOutput
  split <;> rfl

end Fields

/-- The end of both `LoadBinaryGraph` overloads: `graph_` holds what the parser left in
it, and only a parse that succeeds sets `graph_loaded_`. -/
def Graph.loadParsed (parsed : Except CalculatorGraphConfig CalculatorGraphConfig)
    (parseError : Status) (g : Graph) : Status × Graph :=
  match parsed with
  | .ok config => (okStatus, { g with graph := config, graphLoaded := true })
  | .error remains => (parseError, { g with graph := remains })

/-- `LoadBinaryGraph(path_to_graph)`, given what `file::GetContents` returns. -/
def Graph.loadBinaryGraph (tools : GraphTools) (pathToGraph : String)
    (contents : Status × Bytes) (g : Graph) : Status × Graph :=
  if contents.1.ok then
    g.loadParsed (tools.parseFromString contents.2)
      (invalidArgumentError ("Failed to parse the graph: " ++ pathToGraph))
  else (contents.1, g)

/-- `LoadBinaryGraph(data, size)`. -/
def Graph.loadBinaryGraphBytes (tools : GraphTools) (data : Bytes) (g : Graph) :
    Status × Graph :=
  g.loadParsed (tools.parseFromString data) (invalidArgumentError "Failed to parse the graph")

def Graph.setInputSidePacket (streamName : String) (packet : Packet) (g : Graph) : Graph :=
  { g with sidePackets := Function.update g.sidePackets streamName (some packet) }

def Graph.setStreamHeader (streamName : String) (packet : Packet) (g : Graph) : Graph :=
  { g with streamHeaders := Function.update g.streamHeaders streamName (some packet) }

def Graph.setGraphInputStreamAddMode (mode : GraphInputStreamAddMode) (g : Graph) : Graph :=
  { g with graphInputStreamAddMode := mode }

def parentGlContextMessage : String :=
  "trying to set the parent GL context, but the gpu shared data has already been set up."

/-- `SetParentGlContext`, given the status `GpuResources::Create` returns on the context:
`none` where the process aborts, by `LOG(FATAL)` in a build without GPU support or by
`ValueOrDie` on a failed `Create`. -/
def Graph.setParentGlContext (disableGpu : Bool) (created : Status) (javaGlContext : Nat)
    (g : Graph) : Option (Status × Graph) :=
  if g.gpuResources.isSome then some (alreadyExistsError parentGlContextMessage, g)
  else if disableGpu || !created.ok then none
  else some (okStatus, { g with gpuResources := some javaGlContext })

def Graph.setServicePacket (service : Nat) (packet : Packet) (g : Graph) : Graph :=
  { g with servicePackets := assignServicePacket service packet g.servicePackets }

/-! ## Running -/

/-- The status-returning calls of `StartRunningGraph`, in order. -/
def Graph.setupCalls (g : Graph) : List CalculatorGraphCall :=
  .setGpuResources g.gpuResources ::
    g.servicePackets.map (fun entry => .setServicePacket entry.1 entry.2) ++
    [.initializeConfig g.graph, .startRun g.createCombinedSidePackets g.streamHeaders]

/-- Makes `calls` on a new graph in order and stops at the first that fails. -/
def setUpRunningGraph (answer : CalculatorGraphCall → Status) :
    List CalculatorGraphCall → CalculatorGraph → Except Status CalculatorGraph
  | [], runningGraph => .ok runningGraph
  | call :: calls, runningGraph =>
      if (answer call).ok then
        setUpRunningGraph answer calls
          { runningGraph with setupCalls := runningGraph.setupCalls ++ [(call, answer call)] }
      else .error (answer call)

def graphAlreadyRunningMessage : String := "Graph is already running."

/-- `StartRunningGraph`: a failed setup call resets `running_graph_` and returns its
status. -/
def Graph.startRunningGraph (answer : CalculatorGraphCall → Status) (g : Graph) :
    Status × Graph :=
  if g.runningGraph.isSome then (internalError graphAlreadyRunningMessage, g)
  else
    match setUpRunningGraph answer g.setupCalls ⟨g.graphInputStreamAddMode, []⟩ with
    | .ok runningGraph => (okStatus, { g with runningGraph := some runningGraph })
    | .error status => (status, { g with runningGraph := none })

def graphMustBeRunningMessage : String := "Graph must be running."

/-- The shared body of the stream, close and wait calls: `FailedPrecondition` without a
running graph, otherwise what `running_graph_` answers to `call`. -/
def Graph.delegateToRunningGraph (answer : CalculatorGraph → RunningGraphCall → Status)
    (call : RunningGraphCall) (g : Graph) : Status :=
  match g.runningGraph with
  | some runningGraph => answer runningGraph call
  | none => failedPreconditionError graphMustBeRunningMessage

def Graph.addPacketToInputStream (answer : CalculatorGraph → RunningGraphCall → Status)
    (streamName : String) (packet : Packet) (g : Graph) : Status :=
  g.delegateToRunningGraph answer (.addPacketToInputStream streamName packet)

def Graph.setTimestampAndMovePacketToInputStream
    (answer : CalculatorGraph → RunningGraphCall → Status) (streamName : String)
    (packet : Packet) (timestamp : Int) (g : Graph) : Status :=
  g.addPacketToInputStream answer streamName (packet.atTimestamp timestamp)

def Graph.closeInputStream (answer : CalculatorGraph → RunningGraphCall → Status)
    (streamName : String) (g : Graph) : Status :=
  g.delegateToRunningGraph answer (.closeInputStream streamName)

def Graph.closeAllInputStreams (answer : CalculatorGraph → RunningGraphCall → Status)
    (g : Graph) : Status :=
  g.delegateToRunningGraph answer .closeAllInputStreams

def Graph.closeAllPacketSources (answer : CalculatorGraph → RunningGraphCall → Status)
    (g : Graph) : Status :=
  g.delegateToRunningGraph answer .closeAllPacketSources

def Graph.waitUntilIdle (answer : CalculatorGraph → RunningGraphCall → Status)
    (g : Graph) : Status :=
  g.delegateToRunningGraph answer .waitUntilIdle

/-- `WaitUntilDone` also drops the running graph, whatever it answers. -/
def Graph.waitUntilDone (answer : CalculatorGraph → RunningGraphCall → Status)
    (g : Graph) : Status × Graph :=
  match g.runningGraph with
  | some runningGraph => (answer runningGraph .waitUntilDone, { g with runningGraph := none })
  | none => (failedPreconditionError graphMustBeRunningMessage, g)

/-- `RunGraphUntilClose`: runs a local `CalculatorGraph` of `graph_`. -/
def Graph.runGraphUntilClose (run : CalculatorGraphConfig → SideMap → Status) (g : Graph) :
    Status :=
  run g.graph g.createCombinedSidePackets

/-! ## Sessions -/

/-- The methods of `android::Graph` the Java side calls, with their arguments. -/
inductive GraphCall where
  | loadBinaryGraph (pathToGraph : String)
  | loadBinaryGraphBytes (data : Bytes)
  | addCallbackHandler (outputStreamName : String) (javaCallback : Nat)
  | addCallbackWithHeaderHandler (outputStreamName : String) (javaCallback : Nat)
  | addSurfaceOutput (outputStreamName : String)
  | setInputSidePacket (streamName : String) (packet : Packet)
  | setStreamHeader (streamName : String) (packet : Packet)
  | setGraphInputStreamAddMode (mode : GraphInputStreamAddMode)
  | setParentGlContext (javaGlContext : Nat)
  | setServicePacket (service : Nat) (packet : Packet)
  | startRunningGraph
  | addPacketToInputStream (streamName : String) (packet : Packet)
  | setTimestampAndMovePacketToInputStream (streamName : String) (packet : Packet)
      (timestamp : Int)
  | closeInputStream (streamName : String)
  | closeAllInputStreams
  | closeAllPacketSources
  | waitUntilIdle
  | waitUntilDone
  | cancelGraph
  | runGraphUntilClose
  deriving DecidableEq, Repr

/-- What a call returns: a status, the packet behind `AddSurfaceOutput`'s handle, or
nothing; or it never returns, because it aborted the process. -/
inductive CallResult where
  | status (status : Status)
  | handle (packet : Option Packet)
  | void
  | aborted
  deriving DecidableEq, Repr

/-- What the collaborators answer, from the calls made before. -/
structure Environment where
  getContents : List GraphCall → String → Status × Bytes
  newSurfaceHolder : List GraphCall → Nat
  calculatorGraph : List GraphCall → CalculatorGraphCall → Status
  runningGraph : List GraphCall → CalculatorGraph → RunningGraphCall → Status
  run : List GraphCall → CalculatorGraphConfig → SideMap → Status
  /-- The status of `GpuResources::Create` on a parent context. -/
  createGpuResources : List GraphCall → Nat → Status

def withStatus (result : Status × Graph) : CallResult × Graph :=
  (.status result.1, result.2)

/-- One call on the wrapper, after the calls `history`. -/
def Graph.step (tools : GraphTools) (env : Environment) (history : List GraphCall)
    (g : Graph) : GraphCall → CallResult × Graph
  | .loadBinaryGraph path =>
      withStatus (g.loadBinaryGraph tools path (env.getContents history path))
  | .loadBinaryGraphBytes data => withStatus (g.loadBinaryGraphBytes tools data)
  | .addCallbackHandler stream javaCallback =>
      withStatus (g.addCallbackHandler tools stream javaCallback)
  | .addCallbackWithHeaderHandler stream javaCallback =>
      withStatus (g.addCallbackWithHeaderHandler tools stream javaCallback)
  | .addSurfaceOutput stream =>
      let result := g.addSurfaceOutput tools stream (env.newSurfaceHolder history)
      (.handle result.1, result.2)
  | .setInputSidePacket name packet => (.void, g.setInputSidePacket name packet)
  | .setStreamHeader name packet => (.void, g.setStreamHeader name packet)
  | .setGraphInputStreamAddMode mode => (.void, g.setGraphInputStreamAddMode mode)
  | .setParentGlContext context =>
      ((g.setParentGlContext tools.disableGpu (env.createGpuResources history context)
        context).map withStatus).getD (.aborted, g)
  | .setServicePacket service packet => (.void, g.setServicePacket service packet)
  | .startRunningGraph => withStatus (g.startRunningGraph (env.calculatorGraph history))
  | .addPacketToInputStream stream packet =>
      (.status (g.addPacketToInputStream (env.runningGraph history) stream packet), g)
  | .setTimestampAndMovePacketToInputStream stream packet timestamp =>
      (.status (g.setTimestampAndMovePacketToInputStream (env.runningGraph history) stream
        packet timestamp), g)
  | .closeInputStream stream => (.status (g.closeInputStream (env.runningGraph history) stream), g)
  | .closeAllInputStreams => (.status (g.closeAllInputStreams (env.runningGraph history)), g)
  | .closeAllPacketSources => (.status (g.closeAllPacketSources (env.runningGraph history)), g)
  | .waitUntilIdle => (.status (g.waitUntilIdle (env.runningGraph history)), g)
  | .waitUntilDone => withStatus (g.waitUntilDone (env.runningGraph history))
  | .cancelGraph => (.void, g)
  | .runGraphUntilClose => (.status (g.runGraphUntilClose (env.run history)), g)

/-- `SetParentGlContext` answers `AlreadyExists` once the GPU resources are set up, and
otherwise aborts the process or sets them up. -/
theorem Graph.step_setParentGlContext (tools : GraphTools) (env : Environment)
    (history : List GraphCall) (g : Graph) (context : Nat) :
    g.step tools env history (.setParentGlContext context) =
      if g.gpuResources.isSome then (.status (alreadyExistsError parentGlContextMessage), g)
      else if tools.disableGpu || !(env.createGpuResources history context).ok then (.aborted, g)
      else (.status okStatus, { g with gpuResources := some context }) := by
  simp only [Graph.step, Graph.setParentGlContext]
  split_ifs <;> rfl

/-- The calls made so far, each with what it returned. -/
abbrev Transcript := List (GraphCall × CallResult)

structure Session where
  state : Graph
  transcript : Transcript

/-- A new `Graph` on which nothing has been called. -/
def Session.create (graphInputStreamAddMode : GraphInputStreamAddMode) : Session :=
  ⟨Graph.create graphInputStreamAddMode, []⟩

/-- Whether a call has aborted the process. -/
def Session.aborted (session : Session) : Bool :=
  session.transcript.any fun entry => entry.2 == .aborted

/-- One call on the wrapper; once a call has aborted the process, no call is made. -/
def Session.step (tools : GraphTools) (env : Environment) (session : Session)
    (call : GraphCall) : Session :=
  if session.aborted then session
  else
    let next := session.state.step tools env (session.transcript.map Prod.fst) call
    ⟨next.2, session.transcript ++ [(call, next.1)]⟩

def Session.run (tools : GraphTools) (env : Environment) (session : Session)
    (calls : List GraphCall) : Session :=
  calls.foldl (Session.step tools env) session

section Session

variable {tools : GraphTools} {env : Environment} {session : Session}

@[simp] theorem Session.run_nil (tools : GraphTools) (env : Environment) (session : Session) :
    session.run tools env [] = session := rfl

@[simp] theorem Session.run_cons (tools : GraphTools) (env : Environment) (session : Session)
    (call : GraphCall) (calls : List GraphCall) :
    session.run tools env (call :: calls) = (session.step tools env call).run tools env calls :=
  rfl

@[simp] theorem Session.run_append_singleton (tools : GraphTools) (env : Environment)
    (session : Session) (calls : List GraphCall) (call : GraphCall) :
    session.run tools env (calls ++ [call]) =
      (session.run tools env calls).step tools env call := by
  simp [Session.run, List.foldl_append]

theorem Session.step_of_aborted (haborted : session.aborted = true) (call : GraphCall) :
    session.step tools env call = session := by
  rw [Session.step, if_pos haborted]

theorem Session.step_of_running (hrunning : session.aborted = false) (call : GraphCall) :
    session.step tools env call =
      ⟨(session.state.step tools env (session.transcript.map Prod.fst) call).2,
        session.transcript ++
          [(call, (session.state.step tools env (session.transcript.map Prod.fst) call).1)]⟩ := by
  rw [Session.step, if_neg (by simp [hrunning])]

/-- A property that every call made while the process runs keeps, every call keeps. -/
theorem Session.step_induction {motive : Session → Prop} (call : GraphCall)
    (hstep : session.aborted = false → motive (session.step tools env call))
    (hsession : motive session) : motive (session.step tools env call) := by
  cases haborted : session.aborted
  · exact hstep haborted
  · rwa [Session.step_of_aborted haborted]

/-- A call made while the process runs aborts it exactly when it returns `aborted`. -/
theorem Session.aborted_step (hrunning : session.aborted = false) (call : GraphCall) :
    (session.step tools env call).aborted =
      ((session.state.step tools env (session.transcript.map Prod.fst) call).1 == .aborted) := by
  have hnone : session.transcript.any (fun entry => entry.2 == .aborted) = false := hrunning
  rw [Session.step_of_running hrunning]
  simp only [Session.aborted, List.any_append, hnone, Bool.false_or, List.any_cons, List.any_nil,
    Bool.or_false]

/-- A call appends to the transcript. -/
theorem Session.step_transcript (call : GraphCall) :
    ∃ rest, (session.step tools env call).transcript = session.transcript ++ rest := by
  cases haborted : session.aborted
  · rw [Session.step_of_running haborted]
    exact ⟨_, rfl⟩
  · rw [Session.step_of_aborted haborted]
    exact ⟨[], (List.append_nil _).symm⟩

/-- After a call that aborted the process, no call changes the session. -/
theorem Session.run_of_aborted (haborted : session.aborted = true) (calls : List GraphCall) :
    session.run tools env calls = session := by
  induction calls with
  | nil => rfl
  | cons call calls ih => rw [Session.run_cons, Session.step_of_aborted haborted, ih]

/-- A run in which no call aborted the process records every call. -/
theorem Session.run_transcript_calls {calls : List GraphCall}
    (hrunning : (session.run tools env calls).aborted = false) :
    (session.run tools env calls).transcript.map Prod.fst =
      session.transcript.map Prod.fst ++ calls := by
  induction calls generalizing session with
  | nil => simp
  | cons call calls ih =>
      rw [Session.run_cons] at hrunning ⊢
      cases haborted : session.aborted
      · rw [ih hrunning, Session.step_of_running haborted]
        simp
      · rw [Session.step_of_aborted haborted, Session.run_of_aborted haborted] at hrunning
        exact absurd haborted (by simp [hrunning])

end Session

end MediaPipe.Jni
