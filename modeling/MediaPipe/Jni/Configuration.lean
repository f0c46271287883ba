import MediaPipe.Jni.Lifecycle

/-!
# The wrapper's configuration

What the loads, registrations and `SetInputSidePacket` calls are meant to build, as an
`IntendedConfig`: the config of the last successful load, the sink nodes added since,
each with the side-packet name it reads, the packet its call created and, for a callback,
the Java callback, and the last packet given under each side-packet name.
`ConfigConsistent` is what the wrapper's fields are to satisfy against it: `graph_` is the
loaded config plus the sinks, and `CreateCombinedSidePackets` binds each callback sink's
name to the callback of a handler that wraps its Java callback, each surface sink's name
to its holder unless `SetInputSidePacket` was given that name, every other name given to
`SetInputSidePacket` to its last packet, and no callback name that no node reads.
-/

namespace MediaPipe.Jni

/-- `config` with `nodes` appended. -/
def CalculatorGraphConfig.addNodes (config : CalculatorGraphConfig) (nodes : List Node) :
    CalculatorGraphConfig :=
  ⟨config.nodes ++ nodes⟩

theorem CalculatorGraphConfig.addNodes_append_singleton (config : CalculatorGraphConfig)
    (nodes : List Node) (node : Node) :
    config.addNodes (nodes ++ [node]) = (config.addNodes nodes).addNode node := by
  simp [CalculatorGraphConfig.addNodes, CalculatorGraphConfig.addNode]

theorem CalculatorGraphConfig.readsSidePacket_addNodes_of_mem {config : CalculatorGraphConfig}
    {nodes : List Node} {node : Node} {name : String} (hnode : node ∈ nodes)
    (hreads : node.ReadsSidePacket name) : (config.addNodes nodes).ReadsSidePacket name :=
  ⟨node, List.mem_append_right _ hnode, hreads⟩

/-- The sink node `AddSurfaceOutput` appends reads a name no node of the config reads. -/
theorem isSink_surfaceSink (tools : GraphTools) (outputStreamName : String)
    (config : CalculatorGraphConfig) :
    IsSink config (surfaceSink tools outputStreamName config) := by
  refine ⟨⟨_, List.mem_append_right _ (List.mem_singleton_self _), rfl⟩, fun hreads => ?_⟩
  exact tools.getUnusedSidePacketName_unused _ _
    (CalculatorGraphConfig.readsSidePacket_addNode.2 (.inl hreads))

/-! ## Sinks -/

/-- A sink node a registration appended, the side-packet name it reads, the packet its
call created for that name, and the Java callback of a callback sink's handler (`none` for
a surface sink). -/
structure Sink where
  node : Node
  name : String
  packet : Packet
  javaCallback : Option Nat

/-- Whether the sink's packet is a callback rather than a surface holder. -/
def Sink.isCallback (sink : Sink) : Bool :=
  sink.javaCallback.isSome

/-- The packet of the first sink of kind `isCallback` named `name`. -/
def Sink.lookup (isCallback : Bool) (sinks : List Sink) : SideMap := fun name =>
  (sinks.find? fun sink => sink.isCallback == isCallback && sink.name == name).map Sink.packet

section Lookup

variable {sinks : List Sink} {sink : Sink} {isCallback : Bool} {name : String}

@[simp] theorem Sink.lookup_nil : Sink.lookup isCallback [] = fun _ => none := rfl

theorem Sink.lookup_eq_none (hname : ∀ sink ∈ sinks, sink.isCallback = isCallback →
    sink.name ≠ name) : Sink.lookup isCallback sinks name = none := by
  simp only [Sink.lookup, Option.map_eq_none', List.find?_eq_none, Bool.and_eq_true,
    beq_iff_eq, not_and]
  exact hname

theorem Sink.exists_of_lookup (hlookup : Sink.lookup isCallback sinks name ≠ none) :
    ∃ sink ∈ sinks, sink.name = name :=
  by_contra fun hnone => hlookup (Sink.lookup_eq_none fun sink hsink _ hname =>
    hnone ⟨sink, hsink, hname⟩)

theorem Sink.lookup_of_mem (hnodup : (sinks.map Sink.name).Nodup) (hsink : sink ∈ sinks) :
    Sink.lookup sink.isCallback sinks sink.name = some sink.packet := by
  induction sinks with
  | nil => cases hsink
  | cons first rest ih =>
      simp only [List.map_cons, List.nodup_cons, List.mem_map, not_exists, not_and] at hnodup
      rcases List.mem_cons.1 hsink with rfl | hrest
      · simp [Sink.lookup]
      · have hne : first.name ≠ sink.name := fun heq => hnodup.1 sink hrest heq.symm
        simpa [Sink.lookup, List.find?_cons, hne] using ih hnodup.2 hrest

/-- Appending a sink under a new name adds exactly its binding to its kind's map. -/
theorem Sink.lookup_append_of_kind (hname : sink.name ∉ sinks.map Sink.name) :
    Sink.lookup sink.isCallback (sinks ++ [sink]) =
      (Sink.lookup sink.isCallback sinks).emplace sink.name sink.packet := by
  funext other
  have hnone : Sink.lookup sink.isCallback sinks sink.name = none :=
    Sink.lookup_eq_none fun old hold _ heq => hname (heq ▸ List.mem_map_of_mem _ hold)
  by_cases hother : other = sink.name
  · subst hother
    rw [SideMap.emplace_of_none _ hnone]
    simp only [Sink.lookup, Option.map_eq_none', List.find?_eq_none] at hnone
    simp [Sink.lookup, List.find?_append, List.find?_eq_none.2 hnone]
  · rw [SideMap.emplace_of_ne _ hother]
    simp [Sink.lookup, List.find?_append, Ne.symm hother]

theorem Sink.lookup_append_of_other_kind (hkind : sink.isCallback ≠ isCallback) :
    Sink.lookup isCallback (sinks ++ [sink]) = Sink.lookup isCallback sinks := by
  funext other
  simp [Sink.lookup, List.find?_append, hkind]

end Lookup

/-! ## The intended configuration -/

/-- The configuration the calls are meant to build: the config of the last successful
load, the sinks added since, the number of callback handlers made, and the last packet
given to `SetInputSidePacket` under each name. -/
structure IntendedConfig where
  loaded : Option CalculatorGraphConfig
  sinks : List Sink
  handlers : Nat
  sidePackets : SideMap

def IntendedConfig.create : IntendedConfig := ⟨none, [], 0, fun _ => none⟩

/-- A successful parse replaces the config and forgets the sinks; a failed one changes
nothing. -/
def IntendedConfig.load (parsed : Except CalculatorGraphConfig CalculatorGraphConfig)
    (intended : IntendedConfig) : IntendedConfig :=
  match parsed with
  | .ok config => { intended with loaded := some config, sinks := [] }
  | .error _ => intended

/-- A callback registration while a config is loaded: `addCalculator` gives the sink for
the config with the sinks so far. -/
def IntendedConfig.registerCallback (addCalculator : CalculatorGraphConfig → Node × String)
    (callback : Nat → Payload) (javaCallback : Nat) (intended : IntendedConfig) :
    IntendedConfig :=
  match intended.loaded with
  | some config =>
      let sink := addCalculator (config.addNodes (intended.sinks.map Sink.node))
      { intended with
        sinks := intended.sinks ++
          [⟨sink.1, sink.2, makePacket (callback intended.handlers), some javaCallback⟩]
        handlers := intended.handlers + 1 }
  | none => intended

def IntendedConfig.registerSurface (tools : GraphTools) (outputStreamName : String)
    (holder : Nat) (intended : IntendedConfig) : IntendedConfig :=
  match intended.loaded with
  | some config =>
      let sink :=
        surfaceSink tools outputStreamName (config.addNodes (intended.sinks.map Sink.node))
      { intended with
        sinks := intended.sinks ++
          [⟨sink.1, sink.2, makePacket (.surfaceHolder holder), none⟩] }
  | none => intended

def IntendedConfig.step (tools : GraphTools) (env : Environment) (history : List GraphCall)
    (intended : IntendedConfig) : GraphCall → IntendedConfig
  | .loadBinaryGraph path =>
      if (env.getContents history path).1.ok then
        intended.load (tools.parseFromString (env.getContents history path).2)
      else intended
  | .loadBinaryGraphBytes data => intended.load (tools.parseFromString data)
  | .addCallbackHandler stream javaCallback =>
      intended.registerCallback (tools.addCallbackCalculator stream) .callback javaCallback
  | .addCallbackWithHeaderHandler stream javaCallback =>
      intended.registerCallback (tools.addCallbackWithHeaderCalculator stream stream)
        .callbackWithHeader javaCallback
  | .addSurfaceOutput stream => intended.registerSurface tools stream (env.newSurfaceHolder history)
  | .setInputSidePacket name packet =>
      { intended with sidePackets := Function.update intended.sidePackets name (some packet) }
  | _ => intended

def IntendedConfig.run (tools : GraphTools) (env : Environment) :
    List GraphCall → IntendedConfig → List GraphCall → IntendedConfig
  | _, intended, [] => intended
  | history, intended, call :: calls =>
      IntendedConfig.run tools env (history ++ [call]) (intended.step tools env history call) calls

/-! ## Consistency -/

/-- The wrapper's fields agree with the intended configuration: `graph_loaded_` and
`graph_` are the intended ones, `CreateCombinedSidePackets` gives each sink and each side
packet set from Java its packet, with callbacks first, then the side packets set from Java,
then the surface holders, and a callback sink's packet is the callback of an entry of
`callback_handlers_` that wraps the sink's Java callback. -/
structure ConfigConsistent (g : Graph) (intended : IntendedConfig) : Prop where
  loaded_eq : g.graphLoaded = intended.loaded.isSome
  graph_eq : ∀ config, intended.loaded = some config →
    g.graph = config.addNodes (intended.sinks.map Sink.node)
  callbacks : ∀ sink ∈ intended.sinks, sink.isCallback →
    g.createCombinedSidePackets sink.name = some sink.packet
  surfaces : ∀ sink ∈ intended.sinks, sink.isCallback = false →
    intended.sidePackets sink.name = none →
      g.createCombinedSidePackets sink.name = some sink.packet
  sidePackets : ∀ name packet, intended.sidePackets name = some packet →
    (∀ sink ∈ intended.sinks, sink.isCallback → sink.name ≠ name) →
    g.createCombinedSidePackets name = some packet
  callbacks_read : ∀ name, g.sidePacketsCallbacks name ≠ none → g.graph.ReadsSidePacket name
  handlers : ∀ sink ∈ intended.sinks, ∀ java, sink.javaCallback = some java →
    ∃ k, g.callbackHandlers[k]? = some ⟨java⟩ ∧
      (sink.packet = makePacket (.callback k) ∨ sink.packet = makePacket (.callbackWithHeader k))

end MediaPipe.Jni
