import MediaPipe.Jni.Configuration

/-!
# The wrapper refines the intended configuration

`GraphRefines` ties the fields of `android::Graph` to an `IntendedConfig`: the maps of
callbacks and surface holders are exactly the sinks of each kind, every sink reads a name
of its own, and each callback sink's packet is the callback of a handler that wraps the
sink's Java callback.  Each call keeps it, provided a load whose parse returns OK comes
while no sink has been added since the last successful load, and a parse that fails comes
while no graph is loaded: a registration appends a node that reads a name no node read
before, so `emplace` inserts.  Over every run in which no load returns OK after a
registration made while a graph was loaded, and no parse fails after a load returned OK,
the wrapper is therefore consistent with the intended configuration of the calls it made.
-/

namespace MediaPipe.Jni

def GraphCall.isLoad : GraphCall → Bool
  | .loadBinaryGraph _ => true
  | .loadBinaryGraphBytes _ => true
  | _ => false

/-- The calls that edit the configuration: the loads, the registrations and
`SetInputSidePacket`. -/
def GraphCall.editsConfig : GraphCall → Bool
  | .loadBinaryGraph _ => true
  | .loadBinaryGraphBytes _ => true
  | .addCallbackHandler _ _ => true
  | .addCallbackWithHeaderHandler _ _ => true
  | .addSurfaceOutput _ => true
  | .setInputSidePacket _ _ => true
  | _ => false

/-- The registrations: the calls that append a sink node while a graph is loaded. -/
def GraphCall.isRegistration : GraphCall → Bool
  | .addCallbackHandler _ _ | .addCallbackWithHeaderHandler _ _ | .addSurfaceOutput _ => true
  | _ => false

/-- Whether a call reaches `ParseFromString`: `LoadBinaryGraph(data, size)` always, and
`LoadBinaryGraph(path)` once `file::GetContents` returned OK. -/
def GraphCall.parses (env : Environment) (history : List GraphCall) : GraphCall → Bool
  | .loadBinaryGraph path => (env.getContents history path).1.ok
  | .loadBinaryGraphBytes _ => true
  | _ => false

/-- Some load returned OK. -/
def Loaded (transcript : Transcript) : Prop :=
  ∃ entry ∈ transcript, entry.1.isLoad ∧ entry.2.isOk

/-- A registration was made while a graph was loaded. -/
def RegisteredWhileLoaded (transcript : Transcript) : Prop :=
  ∃ pre entry post, transcript = pre ++ entry :: post ∧ entry.1.isRegistration ∧ Loaded pre

/-- The reloads the configuration survives: no load returns OK after a registration made
while a graph was loaded, and no parse fails after a load returned OK. -/
def ReloadsSafely (env : Environment) (transcript : Transcript) : Prop :=
  ∀ pre entry post, transcript = pre ++ entry :: post →
    (entry.1.isLoad → entry.2.isOk → ¬ RegisteredWhileLoaded pre) ∧
    (entry.1.parses env (pre.map Prod.fst) → entry.2.isOk = false → ¬ Loaded pre)

section Transcript

variable {env : Environment} {transcript rest : Transcript} {entry : GraphCall × CallResult}

theorem Loaded.append_singleton :
    Loaded (transcript ++ [entry]) ↔ Loaded transcript ∨ (entry.1.isLoad ∧ entry.2.isOk) := by
  simp [Loaded, or_and_right, exists_or]

theorem RegisteredWhileLoaded.append (hregistered : RegisteredWhileLoaded transcript) :
    RegisteredWhileLoaded (transcript ++ rest) := by
  obtain ⟨pre, entry, post, rfl, hregistration, hloaded⟩ := hregistered
  exact ⟨pre, entry, post ++ rest, by simp, hregistration, hloaded⟩

theorem ReloadsSafely.of_append (hsafe : ReloadsSafely env (transcript ++ rest)) :
    ReloadsSafely env transcript := by
  rintro pre entry post rfl
  exact hsafe pre entry (post ++ rest) (by simp)

theorem GraphCall.isLoad_of_parses {call : GraphCall} {history : List GraphCall}
    (hparses : call.parses env history) : call.isLoad := by
  cases call <;> first | rfl | exact absurd hparses Bool.false_ne_true

theorem GraphCall.isRegistration_of_isLoad {call : GraphCall} (hload : call.isLoad) :
    call.isRegistration = false := by
  cases call <;> first | rfl | exact absurd hload Bool.false_ne_true

/-- A transcript whose loads all come first and return OK reloads safely. -/
theorem ReloadsSafely.of_loads_first (loads others : Transcript)
    (hsplit : transcript = loads ++ others)
    (hloads : ∀ entry ∈ loads, entry.1.isLoad ∧ entry.2.isOk)
    (hothers : ∀ entry ∈ others, entry.1.isLoad = false) : ReloadsSafely env transcript := by
  rintro pre entry post heq
  have hplace : entry ∈ others ∨ (entry ∈ loads ∧ ∀ before ∈ pre, before ∈ loads) := by
    rw [hsplit] at heq
    rcases List.append_eq_append_iff.mp heq with ⟨_, -, rfl⟩ | ⟨middle, rfl, hpost⟩
    · exact .inl (by simp)
    · cases middle with
      | nil =>
          rw [List.nil_append] at hpost
          exact .inl (hpost ▸ List.mem_cons_self _ _)
      | cons first middle =>
          cases hpost
          exact .inr ⟨by simp, fun before hbefore => by simp [hbefore]⟩
  rcases hplace with hother | ⟨hload, hpre⟩
  · have hnot := hothers entry hother
    exact ⟨fun hisLoad => absurd hisLoad (by simp [hnot]),
      fun hparses => absurd (GraphCall.isLoad_of_parses hparses) (by simp [hnot])⟩
  · refine ⟨fun _ _ ⟨_, before, _, hpre', hregistration, _⟩ => ?_, fun _ hnot => ?_⟩
    · have hisLoad := (hloads before (hpre before (by simp [hpre']))).1
      rw [GraphCall.isRegistration_of_isLoad hisLoad] at hregistration
      cases hregistration
    · simp [(hloads entry hload).2] at hnot

end Transcript

/-! ## What one call does to the configuration fields -/

section Step

variable {tools : GraphTools} {env : Environment} {history : List GraphCall} {g : Graph}

/-- The configuration fields of two wrappers agree. -/
structure Graph.SameConfig (g' g : Graph) : Prop where
  graphLoaded : g'.graphLoaded = g.graphLoaded
  graph : g'.graph = g.graph
  sidePacketsCallbacks : g'.sidePacketsCallbacks = g.sidePacketsCallbacks
  callbackHandlers : g'.callbackHandlers = g.callbackHandlers
  outputSurfaceSidePackets : g'.outputSurfaceSidePackets = g.outputSurfaceSidePackets
  sidePackets : g'.sidePackets = g.sidePackets

/-- A call that does not edit the configuration keeps its fields. -/
theorem Graph.step_sameConfig {call : GraphCall} (hcall : call.editsConfig = false) :
    (g.step tools env history call).2.SameConfig g := by
  cases call with
  | startRunningGraph =>
      rcases Graph.startRunningGraph_cases (env.calculatorGraph history) g with
        ⟨-, heq⟩ | ⟨-, status, -, heq⟩ | ⟨-, runningGraph, -, heq⟩ <;>
        simp only [Graph.step, withStatus, heq] <;> exact ⟨rfl, rfl, rfl, rfl, rfl, rfl⟩
  | setParentGlContext context =>
      rw [Graph.step_setParentGlContext]
      split_ifs <;> exact ⟨rfl, rfl, rfl, rfl, rfl, rfl⟩
  | waitUntilDone =>
      simp only [Graph.step, withStatus, Graph.waitUntilDone_eq]
      exact ⟨rfl, rfl, rfl, rfl, rfl, rfl⟩
  | loadBinaryGraph | loadBinaryGraphBytes | addCallbackHandler | addCallbackWithHeaderHandler
  | addSurfaceOutput | setInputSidePacket => cases hcall
  | _ => exact ⟨rfl, rfl, rfl, rfl, rfl, rfl⟩

theorem Graph.loadParsed_graphLoaded
    (parsed : Except CalculatorGraphConfig CalculatorGraphConfig) {parseError : Status}
    (herror : parseError.ok = false) :
    (g.loadParsed parsed parseError).2.graphLoaded =
      (g.graphLoaded || (g.loadParsed parsed parseError).1.ok) := by
  cases parsed <;> simp [Graph.loadParsed, herror]

/-- `graph_loaded_` becomes true exactly by a load that returns OK, and stays true. -/
theorem Graph.step_graphLoaded (call : GraphCall) :
    (g.step tools env history call).2.graphLoaded =
      (g.graphLoaded || (call.isLoad && (g.step tools env history call).1.isOk)) := by
  by_cases hedits : call.editsConfig = false
  · have hload : call.isLoad = false := by
      cases call <;> simp_all [GraphCall.editsConfig, GraphCall.isLoad]
    simp [(Graph.step_sameConfig hedits).graphLoaded, hload]
  cases call with
  | loadBinaryGraph path =>
      simp only [Graph.step, withStatus, Graph.loadBinaryGraph, GraphCall.isLoad,
        CallResult.isOk, Bool.true_and]
      split
      · exact Graph.loadParsed_graphLoaded _ rfl
      · simp [*]
  | loadBinaryGraphBytes data => exact Graph.loadParsed_graphLoaded _ rfl
  | _ => simp_all [Graph.step, withStatus, GraphCall.isLoad, GraphCall.editsConfig,
      Graph.addCallbackHandler, Graph.addCallbackWithHeaderHandler, Graph.setInputSidePacket]

end Step

/-! ## The refinement relation -/

/-- The wrapper's fields against the intended configuration. -/
structure GraphRefines (g : Graph) (intended : IntendedConfig) : Prop where
  loaded_eq : g.graphLoaded = intended.loaded.isSome
  graph_eq : ∀ config, intended.loaded = some config →
    g.graph = config.addNodes (intended.sinks.map Sink.node)
  sinks_nil : intended.loaded = none → intended.sinks = []
  callbacks_eq : g.sidePacketsCallbacks = Sink.lookup true intended.sinks
  surfaces_eq : g.outputSurfaceSidePackets = Sink.lookup false intended.sinks
  sidePackets_eq : g.sidePackets = intended.sidePackets
  handlers_eq : g.callbackHandlers.length = intended.handlers
  sinks_read : ∀ sink ∈ intended.sinks, sink.node.ReadsSidePacket sink.name
  names_nodup : (intended.sinks.map Sink.name).Nodup
  handlers_java : ∀ sink ∈ intended.sinks, ∀ java, sink.javaCallback = some java →
    ∃ k, g.callbackHandlers[k]? = some ⟨java⟩ ∧
      (sink.packet = makePacket (.callback k) ∨ sink.packet = makePacket (.callbackWithHeader k))

theorem GraphRefines.create (mode : GraphInputStreamAddMode) :
    GraphRefines (Graph.create mode) IntendedConfig.create :=
  ⟨rfl, nofun, fun _ => rfl, rfl, rfl, rfl, rfl, nofun, List.nodup_nil, nofun⟩

section Refines

variable {g : Graph} {intended : IntendedConfig}

theorem GraphRefines.of_sameConfig {g' : Graph} (hsame : g'.SameConfig g)
    (hrefines : GraphRefines g intended) : GraphRefines g' intended := by
  obtain ⟨hloaded, hgraph, hcallbacks, hhandlers, hsurfaces, hsidePackets⟩ := hsame
  exact { hrefines with
    loaded_eq := hloaded ▸ hrefines.loaded_eq
    graph_eq := hgraph ▸ hrefines.graph_eq
    callbacks_eq := hcallbacks ▸ hrefines.callbacks_eq
    surfaces_eq := hsurfaces ▸ hrefines.surfaces_eq
    sidePackets_eq := hsidePackets ▸ hrefines.sidePackets_eq
    handlers_eq := hhandlers ▸ hrefines.handlers_eq
    handlers_java := hhandlers ▸ hrefines.handlers_java }

/-- A load: one whose parse returns OK comes while no sink has been added since the last
successful load, and one whose parse fails comes while no graph is loaded. -/
theorem GraphRefines.loadParsed (hrefines : GraphRefines g intended)
    (parsed : Except CalculatorGraphConfig CalculatorGraphConfig) {parseError : Status}
    (herror : parseError.ok = false)
    (hsinks : (g.loadParsed parsed parseError).1.ok → intended.sinks = [])
    (hunloaded : (g.loadParsed parsed parseError).1.ok = false → g.graphLoaded = false) :
    GraphRefines (g.loadParsed parsed parseError).2 (intended.load parsed) := by
  cases parsed with
  | ok config =>
      have hempty : intended.sinks = [] := hsinks rfl
      simp only [Graph.loadParsed, IntendedConfig.load]
      refine { hrefines with
        loaded_eq := rfl
        graph_eq := ?_
        sinks_nil := nofun
        callbacks_eq := by rw [hrefines.callbacks_eq, hempty]
        surfaces_eq := by rw [hrefines.surfaces_eq, hempty]
        sinks_read := nofun
        names_nodup := List.nodup_nil
        handlers_java := nofun }
      rintro _ ⟨⟩
      simp [CalculatorGraphConfig.addNodes]
  | error remains =>
      have hnone : intended.loaded = none := by
        simpa [hunloaded herror] using hrefines.loaded_eq.symm
      simp only [Graph.loadParsed, IntendedConfig.load]
      exact { hrefines with graph_eq := fun config hconfig => by simp [hnone] at hconfig }

/-- A name that the loaded config with the sinks does not read is no sink's name. -/
theorem GraphRefines.not_mem_names (hrefines : GraphRefines g intended)
    {config : CalculatorGraphConfig} (hloaded : intended.loaded = some config) {name : String}
    (hunread : ¬ g.graph.ReadsSidePacket name) : name ∉ intended.sinks.map Sink.name := by
  rw [List.mem_map]
  rintro ⟨sink, hsink, rfl⟩
  rw [hrefines.graph_eq config hloaded] at hunread
  exact hunread (CalculatorGraphConfig.readsSidePacket_addNodes_of_mem
    (List.mem_map_of_mem _ hsink) (hrefines.sinks_read sink hsink))

/-- Appending a sink of either kind under a name no node reads. -/
theorem GraphRefines.append_sink (hrefines : GraphRefines g intended)
    {config : CalculatorGraphConfig} (hloaded : intended.loaded = some config) (sink : Sink)
    (hsink : IsSink g.graph (sink.node, sink.name)) :
    g.graph.addNode sink.node = config.addNodes ((intended.sinks ++ [sink]).map Sink.node) ∧
      (∀ isCallback, isCallback ≠ sink.isCallback →
        Sink.lookup isCallback (intended.sinks ++ [sink]) =
          Sink.lookup isCallback intended.sinks) ∧
      Sink.lookup sink.isCallback (intended.sinks ++ [sink]) =
        (Sink.lookup sink.isCallback intended.sinks).emplace sink.name sink.packet ∧
      (∀ other ∈ intended.sinks ++ [sink], other.node.ReadsSidePacket other.name) ∧
      ((intended.sinks ++ [sink]).map Sink.name).Nodup := by
  have hfresh := hrefines.not_mem_names hloaded hsink.2
  refine ⟨by simp [hrefines.graph_eq config hloaded,
      CalculatorGraphConfig.addNodes_append_singleton],
    fun isCallback hkind => Sink.lookup_append_of_other_kind (Ne.symm hkind),
    Sink.lookup_append_of_kind hfresh, ?_, ?_⟩
  · simp only [List.mem_append, List.mem_singleton]
    rintro other (hother | rfl)
    · exact hrefines.sinks_read other hother
    · exact hsink.1
  · rw [List.map_append, List.map_singleton]
    exact hrefines.names_nodup.append (List.nodup_singleton _) (List.disjoint_singleton.2 hfresh)

/-- A callback registration appends the handler of its Java callback at the index whose
callback it binds. -/
theorem GraphRefines.registerCallback (hrefines : GraphRefines g intended)
    {addCalculator : CalculatorGraphConfig → Node × String}
    (hsink : ∀ config, IsSink config (addCalculator config)) {callback : Nat → Payload}
    (hcallback : callback = .callback ∨ callback = .callbackWithHeader) (javaCallback : Nat) :
    GraphRefines (g.addCallbackHandlerWith addCalculator callback javaCallback).2
      (intended.registerCallback addCalculator callback javaCallback) := by
  rw [Graph.addCallbackHandlerWith, IntendedConfig.registerCallback]
  cases hloaded : intended.loaded with
  | none => simpa [hrefines.loaded_eq, hloaded] using hrefines
  | some config =>
      have hgraph := hrefines.graph_eq config hloaded
      simp only [hrefines.loaded_eq, hloaded, Option.isSome_some, if_true, ← hgraph]
      obtain ⟨hgraph', hother, hkind, hread, hnodup⟩ := hrefines.append_sink hloaded
        ⟨_, _, makePacket (callback intended.handlers), some javaCallback⟩ (hsink g.graph)
      refine ⟨by simp [hloaded], fun _ h => by cases h; exact hgraph', by simp, ?_,
        (hother false (by simp [Sink.isCallback])).symm ▸ hrefines.surfaces_eq,
        hrefines.sidePackets_eq, by simp [hrefines.handlers_eq], hread, hnodup, ?_⟩
      · rw [hrefines.callbacks_eq, hrefines.handlers_eq]
        exact hkind.symm
      · simp only [List.mem_append, List.mem_singleton]
        rintro sink (hold | rfl) java hjava
        · obtain ⟨k, hk, hpacket⟩ := hrefines.handlers_java sink hold java hjava
          exact ⟨k, by rw [List.getElem?_append_left (List.getElem?_eq_some_iff.mp hk).1, hk],
            hpacket⟩
        · cases hjava
          refine ⟨g.callbackHandlers.length, List.getElem?_concat_length _ _, ?_⟩
          rw [hrefines.handlers_eq]
          rcases hcallback with rfl | rfl
          · exact .inl rfl
          · exact .inr rfl

theorem GraphRefines.registerSurface (hrefines : GraphRefines g intended) (tools : GraphTools)
    (outputStreamName : String) (holder : Nat) :
    GraphRefines (g.addSurfaceOutput tools outputStreamName holder).2
      (intended.registerSurface tools outputStreamName holder) := by
  rw [Graph.addSurfaceOutput, IntendedConfig.registerSurface]
  cases hloaded : intended.loaded with
  | none => simpa [hrefines.loaded_eq, hloaded] using hrefines
  | some config =>
      have hgraph := hrefines.graph_eq config hloaded
      simp only [hrefines.loaded_eq, hloaded, Option.isSome_some, if_true, ← hgraph]
      obtain ⟨hgraph', hother, hkind, hread, hnodup⟩ := hrefines.append_sink hloaded
        ⟨_, _, makePacket (.surfaceHolder holder), none⟩
        (isSink_surfaceSink tools outputStreamName g.graph)
      refine ⟨by simp [hloaded], fun _ h => by cases h; exact hgraph', by simp,
        (hother true (by simp [Sink.isCallback])).symm ▸ hrefines.callbacks_eq, ?_,
        hrefines.sidePackets_eq, hrefines.handlers_eq, hread, hnodup, ?_⟩
      · rw [hrefines.surfaces_eq]
        exact hkind.symm
      · simp only [List.mem_append, List.mem_singleton]
        rintro sink (hold | rfl) java hjava
        · exact hrefines.handlers_java sink hold java hjava
        · cases hjava

/-- One call keeps the refinement, provided a load whose parse returns OK comes while no
sink has been added since the last successful load, and a parse that fails comes while no
graph is loaded. -/
theorem GraphRefines.step {tools : GraphTools} {env : Environment} {history : List GraphCall}
    (hrefines : GraphRefines g intended) (call : GraphCall)
    (hsinks : call.isLoad → (g.step tools env history call).1.isOk → intended.sinks = [])
    (hunloaded : call.parses env history → (g.step tools env history call).1.isOk = false →
      g.graphLoaded = false) :
    GraphRefines (g.step tools env history call).2 (intended.step tools env history call) := by
  by_cases hedits : call.editsConfig = false
  · have hsame : intended.step tools env history call = intended := by
      cases call <;> simp_all [GraphCall.editsConfig, IntendedConfig.step]
    rw [hsame]
    exact hrefines.of_sameConfig (Graph.step_sameConfig hedits)
  cases call with
  | loadBinaryGraph path =>
      by_cases hcontents : (env.getContents history path).1.ok
      · simp only [Graph.step, withStatus, Graph.loadBinaryGraph, IntendedConfig.step,
          GraphCall.parses, GraphCall.isLoad, CallResult.isOk, hcontents, if_true,
          forall_const] at hsinks hunloaded ⊢
        exact hrefines.loadParsed _ rfl hsinks hunloaded
      · simp only [Graph.step, withStatus, Graph.loadBinaryGraph, IntendedConfig.step,
          hcontents, if_false]
        exact hrefines
  | loadBinaryGraphBytes data =>
      simp only [Graph.step, withStatus, Graph.loadBinaryGraphBytes, IntendedConfig.step,
        GraphCall.parses, GraphCall.isLoad, CallResult.isOk, forall_const] at hsinks hunloaded ⊢
      exact hrefines.loadParsed _ rfl hsinks hunloaded
  | addCallbackHandler stream javaCallback =>
      exact hrefines.registerCallback (tools.addCallbackCalculator_sink stream) (.inl rfl)
        javaCallback
  | addCallbackWithHeaderHandler stream javaCallback =>
      exact hrefines.registerCallback (tools.addCallbackWithHeaderCalculator_sink stream stream)
        (.inr rfl) javaCallback
  | addSurfaceOutput stream => exact hrefines.registerSurface tools stream _
  | setInputSidePacket name packet =>
      refine { hrefines with sidePackets_eq := ?_ }
      simp [Graph.step, Graph.setInputSidePacket, IntendedConfig.step, hrefines.sidePackets_eq]
  | _ => simp [GraphCall.editsConfig] at hedits

/-- The refinement gives what the configuration is to satisfy. -/
theorem GraphRefines.consistent (hrefines : GraphRefines g intended) :
    ConfigConsistent g intended where
  loaded_eq := hrefines.loaded_eq
  graph_eq := hrefines.graph_eq
  callbacks sink hsink hcallback := by
    have hlookup := Sink.lookup_of_mem hrefines.names_nodup hsink
    rw [hcallback] at hlookup
    simp [Graph.createCombinedSidePackets, hrefines.callbacks_eq, hlookup]
  surfaces sink hsink hsurface hnone := by
    have hlookup := Sink.lookup_of_mem hrefines.names_nodup hsink
    rw [hsurface] at hlookup
    have hcallbacks : Sink.lookup true intended.sinks sink.name = none :=
      Sink.lookup_eq_none fun other hother hkind hname => by
        rw [List.inj_on_of_nodup_map hrefines.names_nodup hother hsink hname, hsurface] at hkind
        cases hkind
    simp [Graph.createCombinedSidePackets, hrefines.callbacks_eq, hrefines.sidePackets_eq,
      hrefines.surfaces_eq, hcallbacks, hnone, hlookup]
  sidePackets name packet hpacket hname := by
    have hcallbacks : Sink.lookup true intended.sinks name = none :=
      Sink.lookup_eq_none fun sink hsink hkind => hname sink hsink hkind
    simp [Graph.createCombinedSidePackets, hrefines.callbacks_eq, hrefines.sidePackets_eq,
      hcallbacks, hpacket]
  callbacks_read name hname := by
    rw [hrefines.callbacks_eq] at hname
    obtain ⟨sink, hsink, rfl⟩ := Sink.exists_of_lookup hname
    cases hloaded : intended.loaded with
    | none =>
        rw [hrefines.sinks_nil hloaded] at hsink
        cases hsink
    | some config =>
        rw [hrefines.graph_eq config hloaded]
        exact CalculatorGraphConfig.readsSidePacket_addNodes_of_mem
          (List.mem_map_of_mem _ hsink) (hrefines.sinks_read sink hsink)
  handlers := hrefines.handlers_java

end Refines

/-! ## Every run -/

section Run

variable {tools : GraphTools} {env : Environment}

/-- What a call does to the sinks: a load forgets them or keeps them, and only a
registration while a config is loaded appends one. -/
theorem IntendedConfig.step_sinks {history : List GraphCall} (intended : IntendedConfig)
    (call : GraphCall) :
    (intended.step tools env history call).sinks = [] ∨
      (intended.step tools env history call).sinks = intended.sinks ∨
      (call.isRegistration ∧ intended.loaded.isSome) := by
  have hload : ∀ parsed, (intended.load parsed).sinks = [] ∨
      (intended.load parsed).sinks = intended.sinks := by
    intro parsed
    cases parsed
    · exact .inr rfl
    · exact .inl rfl
  cases call with
  | loadBinaryGraph path =>
      simp only [IntendedConfig.step]
      split
      · exact (hload _).imp_right .inl
      · exact .inr (.inl rfl)
  | loadBinaryGraphBytes data => exact (hload _).imp_right .inl
  | addCallbackHandler | addCallbackWithHeaderHandler | addSurfaceOutput =>
      cases hloaded : intended.loaded
      · simp [IntendedConfig.step, IntendedConfig.registerCallback,
          IntendedConfig.registerSurface, hloaded]
      · simp [GraphCall.isRegistration]
  | _ => exact .inr (.inl rfl)

theorem IntendedConfig.run_append_singleton (history : List GraphCall)
    (intended : IntendedConfig) (calls : List GraphCall) (call : GraphCall) :
    IntendedConfig.run tools env history intended (calls ++ [call]) =
      (IntendedConfig.run tools env history intended calls).step tools env (history ++ calls)
        call := by
  induction calls generalizing history intended with
  | nil => simp [IntendedConfig.run]
  | cons first calls ih => simp [IntendedConfig.run, ih]

/-- The intended configuration of the calls a session made. -/
def Session.intended (tools : GraphTools) (env : Environment) (session : Session) :
    IntendedConfig :=
  IntendedConfig.create.run tools env [] (session.transcript.map Prod.fst)

/-- What holds of the configuration fields after every run that reloads safely:
`graph_loaded_` records whether a load returned OK, the wrapper refines the intended
configuration of the calls it made, and sinks remain only after a registration made while a
graph was loaded. -/
structure ConfigInv (tools : GraphTools) (env : Environment) (session : Session) : Prop where
  loaded_iff : session.state.graphLoaded = true ↔ Loaded session.transcript
  refines : GraphRefines session.state (session.intended tools env)
  registered : (session.intended tools env).sinks ≠ [] → RegisteredWhileLoaded session.transcript

theorem ConfigInv.create (mode : GraphInputStreamAddMode) :
    ConfigInv tools env (Session.create mode) where
  loaded_iff := by simp [Session.create, Graph.create, Loaded]
  refines := GraphRefines.create mode
  registered hsinks := absurd rfl hsinks

/-- Every call keeps the invariant, provided the transcript it leaves reloads safely. -/
theorem ConfigInv.step {session : Session} (hinv : ConfigInv tools env session)
    (call : GraphCall) (hsafe : ReloadsSafely env (session.step tools env call).transcript) :
    ConfigInv tools env (session.step tools env call) := by
  refine Session.step_induction call (fun hrunning => ?_) hinv
  rw [Session.step_of_running hrunning] at hsafe ⊢
  have hintended : ∀ state : Graph, Session.intended tools env ⟨state, session.transcript ++
      [(call, (session.state.step tools env (session.transcript.map Prod.fst) call).1)]⟩ =
      (session.intended tools env).step tools env (session.transcript.map Prod.fst) call :=
    fun _ => by simp [Session.intended, IntendedConfig.run_append_singleton]
  obtain ⟨hreload, hparse⟩ := hsafe session.transcript _ [] rfl
  refine ⟨?_, ?_, fun hsinks => ?_⟩
  · simp only [Graph.step_graphLoaded, Bool.or_eq_true, Bool.and_eq_true, hinv.loaded_iff,
      Loaded.append_singleton]
  · rw [hintended]
    refine hinv.refines.step call (fun hload hok => ?_) fun hparses hnot => ?_
    · by_contra hsinks
      exact hreload hload hok (hinv.registered hsinks)
    · exact Bool.eq_false_iff.mpr fun hloaded => hparse hparses hnot (hinv.loaded_iff.mp hloaded)
  · rw [hintended] at hsinks
    rcases IntendedConfig.step_sinks _ call with hnil | hsame | ⟨hregistration, hloaded⟩
    · exact absurd hnil hsinks
    · exact (hinv.registered (hsame ▸ hsinks)).append
    · refine ⟨session.transcript, _, [], rfl, hregistration, ?_⟩
      rw [← hinv.loaded_iff, hinv.refines.loaded_eq]
      exact hloaded

/-- Every run that reloads safely keeps the invariant. -/
theorem ConfigInv.run {session : Session} (hinv : ConfigInv tools env session)
    {calls : List GraphCall} (hsafe : ReloadsSafely env (session.run tools env calls).transcript) :
    ConfigInv tools env (session.run tools env calls) := by
  induction calls using List.reverseRecOn with
  | nil => exact hinv
  | append_singleton calls call ih =>
      rw [Session.run_append_singleton] at hsafe ⊢
      refine (ih ?_).step call hsafe
      obtain ⟨rest, hrest⟩ :=
        @Session.step_transcript tools env (session.run tools env calls) call
      rw [hrest] at hsafe
      exact hsafe.of_append

end Run

/-! ## The configuration over every run -/

end MediaPipe.Jni
