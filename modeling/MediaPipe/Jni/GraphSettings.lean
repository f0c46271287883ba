import MediaPipe.Jni.Lifecycle

/-!
# What `StartRunningGraph` hands a new graph

Besides the configuration, `StartRunningGraph` reads three fields of `android::Graph`:
`graph_input_stream_add_mode_`, `gpu_resources_` and `service_packets_`.  Over every
sequence of calls on a new `Graph` that has not aborted the process they hold what the calls
asked for: the mode of the last `SetGraphInputStreamAddMode`, the context of the first
`SetParentGlContext` (every later one returns `AlreadyExists` and changes nothing; the first
aborts the process when `GpuResources::Create` fails or the build has no GPU support), and for
each service the packet of its last `SetServicePacket`, in a `std::map` whose keys stay
strictly increasing.  A
`StartRunningGraph` that returns OK therefore gives the new `CalculatorGraph` that mode, sets
that context first, and then each service once, in increasing order, with its last packet.
-/

namespace MediaPipe.Jni

/-- The mode a call sets, if it is `SetGraphInputStreamAddMode`. -/
def GraphCall.setsAddMode : GraphCall → Option GraphInputStreamAddMode
  | .setGraphInputStreamAddMode mode => some mode
  | _ => none

/-- The context a call passes, if it is `SetParentGlContext`. -/
def GraphCall.setsParentGlContext : GraphCall → Option Nat
  | .setParentGlContext context => some context
  | _ => none

/-- The packet a call sets for `service`, if it is `SetServicePacket` of that service. -/
def GraphCall.setsServicePacket (service : Nat) : GraphCall → Option Packet
  | .setServicePacket key packet => if key = service then some packet else none
  | _ => none

/-- The calls that write one of the three fields. -/
def GraphCall.editsSettings : GraphCall → Bool
  | .setGraphInputStreamAddMode _ | .setParentGlContext _ | .setServicePacket _ _ => true
  | _ => false

/-- The mode of the last `SetGraphInputStreamAddMode` among `calls`, or `initial`. -/
def lastAddMode (initial : GraphInputStreamAddMode) (calls : List GraphCall) :
    GraphInputStreamAddMode :=
  (calls.reverse.findSome? GraphCall.setsAddMode).getD initial

/-- The context of the first `SetParentGlContext` among `calls`. -/
def firstParentGlContext (calls : List GraphCall) : Option Nat :=
  calls.findSome? GraphCall.setsParentGlContext

/-- The packet of the last `SetServicePacket` of `service` among `calls`. -/
def lastServicePacket (calls : List GraphCall) (service : Nat) : Option Packet :=
  calls.reverse.findSome? (GraphCall.setsServicePacket service)

/-- The three fields of `g` hold what `calls`, made on a new `Graph` of mode `initial`,
asked for, and `service_packets_` has strictly increasing keys. -/
structure SettingsOf (initial : GraphInputStreamAddMode) (calls : List GraphCall)
    (g : Graph) : Prop where
  addMode_eq : g.graphInputStreamAddMode = lastAddMode initial calls
  gpuResources_eq : g.gpuResources = firstParentGlContext calls
  keys_sorted : (g.servicePackets.map Prod.fst).Sorted (· < ·)
  lookup_eq : ∀ service, g.servicePackets.lookup service = lastServicePacket calls service

/-! ## The calls so far -/

section Calls

variable {calls : List GraphCall} {call : GraphCall}

theorem lastAddMode_append_singleton (initial : GraphInputStreamAddMode) :
    lastAddMode initial (calls ++ [call]) = call.setsAddMode.getD (lastAddMode initial calls) := by
  cases hsets : call.setsAddMode <;> simp [lastAddMode, List.findSome?_cons, hsets]

theorem firstParentGlContext_append_singleton :
    firstParentGlContext (calls ++ [call]) =
      (firstParentGlContext calls).or call.setsParentGlContext := by
  cases hsets : call.setsParentGlContext <;>
    simp [firstParentGlContext, List.findSome?_append, List.findSome?_cons, hsets]

theorem lastServicePacket_append_singleton (service : Nat) :
    lastServicePacket (calls ++ [call]) service =
      (call.setsServicePacket service).or (lastServicePacket calls service) := by
  cases hsets : call.setsServicePacket service <;>
    simp [lastServicePacket, List.findSome?_cons, hsets]

theorem GraphCall.sets_none_of_editsSettings (hcall : call.editsSettings = false) :
    call.setsAddMode = none ∧ call.setsParentGlContext = none ∧
      ∀ service, call.setsServicePacket service = none := by
  cases call <;> simp_all [GraphCall.editsSettings, GraphCall.setsAddMode,
    GraphCall.setsParentGlContext, GraphCall.setsServicePacket]

end Calls

/-! ## `service_packets_` as a `std::map` -/

section ServiceMap

variable {service : Nat} {packet : Packet}

theorem lookup_cons_eq_ite (entries : List (Nat × Packet)) (key other : Nat) (old : Packet) :
    ((other, old) :: entries).lookup key =
      if key = other then some old else entries.lookup key := by
  rw [List.lookup_cons]
  cases hbeq : key == other <;> simp_all

theorem lookup_assignServicePacket (entries : List (Nat × Packet)) (key : Nat) :
    (assignServicePacket service packet entries).lookup key =
      if key = service then some packet else entries.lookup key := by
  induction entries with
  | nil => simp [assignServicePacket, lookup_cons_eq_ite]
  | cons entry entries ih =>
      obtain ⟨other, old⟩ := entry
      rcases lt_trichotomy service other with hlt | rfl | hgt
      · simp only [assignServicePacket, if_pos hlt, lookup_cons_eq_ite]
      · by_cases hkey : key = service <;> simp [assignServicePacket, lookup_cons_eq_ite, hkey]
      · rw [assignServicePacket, if_neg (not_lt.mpr hgt.le), if_neg hgt.ne', lookup_cons_eq_ite,
          ih, lookup_cons_eq_ite]
        by_cases hkey : key = service
        · simp [hkey, hgt.ne']
        · simp [hkey]

theorem mem_keys_assignServicePacket (entries : List (Nat × Packet)) (key : Nat) :
    key ∈ (assignServicePacket service packet entries).map Prod.fst ↔
      key = service ∨ key ∈ entries.map Prod.fst := by
  induction entries with
  | nil => simp [assignServicePacket]
  | cons entry entries ih =>
      simp only [assignServicePacket]
      split_ifs with hlt heq
      · simp
      · simp [heq]
      · simp only [List.map_cons, List.mem_cons, ih]
        exact or_left_comm

/-- Assigning keeps the keys strictly increasing. -/
theorem sorted_assignServicePacket {entries : List (Nat × Packet)}
    (hsorted : (entries.map Prod.fst).Sorted (· < ·)) :
    ((assignServicePacket service packet entries).map Prod.fst).Sorted (· < ·) := by
  induction entries with
  | nil => simp [assignServicePacket]
  | cons entry entries ih =>
      rw [List.map_cons, List.sorted_cons] at hsorted
      simp only [assignServicePacket]
      split_ifs with hlt heq
      · simp only [List.map_cons, List.sorted_cons, List.mem_cons]
        exact ⟨fun key hkey => hkey.elim (· ▸ hlt) (lt_trans hlt ∘ hsorted.1 key),
          hsorted.1, hsorted.2⟩
      · simpa [heq] using hsorted
      · refine List.sorted_cons.mpr ⟨fun key hkey => ?_, ih hsorted.2⟩
        rcases (mem_keys_assignServicePacket entries key).mp hkey with rfl | hmem
        · omega
        · exact hsorted.1 key hmem

end ServiceMap

/-! ## One call -/

section Step

variable {tools : GraphTools} {env : Environment} {history : List GraphCall} {g : Graph}

/-- The three fields of two wrappers agree. -/
structure Graph.SameSettings (g' g : Graph) : Prop where
  addMode : g'.graphInputStreamAddMode = g.graphInputStreamAddMode
  gpuResources : g'.gpuResources = g.gpuResources
  servicePackets : g'.servicePackets = g.servicePackets

/-- A call that writes none of the three fields keeps them. -/
theorem Graph.step_sameSettings {call : GraphCall} (hcall : call.editsSettings = false) :
    (g.step tools env history call).2.SameSettings g := by
  cases call with
  | loadBinaryGraph path =>
      simp only [Graph.step, withStatus, Graph.loadBinaryGraph]
      split
      · cases tools.parseFromString _ <;> exact ⟨rfl, rfl, rfl⟩
      · exact ⟨rfl, rfl, rfl⟩
  | loadBinaryGraphBytes data =>
      simp only [Graph.step, withStatus, Graph.loadBinaryGraphBytes]
      cases tools.parseFromString data <;> exact ⟨rfl, rfl, rfl⟩
  | addCallbackHandler | addCallbackWithHeaderHandler =>
      simp only [Graph.step, withStatus, Graph.addCallbackHandler,
        Graph.addCallbackWithHeaderHandler, Graph.addCallbackHandlerWith]
      split <;> exact ⟨rfl, rfl, rfl⟩
  | addSurfaceOutput stream =>
      simp only [Graph.step, Graph.addSurfaceOutput]
      split <;> exact ⟨rfl, rfl, rfl⟩
  | startRunningGraph =>
      rcases Graph.startRunningGraph_cases (env.calculatorGraph history) g with
        ⟨-, heq⟩ | ⟨-, status, -, heq⟩ | ⟨-, runningGraph, -, heq⟩ <;>
        simp only [Graph.step, withStatus, heq] <;> exact ⟨rfl, rfl, rfl⟩
  | waitUntilDone =>
      simp only [Graph.step, withStatus, Graph.waitUntilDone_eq]
      exact ⟨rfl, rfl, rfl⟩
  | setGraphInputStreamAddMode | setParentGlContext | setServicePacket => cases hcall
  | _ => exact ⟨rfl, rfl, rfl⟩

/-- Each call that returns keeps the three fields what the calls so far asked for. -/
theorem SettingsOf.step {initial : GraphInputStreamAddMode} {calls : List GraphCall}
    (hsettings : SettingsOf initial calls g) (call : GraphCall)
    (hreturns : (g.step tools env history call).1 ≠ .aborted) :
    SettingsOf initial (calls ++ [call]) (g.step tools env history call).2 := by
  obtain ⟨hmode, hgpu, hsorted, hlookup⟩ := hsettings
  cases hedits : call.editsSettings
  · obtain ⟨hsame, hgpuSame, hservices⟩ := @Graph.step_sameSettings tools env history g _ hedits
    obtain ⟨hnoMode, hnoContext, hnoService⟩ := GraphCall.sets_none_of_editsSettings hedits
    refine ⟨?_, ?_, hservices ▸ hsorted, fun service => ?_⟩
    · rw [hsame, lastAddMode_append_singleton, hnoMode, hmode]
      rfl
    · rw [hgpuSame, firstParentGlContext_append_singleton, hnoContext, hgpu, Option.or_none]
    · rw [hservices, lastServicePacket_append_singleton, hnoService, hlookup]
      rfl
  cases call with
  | setGraphInputStreamAddMode mode =>
      refine ⟨by rw [lastAddMode_append_singleton]; rfl, by
        rw [firstParentGlContext_append_singleton, ← hgpu]
        exact Option.or_none.symm, hsorted, fun service => ?_⟩
      rw [lastServicePacket_append_singleton, ← hlookup]
      rfl
  | setParentGlContext context =>
      have hfields : let next := (g.step tools env history (.setParentGlContext context)).2
          next.graphInputStreamAddMode = g.graphInputStreamAddMode ∧
            next.gpuResources = g.gpuResources.or (some context) ∧
            next.servicePackets = g.servicePackets := by
        rw [Graph.step_setParentGlContext] at hreturns ⊢
        split_ifs at hreturns ⊢ with hset
        · obtain ⟨resources, hresources⟩ := Option.isSome_iff_exists.mp hset
          exact ⟨rfl, by rw [hresources]; rfl, rfl⟩
        · exact absurd rfl hreturns
        · exact ⟨rfl, by rw [Option.not_isSome_iff_eq_none.mp hset, Option.none_or], rfl⟩
      obtain ⟨hsame, hgpuNext, hservices⟩ := hfields
      refine ⟨by rw [hsame, lastAddMode_append_singleton, ← hmode]; rfl, by
        rw [hgpuNext, firstParentGlContext_append_singleton, hgpu]; rfl, hservices ▸ hsorted,
        fun service => ?_⟩
      rw [hservices, lastServicePacket_append_singleton, ← hlookup]
      rfl
  | setServicePacket key packet =>
      refine ⟨by rw [lastAddMode_append_singleton, ← hmode]; rfl, by
        rw [firstParentGlContext_append_singleton, ← hgpu]
        exact Option.or_none.symm, sorted_assignServicePacket hsorted, fun service => ?_⟩
      show (assignServicePacket key packet g.servicePackets).lookup service = _
      rw [lookup_assignServicePacket, lastServicePacket_append_singleton, ← hlookup]
      by_cases hkey : service = key <;> simp [GraphCall.setsServicePacket, hkey, Ne.symm]
  | _ => cases hedits

end Step

/-! ## Every run -/

section Run

variable {tools : GraphTools} {env : Environment}

theorem SettingsOf.create (initial : GraphInputStreamAddMode) :
    SettingsOf initial [] (Graph.create initial) :=
  ⟨rfl, rfl, List.sorted_nil, fun _ => rfl⟩

/-- Over every run on a new `Graph` in which no call aborted the process, the three fields
hold what the calls asked for. -/
theorem SettingsOf.run (initial : GraphInputStreamAddMode) {calls : List GraphCall}
    (hrunning : ((Session.create initial).run tools env calls).aborted = false) :
    SettingsOf initial calls ((Session.create initial).run tools env calls).state := by
  induction calls using List.reverseRecOn with
  | nil => exact SettingsOf.create initial
  | append_singleton calls call ih =>
      rw [Session.run_append_singleton] at hrunning ⊢
      cases haborted : ((Session.create initial).run tools env calls).aborted
      · rw [Session.aborted_step haborted, beq_eq_false_iff_ne] at hrunning
        rw [Session.step_of_running haborted]
        exact (ih haborted).step call hrunning
      · rw [Session.step_of_aborted haborted] at hrunning
        exact absurd haborted (by simp [hrunning])

/-- Over every run on a new `Graph` in which no call aborted the process,
`SetParentGlContext` returns `AlreadyExists` when a `SetParentGlContext` came before it;
otherwise it aborts the process in a build without GPU support or when
`GpuResources::Create` fails, and returns OK when it succeeds. -/
theorem Session.run_setParentGlContext (initial : GraphInputStreamAddMode)
    (calls : List GraphCall) (context : Nat)
    (hrunning : ((Session.create initial).run tools env calls).aborted = false) :
    ((Session.create initial).run tools env (calls ++ [.setParentGlContext context])).transcript =
      ((Session.create initial).run tools env calls).transcript ++
        [(.setParentGlContext context,
          if (firstParentGlContext calls).isSome then
            .status (alreadyExistsError parentGlContextMessage)
          else if tools.disableGpu || !(env.createGpuResources calls context).ok then .aborted
          else .status okStatus)] := by
  have hcalls : ((Session.create initial).run tools env calls).transcript.map Prod.fst = calls :=
    by simpa [Session.create] using Session.run_transcript_calls hrunning
  rw [Session.run_append_singleton, Session.step_of_running hrunning,
    Graph.step_setParentGlContext, hcalls, (SettingsOf.run initial hrunning).gpuResources_eq]
  split_ifs <;> rfl

/-- A first `SetParentGlContext` whose `GpuResources::Create` fails aborts the process. -/
theorem Session.run_setParentGlContext_of_failed_create :
    let env : Environment := ⟨fun _ _ => (okStatus, []), fun _ => 0, fun _ _ => okStatus,
      fun _ _ _ => okStatus, fun _ _ _ => okStatus, fun _ _ => internalError ""⟩
    ((Session.create .waitTillNotFull).run exampleTools env []).aborted = false ∧
      ((Session.create .waitTillNotFull).run exampleTools env
          ([] ++ [.setParentGlContext 5])).transcript =
        ((Session.create .waitTillNotFull).run exampleTools env []).transcript ++
          [(.setParentGlContext 5,
            if (firstParentGlContext []).isSome then
              .status (alreadyExistsError parentGlContextMessage)
            else if exampleTools.disableGpu || !(env.createGpuResources [] 5).ok then .aborted
            else .status okStatus)] := by
  intro env
  exact ⟨rfl, Session.run_setParentGlContext .waitTillNotFull [] 5 rfl⟩

end Run

end MediaPipe.Jni
