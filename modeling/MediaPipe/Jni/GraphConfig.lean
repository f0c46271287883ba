import MediaPipe.Status

/-!
# Graph configs, packets and side-packet maps

What `android::Graph` keeps of a `CalculatorGraphConfig` (its nodes, each with the side
packets it reads), the packets it creates and stores, and its `std::map`s from names to
packets.  The `tool::` helpers that edit a config and the protobuf parser are not among
the modelled sources: `GraphTools` takes them as parameters, with the property the
wrapper relies on, that a generated side-packet name is read by no node of the config it
was generated for.
-/

namespace MediaPipe.Jni

/-- The bytes of a serialized config. -/
abbrev Bytes := List UInt8

/-- What a packet holds, as far as the wrapper tells packets apart. -/
inductive Payload where
  /-- `MakePacket<std::function<void(const Packet&)>>(handler->CreateCallback())` for
  entry `handler` of `callback_handlers_`. -/
  | callback (handler : Nat)
  | callbackWithHeader (handler : Nat)
  /-- `AdoptAsUniquePtr(new EglSurfaceHolder())` for the holder at address `holder`. -/
  | surfaceHolder (holder : Nat)
  /-- A packet made on the Java side. -/
  | java (handle : Nat)
  deriving DecidableEq, Repr

structure Packet where
  payload : Payload
  /-- `none` is `Timestamp::Unset()`. -/
  timestamp : Option Int
  deriving DecidableEq, Repr

/-- `MakePacket<T>(value)`: no timestamp. -/
def makePacket (payload : Payload) : Packet := ⟨payload, none⟩

/-- `std::move(packet).At(Timestamp(timestamp))`. -/
def Packet.atTimestamp (packet : Packet) (timestamp : Int) : Packet :=
  { packet with timestamp := some timestamp }

/-- One `TAG:name` entry of a node's `input_side_packet`. -/
structure TagName where
  tag : String
  name : String
  deriving DecidableEq, Repr

structure Node where
  name : String
  calculator : String
  inputStreams : List String
  inputSidePackets : List TagName
  deriving DecidableEq, Repr

structure CalculatorGraphConfig where
  nodes : List Node
  deriving DecidableEq, Repr

/-- `config.add_node()`, filled in with `node`. -/
def CalculatorGraphConfig.addNode (config : CalculatorGraphConfig) (node : Node) :
    CalculatorGraphConfig :=
  ⟨config.nodes ++ [node]⟩

def Node.ReadsSidePacket (node : Node) (name : String) : Prop :=
  ∃ entry ∈ node.inputSidePackets, entry.name = name

instance (node : Node) (name : String) : Decidable (node.ReadsSidePacket name) :=
  inferInstanceAs (Decidable (∃ entry ∈ node.inputSidePackets, entry.name = name))

def CalculatorGraphConfig.ReadsSidePacket (config : CalculatorGraphConfig)
    (name : String) : Prop :=
  ∃ node ∈ config.nodes, node.ReadsSidePacket name

instance (config : CalculatorGraphConfig) (name : String) :
    Decidable (config.ReadsSidePacket name) :=
  inferInstanceAs (Decidable (∃ node ∈ config.nodes, node.ReadsSidePacket name))

@[simp] theorem CalculatorGraphConfig.readsSidePacket_addNode
    {config : CalculatorGraphConfig} {node : Node} {name : String} :
    (config.addNode node).ReadsSidePacket name ↔
      config.ReadsSidePacket name ∨ node.ReadsSidePacket name := by
  simp [CalculatorGraphConfig.ReadsSidePacket, CalculatorGraphConfig.addNode, or_and_right,
    exists_or]

/-- A `std::map<std::string, Packet>`. -/
abbrev SideMap := String → Option Packet

/-- `map.emplace(key, value)`: inserts only when `key` is absent. -/
def SideMap.emplace (map : SideMap) (key : String) (value : Packet) : SideMap :=
  fun name => if name = key ∧ map name = none then some value else map name

theorem SideMap.emplace_of_ne {map : SideMap} {key name : String} (value : Packet)
    (hne : name ≠ key) : map.emplace key value name = map name := by
  simp [SideMap.emplace, hne]

theorem SideMap.emplace_of_none {map : SideMap} {key : String} (value : Packet)
    (hnone : map key = none) : map.emplace key value key = some value := by
  simp [SideMap.emplace, hnone]

theorem SideMap.emplace_of_some {map : SideMap} {key : String} {old : Packet}
    (value : Packet) (hsome : map key = some old) : map.emplace key value = map := by
  funext name
  by_cases hname : name = key
  · subst hname
    simp [SideMap.emplace, hsome]
  · exact SideMap.emplace_of_ne value hname

/-- `service_packets_[&service] = packet` on a `std::map` keyed by address, kept in key
order. -/
def assignServicePacket (service : Nat) (packet : Packet) :
    List (Nat × Packet) → List (Nat × Packet)
  | [] => [(service, packet)]
  | (key, old) :: rest =>
      if service < key then (service, packet) :: (key, old) :: rest
      else if service = key then (service, packet) :: rest
      else (key, old) :: assignServicePacket service packet rest

/-- `sink` is a node to append to `config` together with a side-packet name that the node
reads and no node of `config` reads. -/
def IsSink (config : CalculatorGraphConfig) (sink : Node × String) : Prop :=
  sink.1.ReadsSidePacket sink.2 ∧ ¬ config.ReadsSidePacket sink.2

/-- The collaborators the wrapper calls to parse configs and to append nodes to them. -/
structure GraphTools where
  /-- `graph_.ParseFromString(bytes)`: the message is cleared, then parsed; on failure it
  holds what was parsed before the error. -/
  parseFromString : Bytes → Except CalculatorGraphConfig CalculatorGraphConfig
  getUnusedNodeName : CalculatorGraphConfig → String → String
  getUnusedSidePacketName : CalculatorGraphConfig → String → String
  getUnusedSidePacketName_unused :
    ∀ (config : CalculatorGraphConfig) stem,
      ¬ config.ReadsSidePacket (getUnusedSidePacketName config stem)
  /-- `tool::AddCallbackCalculator(stream, &config, &side_packet_name, true)`: the node it
  appends and the side-packet name it returns. -/
  addCallbackCalculator : String → CalculatorGraphConfig → Node × String
  addCallbackCalculator_sink :
    ∀ stream config, IsSink config (addCallbackCalculator stream config)
  /-- `tool::AddCallbackWithHeaderCalculator(stream, header, &config, &name, true)`. -/
  addCallbackWithHeaderCalculator : String → String → CalculatorGraphConfig → Node × String
  addCallbackWithHeaderCalculator_sink :
    ∀ stream header config, IsSink config (addCallbackWithHeaderCalculator stream header config)
  /-- The `kGpuSharedTagName:kGpuSharedSidePacketName` entry of a surface sink. -/
  gpuSharedSidePacket : TagName
  /-- Whether the build defines `MEDIAPIPE_DISABLE_GPU`. -/
  disableGpu : Bool

/-! ## Tools for examples -/

/-- The total length of the side-packet names the nodes of `config` read. -/
def CalculatorGraphConfig.sidePacketNamesLength (config : CalculatorGraphConfig) : Nat :=
  (config.nodes.map fun node => (node.inputSidePackets.map fun entry => entry.name.length).sum).sum

theorem CalculatorGraphConfig.length_le_of_readsSidePacket {config : CalculatorGraphConfig}
    {name : String} (hreads : config.ReadsSidePacket name) :
    name.length ≤ config.sidePacketNamesLength := by
  obtain ⟨node, hnode, entry, hentry, rfl⟩ := hreads
  calc entry.name.length
      ≤ (node.inputSidePackets.map fun entry => entry.name.length).sum :=
        List.le_sum_of_mem (List.mem_map_of_mem _ hentry)
    _ ≤ config.sidePacketNamesLength :=
        List.le_sum_of_mem (List.mem_map_of_mem
          (fun node => (node.inputSidePackets.map fun entry => entry.name.length).sum) hnode)

/-- `stem`, padded to be longer than all the side-packet names `config` reads together. -/
def paddedSidePacketName (config : CalculatorGraphConfig) (stem : String) : String :=
  stem ++ String.mk (List.replicate (config.sidePacketNamesLength + 1) '_')

theorem paddedSidePacketName_unused (config : CalculatorGraphConfig) (stem : String) :
    ¬ config.ReadsSidePacket (paddedSidePacketName config stem) := by
  intro hreads
  have hle := config.length_le_of_readsSidePacket hreads
  have hlength : (paddedSidePacketName config stem).length =
      stem.length + (config.sidePacketNamesLength + 1) := by
    rw [paddedSidePacketName, String.length_append]
    exact congrArg (stem.length + ·) (List.length_replicate _ _)
  omega

/-- A sink node reading the side packet `name` under the tag `CALLBACK`. -/
def callbackSinkNode (stream name : String) : Node :=
  ⟨"", "CallbackCalculator", [stream], [⟨"CALLBACK", name⟩]⟩

theorem isSink_callbackSinkNode (config : CalculatorGraphConfig) (stream : String) :
    IsSink config (callbackSinkNode stream (paddedSidePacketName config stream),
      paddedSidePacketName config stream) :=
  ⟨⟨_, List.mem_singleton_self _, rfl⟩, paddedSidePacketName_unused config stream⟩

/-- Tools to run examples with: padded side-packet names, and a parser that reads any
non-empty input as the config without nodes and fails on the empty input. -/
def exampleTools : GraphTools where
  parseFromString bytes := if bytes = [] then .error ⟨[]⟩ else .ok ⟨[]⟩
  getUnusedNodeName _ stem := stem
  getUnusedSidePacketName := paddedSidePacketName
  getUnusedSidePacketName_unused := paddedSidePacketName_unused
  addCallbackCalculator stream config :=
    (callbackSinkNode stream (paddedSidePacketName config stream),
      paddedSidePacketName config stream)
  addCallbackCalculator_sink stream config := isSink_callbackSinkNode config stream
  addCallbackWithHeaderCalculator stream _ config :=
    (callbackSinkNode stream (paddedSidePacketName config stream),
      paddedSidePacketName config stream)
  addCallbackWithHeaderCalculator_sink stream _ config := isSink_callbackSinkNode config stream
  gpuSharedSidePacket := ⟨"GPU_SHARED", "gpu_shared"⟩
  disableGpu := false

end MediaPipe.Jni
