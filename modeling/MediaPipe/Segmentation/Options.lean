import MediaPipe.Status

/-!
# Options and `int` arithmetic of the segmentation calculator

`TfLiteTensorsToSegmentationCalculator` reads its tensor dimensions from the node's
options (`int32` proto fields) and computes with them in C++ `int`: the workgroup counts
`RoundUp(w, 8)`, `RoundUp(h, 8)` and the buffer length `w * h * channels`.  Values are
kept as exact integers; whether an `int` computation overflows is the separate
predicate `FitsInt` on each intermediate result, in the order C++ evaluates it.
-/

namespace MediaPipe.Segmentation

def intMax : Int := 2 ^ 31 - 1

def intMin : Int := -2 ^ 31

/-- The exact result of an `int` operation is representable, so the operation does
not overflow. -/
def FitsInt (v : Int) : Prop := intMin ≤ v ∧ v ≤ intMax

instance : DecidablePred FitsInt := fun v =>
  inferInstanceAs (Decidable (intMin ≤ v ∧ v ≤ intMax))

/-- `kWorkgroupSize`, the block size of the mask shader. -/
def kWorkgroupSize : Int := 8

/-- `RoundUp`: C++ `int` division truncates toward zero. -/
def roundUp (size multiple : Int) : Int :=
  (size + multiple - 1).tdiv multiple

/-- The `int` values `RoundUp(size, multiple)` computes, in evaluation order. -/
def roundUpSteps (size multiple : Int) : List Int :=
  [size + multiple, size + multiple - 1, roundUp size multiple]

/-- The implicit conversion of an `int` to `unsigned int` (a `uint3` component). -/
def toUint (v : Int) : Nat :=
  (v % 2 ^ 32).toNat

/-- The conversion of an `int` to `size_t`. -/
def toSizeT (v : Int) : Nat :=
  (v % 2 ^ 64).toNat

/-- The three dimension fields of `TfLiteTensorsToSegmentationCalculatorOptions`
that the calculator reads; `none` is an unset optional field. -/
structure Options where
  tensorWidth : Option (BitVec 32)
  tensorHeight : Option (BitVec 32)
  tensorChannels : Option (BitVec 32)
  deriving DecidableEq, Repr

/-- `tensor_width_`, `tensor_height_` and `tensor_channels_` after `LoadOptions`. -/
structure TensorDims where
  width : Int
  height : Int
  channels : Int
  deriving DecidableEq, Repr

def missingDimensionsMessage : String := "Missing tensor dimensions in options."

def unsupportedChannelsMessage : String :=
  "Only 2 channel segmentation tensor currently supported"

/-- `LoadOptions`: all three dimensions must be present, and the channel count must
be 2.  Width and height are not checked. -/
def loadOptions (options : Options) : Except Status TensorDims :=
  match options.tensorWidth, options.tensorHeight, options.tensorChannels with
  | some w, some h, some c =>
      if c.toInt = 2 then .ok ⟨w.toInt, h.toInt, c.toInt⟩
      else .error (internalError unsupportedChannelsMessage)
  | _, _, _ => .error (internalError missingDimensionsMessage)

/-- `tensor_width_ * tensor_height_ * tensor_channels_`, evaluated left to right. -/
def tensorLengthSteps (dims : TensorDims) : List Int :=
  [dims.width * dims.height, dims.width * dims.height * dims.channels]

/-- `size_t tensor_length` of `InitGpu`: the number of floats of `tensor_buffer_`.  The
product is `int` arithmetic, undefined where a step of `tensorLengthSteps` overflows; the
results about it assume `DimsInRange`, which excludes that. -/
def tensorLength (dims : TensorDims) : Nat :=
  toSizeT (dims.width * dims.height * dims.channels)

/-- The workgroup counts `ProcessGpu` dispatches. -/
def workgroups (dims : TensorDims) : Nat × Nat :=
  (toUint (roundUp dims.width kWorkgroupSize), toUint (roundUp dims.height kWorkgroupSize))

theorem loadOptions_eq_ok {options : Options} {dims : TensorDims}
    (hload : loadOptions options = .ok dims) :
    ∃ w h c, options = ⟨some w, some h, some c⟩ ∧ c.toInt = 2 ∧
      dims = ⟨w.toInt, h.toInt, c.toInt⟩ := by
  rcases options with ⟨_ | w, _ | h, _ | c⟩ <;> simp only [loadOptions] at hload
  all_goals first | cases hload | skip
  split at hload
  · cases hload
    exact ⟨w, h, c, rfl, ‹_›, rfl⟩
  · cases hload

/-- Every error of `LoadOptions` is an internal error naming what it checks. -/
theorem loadOptions_error {options : Options} {status : Status}
    (hload : loadOptions options = .error status) :
    status = internalError missingDimensionsMessage ∨
      status = internalError unsupportedChannelsMessage := by
  rcases options with ⟨_ | w, _ | h, _ | c⟩ <;> simp only [loadOptions] at hload
  all_goals first | (cases hload; simp) | skip
  split at hload
  · cases hload
  · cases hload; simp

/-- An `int32` proto field always holds a value of `int`. -/
theorem fitsInt_toInt (x : BitVec 32) : FitsInt x.toInt := by
  have hlt := x.isLt
  rw [BitVec.toInt_eq_toNat_cond]
  constructor <;> split <;> simp only [intMin, intMax] <;> omega

/-- The dimensions `LoadOptions` accepts are 32-bit values with two channels. -/
theorem loadOptions_dims {options : Options} {dims : TensorDims}
    (hload : loadOptions options = .ok dims) :
    FitsInt dims.width ∧ FitsInt dims.height ∧ dims.channels = 2 := by
  obtain ⟨w, h, c, -, hc, rfl⟩ := loadOptions_eq_ok hload
  exact ⟨fitsInt_toInt w, fitsInt_toInt h, hc⟩

end MediaPipe.Segmentation
