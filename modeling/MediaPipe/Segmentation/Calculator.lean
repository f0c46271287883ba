import MediaPipe.Segmentation.MaskShader

/-!
# `Open`, `InitGpu` and `ProcessGpu`

The GPU half of `TfLiteTensorsToSegmentationCalculator`.  `InitGpu` builds the two mask
programs and allocates `tensor_buffer_`; each `ProcessGpu` copies the input tensor into
`tensor_buffer_`, runs the mask pass into a fresh small-mask texture and upsamples that
texture into the `MASK_GPU` output.  The GL helpers of the TFLite delegate are not part
of the modelled sources: they enter as `GlEnv`, which fixes the status of each call,
and whose effects follow what the calculator relies on (a successful copy replaces the
buffer's floats, a failed one leaves them).  Floats are an abstract type `E`.
-/

namespace MediaPipe.Segmentation

variable {E : Type}

/-- A GL shader storage buffer of floats; `none` is a float never written. -/
structure GlBuffer (E : Type) where
  floats : List (Option E)

/-- `bytes_size()` of a float buffer. -/
def GlBuffer.bytesSize (buffer : GlBuffer E) : Nat :=
  4 * buffer.floats.length

/-- `input_data.elements[i]`: the `vec2` at float offset `2 i`; `none` when a float
is outside the buffer or was never written. -/
def GlBuffer.element (buffer : GlBuffer E) (i : Int) : Option (E × E) :=
  if i < 0 then none
  else match buffer.floats.get? (2 * i.toNat), buffer.floats.get? (2 * i.toNat + 1) with
    | some (some a), some (some b) => some (a, b)
    | _, _ => none

/-- The GL helpers the calculator calls, each given by the status it returns. -/
structure GlEnv (E : Type) where
  /-- `GlShader::CompileShader` of the program with (`true`) or without `READ_PREVIOUS`. -/
  compileShader : Bool → Status
  /-- `GlProgram::CreateWithShader` of that program. -/
  createWithShader : Bool → Status
  /-- `CreateReadWriteShaderStorageBuffer<float>` of that many floats. -/
  createStorageBuffer : Nat → Status
  /-- Whether `GlhCreateProgram` leaves a nonzero `upsample_program_`. -/
  createUpsampleProgram : Bool
  /-- `CreateReadWriteRgbaImageTexture` of that size. -/
  createTexture : Int × Int → Status
  /-- `CopyBuffer(read_buffer, write_buffer)`. -/
  copyBuffer : GlBuffer E → GlBuffer E → Status

/-- The calculator's GL state after `InitGpu`. -/
structure SegmentationGpu (E : Type) where
  dims : TensorDims
  /-- The `out_size` uniform of both mask programs. -/
  outSize : Int × Int
  tensorBuffer : GlBuffer E

/-- `InitGpu`: every failing GL status becomes an internal error with its message. -/
def initGpu (env : GlEnv E) (dims : TensorDims) : Except Status (SegmentationGpu E) := do
  let check (status : Status) : Except Status Unit :=
    if status.ok then .ok () else .error (internalError status.message)
  check (env.compileShader false)
  check (env.createWithShader false)
  check (env.compileShader true)
  check (env.createWithShader true)
  check (env.createStorageBuffer (tensorLength dims))
  if !env.createUpsampleProgram then
    .error (internalError "Problem initializing the program.")
  else
    pure { dims := dims
           outSize := (dims.width, dims.height)
           tensorBuffer := ⟨List.replicate (tensorLength dims) none⟩ }

/-- What one mask invocation stores: the shader's float arithmetic applied to the
tensor element it read and, under `READ_PREVIOUS`, the previous-mask sample. -/
structure StoredValue (E : Type) where
  element : Option (E × E)
  previous : PreviousRead
  deriving DecidableEq, Repr

/-- A texture's texels; `none` is a texel never stored. -/
def Texels (E : Type) : Type := Int × Int → Option (StoredValue E)

/-- The mask pass run on a fresh texture, one `imageStore` per access. -/
def runMaskPass (buffer : GlBuffer E) (accesses : List MaskAccess) : Texels E :=
  accesses.foldl
    (fun texels a => Function.update texels a.outputCoordinate
      (some ⟨buffer.element a.linearIndex, a.previous⟩))
    (fun _ => none)

/-- A `MASK_GPU` frame: its size and the small mask it was upsampled from; `none`
when the small-mask texture was never created and texture `0` was rendered. -/
structure MaskFrame (E : Type) where
  width : Int
  height : Int
  smallMask : Option (Texels E)

/-- A `GpuBuffer` input, of which only the size is read. -/
structure GpuBuffer where
  width : Int
  height : Int
  deriving DecidableEq, Repr

/-- The inputs of one `Process` call. -/
structure SegmentationInputs (E : Type) where
  /-- `TENSORS_GPU`; `none` is an empty packet. -/
  tensorsGpu : Option (List (GlBuffer E))
  /-- `PREV_MASK_GPU`: `none` when the tag is absent, `some none` for an empty packet. -/
  prevMaskGpu : Option (Option GpuBuffer)
  /-- `REFERENCE_IMAGE_GPU`, when the tag is present. -/
  referenceImageGpu : Option GpuBuffer
  inputTimestamp : Int

/-- `has_prev_mask`: the tag is present and its packet is not empty. -/
def SegmentationInputs.hasPrevMask (inputs : SegmentationInputs E) : Bool :=
  match inputs.prevMaskGpu with
  | some (some _) => true
  | _ => false

/-- `output_width`, `output_height`: the reference image's size when that tag is
present, else the tensor's. -/
def SegmentationInputs.outputSize (inputs : SegmentationInputs E) (dims : TensorDims) :
    Int × Int :=
  match inputs.referenceImageGpu with
  | some image => (image.width, image.height)
  | none => (dims.width, dims.height)

/-- `write_buffer` after `CopyBuffer(read_buffer, write_buffer)`. -/
def GlEnv.copyResult (env : GlEnv E) (read write : GlBuffer E) : GlBuffer E :=
  if (env.copyBuffer read write).ok then read else write

def inputTensorsSizeMessage : String := "RET_CHECK failure: input_tensors.size() == 1"

/-- `ProcessGpu`: the new state, the returned status and the `MASK_GPU` packets added,
each with its timestamp.  The statuses of `CreateReadWriteRgbaImageTexture` and
`CopyBuffer` are not checked. -/
def processGpu (env : GlEnv E) (gpu : SegmentationGpu E) (inputs : SegmentationInputs E) :
    SegmentationGpu E × Status × List (Int × MaskFrame E) :=
  match inputs.tensorsGpu with
  | none => (gpu, okStatus, [])
  | some [inputTensor] =>
      let textureStatus := env.createTexture (gpu.dims.width, gpu.dims.height)
      let tensorBuffer := env.copyResult inputTensor gpu.tensorBuffer
      let accesses := maskDispatch inputs.hasPrevMask gpu.outSize (workgroups gpu.dims)
      let smallMask :=
        if textureStatus.ok then some (runMaskPass tensorBuffer accesses) else none
      let output := inputs.outputSize gpu.dims
      ({ gpu with tensorBuffer := tensorBuffer }, okStatus,
        [(inputs.inputTimestamp, ⟨output.1, output.2, smallMask⟩)])
  | some _ => (gpu, internalError inputTensorsSizeMessage, [])

def inputTagsMessage : String := "RET_CHECK failure: !cc->Inputs().GetTags().empty()"

def outputTagsMessage : String := "RET_CHECK failure: !cc->Outputs().GetTags().empty()"

/-- `GetContract` on Android: the node has input and output tags, then
`GlCalculatorHelper::UpdateContract`, which is not in this file, answers `updateContract`. -/
def getContract (updateContract : Status) (inputTags outputTags : List String) : Status :=
  if inputTags.isEmpty then internalError inputTagsMessage
  else if outputTags.isEmpty then internalError outputTagsMessage
  else if updateContract.ok then okStatus else updateContract

/-- The calculator after `Open`: the GPU path when `TENSORS_GPU` is connected,
otherwise the CPU path, which is not implemented. -/
inductive SegmentationCalculator (E : Type) where
  | gpu (state : SegmentationGpu E)
  | cpu (dims : TensorDims)

/-- `Open`: `LoadOptions`, then `InitGpu` when the node reads `TENSORS_GPU`. -/
def openCalculator (env : GlEnv E) (options : Options) (hasTensorsGpu : Bool) :
    Except Status (SegmentationCalculator E) := do
  let dims ← loadOptions options
  if hasTensorsGpu then
    let gpu ← initGpu env dims
    pure (.gpu gpu)
  else
    pure (.cpu dims)

def cpuUnimplementedMessage : String := "CPU support is not implemented yet."

/-- `Process`: `ProcessGpu` on the GPU path, `ProcessCpu`'s error otherwise. -/
def process (env : GlEnv E) :
    SegmentationCalculator E → SegmentationInputs E →
      SegmentationCalculator E × Status × List (Int × MaskFrame E)
  | .gpu gpu, inputs =>
      let (gpu', status, outputs) := processGpu env gpu inputs
      (.gpu gpu', status, outputs)
  | .cpu dims, _ => (.cpu dims, unimplementedError cpuUnimplementedMessage, [])

/-- A sequence of `Process` calls, each with its status and `MASK_GPU` packets. -/
def processAll (env : GlEnv E) :
    SegmentationCalculator E → List (SegmentationInputs E) →
      List (Status × List (Int × MaskFrame E))
  | _, [] => []
  | calculator, inputs :: rest =>
      let (calculator', status, outputs) := process env calculator inputs
      (status, outputs) :: processAll env calculator' rest

/-! ## `InitGpu` and `ProcessGpu` -/

theorem initGpu_eq_ok {env : GlEnv E} {dims : TensorDims} {gpu : SegmentationGpu E}
    (hinit : initGpu env dims = .ok gpu) :
    gpu.dims = dims ∧ gpu.outSize = (dims.width, dims.height) ∧
      gpu.tensorBuffer.floats = List.replicate (tensorLength dims) none := by
  simp only [initGpu, bind, Except.bind, pure, Except.pure] at hinit
  split_ifs at hinit
  cases hinit
  exact ⟨rfl, rfl, rfl⟩

/-- After `InitGpu`, `ProcessGpu` dispatches the mask pass of the tensor dimensions. -/
theorem maskDispatch_eq_maskPass {env : GlEnv E} {dims : TensorDims}
    {gpu : SegmentationGpu E} (hinit : initGpu env dims = .ok gpu) (readPrevious : Bool) :
    maskDispatch readPrevious gpu.outSize (workgroups gpu.dims) = maskPass readPrevious dims := by
  obtain ⟨hdims, hout, -⟩ := initGpu_eq_ok hinit
  rw [hdims, hout]
  rfl

theorem copyResult_of_not_ok {env : GlEnv E} {read write : GlBuffer E}
    (hcopy : (env.copyBuffer read write).ok = false) :
    env.copyResult read write = write := by
  simp [GlEnv.copyResult, hcopy]

/-- `ProcessGpu` on one input tensor: whatever the texture creation and the copy
return, it returns OK and adds one `MASK_GPU` packet at the input timestamp. -/
theorem processGpu_single (env : GlEnv E) (gpu : SegmentationGpu E)
    (inputs : SegmentationInputs E) {inputTensor : GlBuffer E}
    (htensors : inputs.tensorsGpu = some [inputTensor]) :
    processGpu env gpu inputs =
      ({ gpu with tensorBuffer := env.copyResult inputTensor gpu.tensorBuffer }, okStatus,
        [(inputs.inputTimestamp,
          ⟨(inputs.outputSize gpu.dims).1, (inputs.outputSize gpu.dims).2,
            if (env.createTexture (gpu.dims.width, gpu.dims.height)).ok then
              some (runMaskPass (env.copyResult inputTensor gpu.tensorBuffer)
                (maskDispatch inputs.hasPrevMask gpu.outSize (workgroups gpu.dims)))
            else none⟩)]) := by
  simp only [processGpu, htensors]

/-- A GL environment in which every call succeeds except a `CopyBuffer` between
buffers of different byte sizes. -/
def sizeCheckedEnv (E : Type) : GlEnv E where
  compileShader _ := okStatus
  createWithShader _ := okStatus
  createStorageBuffer _ := okStatus
  createUpsampleProgram := true
  createTexture _ := okStatus
  copyBuffer read write :=
    if read.bytesSize = write.bytesSize then okStatus
    else invalidArgumentError "CopyBuffer: buffer sizes differ"

/-- With `1 × 1 × 2` options, a first `Process` fills `tensor_buffer_` with `(5, 7)`.
A second `Process`, whose tensor holds one float, fails its `CopyBuffer`, yet returns
OK and emits a `MASK_GPU` frame computed from the first tensor. -/
theorem processGpu_emits_stale_mask :
    ((sizeCheckedEnv Nat).copyBuffer ⟨[some 9]⟩ ⟨[some 5, some 7]⟩).ok = false ∧
      (match openCalculator (sizeCheckedEnv Nat) ⟨some 1, some 1, some 2⟩ true with
        | .ok calculator =>
            (processAll (sizeCheckedEnv Nat) calculator
              [⟨some [⟨[some 5, some 7]⟩], none, none, 0⟩,
                ⟨some [⟨[some 9]⟩], none, none, 1⟩]).map
              fun r => (r.1, r.2.map fun p => (p.1, p.2.smallMask.map (· (0, 0))))
        | .error _ => []) =
        [(okStatus, [(0, some (some ⟨some (5, 7), .skipped⟩))]),
          (okStatus, [(1, some (some ⟨some (5, 7), .skipped⟩))])] := by
  constructor
  · decide
  · rfl

/-! ## Every run of `Process` on the GPU path

`CopyBuffer` checks that the two buffers have the same byte size.  Where that is the only
way it fails, `tensor_buffer_` keeps the size `InitGpu` gave it over every run, and the
mask of each call reads the last input tensor of that size, this call's included, or the
unwritten buffer of `InitGpu` when there was none: an input tensor of another size is
dropped without an error, and its frame shows an older tensor. -/

section Run

variable {env : GlEnv E}

/-- The calculator after a sequence of `Process` calls. -/
def processAfter (env : GlEnv E) :
    SegmentationCalculator E → List (SegmentationInputs E) → SegmentationCalculator E
  | calculator, [] => calculator
  | calculator, inputs :: rest => processAfter env (process env calculator inputs).1 rest

/-- The input tensor `ProcessGpu` copies: the only one of a `TENSORS_GPU` packet. -/
def SegmentationInputs.singleTensor (inputs : SegmentationInputs E) : Option (GlBuffer E) :=
  match inputs.tensorsGpu with
  | some [tensor] => some tensor
  | _ => none

/-- The last single input tensor of the byte size of `buffer`, or `buffer` when there is
none. -/
def lastMatchingTensor (buffer : GlBuffer E) (inputs : List (SegmentationInputs E)) :
    GlBuffer E :=
  ((inputs.filterMap SegmentationInputs.singleTensor).reverse.find?
    fun tensor => tensor.bytesSize = buffer.bytesSize).getD buffer

/-- The `MASK_GPU` frame `ProcessGpu` emits for `inputs` when its small mask reads
`tensor`. -/
def maskFrame (env : GlEnv E) (dims : TensorDims) (inputs : SegmentationInputs E)
    (tensor : GlBuffer E) : MaskFrame E :=
  ⟨(inputs.outputSize dims).1, (inputs.outputSize dims).2,
    if (env.createTexture (dims.width, dims.height)).ok then
      some (runMaskPass tensor (maskPass inputs.hasPrevMask dims))
    else none⟩

theorem processAll_append (calculator : SegmentationCalculator E)
    (before after : List (SegmentationInputs E)) :
    processAll env calculator (before ++ after) =
      processAll env calculator before ++
        processAll env (processAfter env calculator before) after := by
  induction before generalizing calculator with
  | nil => rfl
  | cons inputs before ih => simp [processAll, processAfter, ih]

theorem processAfter_append_singleton (calculator : SegmentationCalculator E)
    (before : List (SegmentationInputs E)) (inputs : SegmentationInputs E) :
    processAfter env calculator (before ++ [inputs]) =
      (process env (processAfter env calculator before) inputs).1 := by
  induction before generalizing calculator with
  | nil => rfl
  | cons first before ih => exact ih _

/-- One `Process` call on the GPU path copies its single tensor, if it has one. -/
theorem process_gpu_fst (gpu : SegmentationGpu E) (inputs : SegmentationInputs E) :
    (process env (.gpu gpu) inputs).1 =
      .gpu { gpu with
        tensorBuffer := ((inputs.singleTensor.map (env.copyResult · gpu.tensorBuffer)).getD
          gpu.tensorBuffer) } := by
  rcases inputs with ⟨_ | _ | ⟨tensor, _ | _⟩, prevMask, reference, timestamp⟩ <;> rfl

theorem lastMatchingTensor_append_singleton (buffer : GlBuffer E)
    (before : List (SegmentationInputs E)) (inputs : SegmentationInputs E) :
    lastMatchingTensor buffer (before ++ [inputs]) =
      (inputs.singleTensor.filter fun tensor => tensor.bytesSize = buffer.bytesSize).getD
        (lastMatchingTensor buffer before) := by
  cases htensor : inputs.singleTensor with
  | none => simp [lastMatchingTensor, htensor]
  | some tensor =>
      by_cases hsize : tensor.bytesSize = buffer.bytesSize <;>
        simp [lastMatchingTensor, htensor, hsize, Option.filter]

theorem lastMatchingTensor_bytesSize (buffer : GlBuffer E) (inputs : List (SegmentationInputs E)) :
    (lastMatchingTensor buffer inputs).bytesSize = buffer.bytesSize := by
  unfold lastMatchingTensor
  cases hfound : List.find? _ _ with
  | none => rfl
  | some tensor => simpa using List.find?_some hfound

section SizeChecked

variable (hcopy : ∀ read write, (env.copyBuffer read write).ok ↔ read.bytesSize = write.bytesSize)
include hcopy

theorem copyResult_eq_of_sizeChecked (read write : GlBuffer E) :
    env.copyResult read write = if read.bytesSize = write.bytesSize then read else write := by
  by_cases hsize : read.bytesSize = write.bytesSize <;> simp [GlEnv.copyResult, hcopy, hsize]

/-- Over every run on the GPU path, `tensor_buffer_` is the last input tensor of its own
size. -/
theorem processAfter_gpu (gpu : SegmentationGpu E) (inputs : List (SegmentationInputs E)) :
    processAfter env (.gpu gpu) inputs =
      .gpu { gpu with tensorBuffer := lastMatchingTensor gpu.tensorBuffer inputs } := by
  induction inputs using List.reverseRecOn with
  | nil => rfl
  | append_singleton before inputs ih =>
      rw [processAfter_append_singleton, ih, process_gpu_fst, lastMatchingTensor_append_singleton]
      cases inputs.singleTensor with
      | none => rfl
      | some tensor =>
          by_cases hsize : tensor.bytesSize = gpu.tensorBuffer.bytesSize <;>
            simp [copyResult_eq_of_sizeChecked hcopy, lastMatchingTensor_bytesSize, hsize,
              Option.filter]

/-- Over every run after `InitGpu` of dimensions whose `int` arithmetic does not overflow
(elsewhere `InitGpu` is undefined), where `CopyBuffer` fails only between buffers of
different sizes, each `Process` call on one input tensor returns OK and emits one `MASK_GPU`
frame at its timestamp, whose small mask reads the last input tensor so far of the size of
`tensor_buffer_`. -/
theorem processAll_reads_lastMatchingTensor {dims : TensorDims} {gpu : SegmentationGpu E}
    (hinit : initGpu env dims = .ok gpu) (_hrange : DimsInRange dims)
    (before : List (SegmentationInputs E)) {inputs : SegmentationInputs E} {tensor : GlBuffer E}
    (htensor : inputs.tensorsGpu = some [tensor]) :
    processAll env (.gpu gpu) (before ++ [inputs]) =
      processAll env (.gpu gpu) before ++
        [(okStatus, [(inputs.inputTimestamp, maskFrame env dims inputs
          (lastMatchingTensor gpu.tensorBuffer (before ++ [inputs])))])] := by
  obtain ⟨hdims, -, -⟩ := initGpu_eq_ok hinit
  have hsingle : inputs.singleTensor = some tensor := by
    simp [SegmentationInputs.singleTensor, htensor]
  rw [processAll_append, processAfter_gpu hcopy, lastMatchingTensor_append_singleton, hsingle]
  simp only [processAll, process, processGpu_single _ _ _ htensor, maskDispatch_eq_maskPass hinit,
    copyResult_eq_of_sizeChecked hcopy, lastMatchingTensor_bytesSize, maskFrame]
  by_cases hsize : tensor.bytesSize = gpu.tensorBuffer.bytesSize <;>
    simp [hsize, hdims, Option.filter]

end SizeChecked

theorem sizeCheckedEnv_copyBuffer_ok (read write : GlBuffer E) :
    ((sizeCheckedEnv E).copyBuffer read write).ok ↔ read.bytesSize = write.bytesSize := by
  by_cases hsize : read.bytesSize = write.bytesSize <;>
    simp [sizeCheckedEnv, hsize, okStatus_ok, invalidArgumentError_ok]

theorem processAll_reads_lastMatchingTensor_after_short_tensor :
    (∀ read write : GlBuffer Nat,
      ((sizeCheckedEnv Nat).copyBuffer read write).ok ↔ read.bytesSize = write.bytesSize) ∧
    initGpu (sizeCheckedEnv Nat) ⟨1, 1, 2⟩ = .ok ⟨⟨1, 1, 2⟩, (1, 1), ⟨[none, none]⟩⟩ ∧
    DimsInRange ⟨1, 1, 2⟩ ∧
    (⟨some [⟨[some 9]⟩], none, none, 1⟩ : SegmentationInputs Nat).tensorsGpu = some [⟨[some 9]⟩] ∧
    processAll (sizeCheckedEnv Nat) (.gpu ⟨⟨1, 1, 2⟩, (1, 1), ⟨[none, none]⟩⟩)
        ([⟨some [⟨[some 5, some 7]⟩], none, none, 0⟩] ++ [⟨some [⟨[some 9]⟩], none, none, 1⟩]) =
      processAll (sizeCheckedEnv Nat) (.gpu ⟨⟨1, 1, 2⟩, (1, 1), ⟨[none, none]⟩⟩)
          [⟨some [⟨[some 5, some 7]⟩], none, none, 0⟩] ++
        [(okStatus, [(1, maskFrame (sizeCheckedEnv Nat) ⟨1, 1, 2⟩
          ⟨some [⟨[some 9]⟩], none, none, 1⟩
          (lastMatchingTensor ⟨[none, none]⟩
            ([⟨some [⟨[some 5, some 7]⟩], none, none, 0⟩] ++
              [⟨some [⟨[some 9]⟩], none, none, 1⟩])))])] :=
  have hrange : DimsInRange ⟨1, 1, 2⟩ := ⟨by decide, by decide, by decide, by decide, by decide⟩
  ⟨sizeCheckedEnv_copyBuffer_ok, rfl, hrange, rfl,
    processAll_reads_lastMatchingTensor sizeCheckedEnv_copyBuffer_ok rfl hrange _ rfl⟩

end Run

end MediaPipe.Segmentation
