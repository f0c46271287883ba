import MediaPipe.Image.Mat
import MediaPipe.Status

/-!
# `ColorConvertCalculator`

`Process` picks one of four conversions from the tags of the node's single input and
output stream; `ConvertAndOutput` allocates the output `ImageFrame`, converts into its
bytes with `cv::cvtColor` and, for `RGB -> RGBA`, sets the alpha channel to 255 with
`SetColorChannel`.  OpenCV and the `ImageFrame` allocator are not among the modelled
sources: `cvtColor` follows OpenCV's colour conversions for the four codes the calculator
passes (the three codes from RGB take a source of three or four channels, `GRAY -> RGB` one;
each pixel byte of the output is the conversion of the source pixel; `RGB -> RGBA` gives a
three-channel source alpha 255 and keeps a four-channel source's alpha; the row padding is
not written), the gray weighting is a parameter, and the allocator is any `FrameAllocator`.
-/

namespace MediaPipe.Image

inductive ImageFormat where
  | srgb
  | srgba
  | gray8
  deriving DecidableEq, Repr

/-- One byte per channel: three for `SRGB`, four for `SRGBA`, one for `GRAY8`. -/
def ImageFormat.numberOfChannels : ImageFormat → Nat
  | .srgb => 3
  | .srgba => 4
  | .gray8 => 1

theorem ImageFormat.numberOfChannels_pos (format : ImageFormat) :
    0 < format.numberOfChannels := by
  cases format <;> decide

/-- An `ImageFrame` of one-byte channels; `widthStep` is its row stride in bytes. -/
structure ImageFrame where
  format : ImageFormat
  width : Nat
  height : Nat
  widthStep : Nat
  pixelData : Nat → UInt8
  row_fits : width * format.numberOfChannels ≤ widthStep

/-- `formats::MatView`: the frame's bytes as a `cv::Mat`, shared with the frame. -/
def ImageFrame.matView (frame : ImageFrame) : Mat where
  rows := frame.height
  cols := frame.width
  channels := frame.format.numberOfChannels
  step := frame.widthStep
  data := frame.pixelData
  channels_pos := frame.format.numberOfChannels_pos
  row_fits := frame.row_fits

@[simp] theorem ImageFrame.matView_rows (frame : ImageFrame) :
    frame.matView.rows = frame.height := rfl

@[simp] theorem ImageFrame.matView_cols (frame : ImageFrame) :
    frame.matView.cols = frame.width := rfl

@[simp] theorem ImageFrame.matView_channels (frame : ImageFrame) :
    frame.matView.channels = frame.format.numberOfChannels := rfl

/-- Channel `k` of pixel `(r, c)`. -/
def ImageFrame.byte (frame : ImageFrame) (r c k : Nat) : UInt8 :=
  frame.pixelData (frame.matView.offset r c k)

/-- How `new ImageFrame(format, width, height)` lays a frame out: its row stride, and
the bytes it holds before anything writes them. -/
structure FrameAllocator where
  widthStep : ImageFormat → Nat → Nat
  widthStep_fits : ∀ format width, width * format.numberOfChannels ≤ widthStep format width
  initialData : Nat → UInt8

def FrameAllocator.create (alloc : FrameAllocator) (format : ImageFormat)
    (width height : Nat) : ImageFrame :=
  ⟨format, width, height, alloc.widthStep format width, alloc.initialData,
    alloc.widthStep_fits format width⟩

/-- The `cv::COLOR_*` codes the calculator passes. -/
inductive ColorConversion where
  | rgba2rgb
  | gray2rgb
  | rgb2gray
  | rgb2rgba
  deriving DecidableEq, Repr

/-- The source channel counts OpenCV takes for a code: three or four for the codes from
RGB(A), one for `GRAY -> RGB`. -/
def ColorConversion.acceptsSource : ColorConversion → Nat → Bool
  | .gray2rgb, channels => channels = 1
  | _, channels => channels = 3 || channels = 4

def ColorConversion.dstChannels : ColorConversion → Nat
  | .rgba2rgb => 3
  | .gray2rgb => 3
  | .rgb2gray => 1
  | .rgb2rgba => 4

/-- Channel `k` of a converted pixel from the `srcChannels` channels of the source pixel. -/
def ColorConversion.convertPixel (rgbToGray : UInt8 → UInt8 → UInt8 → UInt8) :
    ColorConversion → Nat → (Nat → UInt8) → Nat → UInt8
  | .rgba2rgb, _, pixel, k => pixel k
  | .gray2rgb, _, pixel, _ => pixel 0
  | .rgb2gray, _, pixel, _ => rgbToGray (pixel 0) (pixel 1) (pixel 2)
  | .rgb2rgba, srcChannels, pixel, k =>
      if k < 3 then pixel k else if srcChannels = 4 then pixel 3 else 255

/-- The bytes `cv::cvtColor(src, dst, code)` leaves in `dst`: each pixel byte the
conversion of the source pixel at the same row and column, the padding untouched. -/
def cvtColorData (rgbToGray : UInt8 → UInt8 → UInt8 → UInt8) (code : ColorConversion)
    (src dst : Mat) (o : Nat) : UInt8 :=
  match dst.pixelAt o with
  | some (r, c, k) =>
      code.convertPixel rgbToGray src.channels (fun k' => src.data (src.offset r c k')) k
  | none => dst.data o

/-- `cv::cvtColor(src, dst, code)` into a `dst` of the right size and type, as the
calculator allocates it; `none` when OpenCV rejects the channel counts and throws. -/
def cvtColor (rgbToGray : UInt8 → UInt8 → UInt8 → UInt8) (code : ColorConversion)
    (src dst : Mat) : Option Mat :=
  if code.acceptsSource src.channels ∧ dst.channels = code.dstChannels ∧
      src.rows = dst.rows ∧ src.cols = dst.cols then
    some { dst with data := cvtColorData rgbToGray code src dst }
  else none

def kRgbaInTag : String := "RGBA_IN"
def kRgbInTag : String := "RGB_IN"
def kGrayInTag : String := "GRAY_IN"
def kRgbaOutTag : String := "RGBA_OUT"
def kRgbOutTag : String := "RGB_OUT"
def kGrayOutTag : String := "GRAY_OUT"

/-- The tags of a node's input and output streams. -/
structure ColorConvertNode where
  inputTags : List String
  outputTags : List String

def oneInputStreamMessage : String :=
  "RET_CHECK failure: cc->Inputs().NumEntries() == 1 Only one input stream is allowed."

def oneOutputStreamMessage : String :=
  "RET_CHECK failure: cc->Outputs().NumEntries() == 1 Only one output stream is allowed."

/-- `GetContract`: one input stream and one output stream. -/
def getContract (node : ColorConvertNode) : Status :=
  if node.inputTags.length ≠ 1 then internalError oneInputStreamMessage
  else if node.outputTags.length ≠ 1 then internalError oneOutputStreamMessage
  else okStatus

/-- One `Process` call: the node, the frame on its input stream, and its timestamp. -/
structure ColorConvertContext where
  node : ColorConvertNode
  input : ImageFrame
  inputTimestamp : Int

/-- A packet added to an output stream. -/
structure OutputPacket where
  tag : String
  timestamp : Int
  frame : ImageFrame

/-- `ConvertAndOutput`; `none` when the process aborts (an OpenCV exception or a
failed `CHECK`). -/
def convertAndOutput (rgbToGray : UInt8 → UInt8 → UInt8 → UInt8) (alloc : FrameAllocator)
    (outputTag : String) (outputFormat : ImageFormat) (code : ColorConversion)
    (cc : ColorConvertContext) : Option (Status × List OutputPacket) := do
  let inputMat := cc.input.matView
  let outputFrame := alloc.create outputFormat inputMat.cols inputMat.rows
  let converted ← cvtColor rgbToGray code inputMat outputFrame.matView
  let outputMat ← if code = .rgb2rgba then setColorChannel 3 255 converted else some converted
  pure (okStatus,
    [⟨outputTag, cc.inputTimestamp, { outputFrame with pixelData := outputMat.data }⟩])

def unsupportedConversionMessage : String := "Unsupported image format conversion."

/-- `Process`: the first of the four conversions whose input and output tags the node
has. -/
def process (rgbToGray : UInt8 → UInt8 → UInt8 → UInt8) (alloc : FrameAllocator)
    (cc : ColorConvertContext) : Option (Status × List OutputPacket) :=
  let hasInput (tag : String) := decide (tag ∈ cc.node.inputTags)
  let hasOutput (tag : String) := decide (tag ∈ cc.node.outputTags)
  if hasInput kRgbaInTag && hasOutput kRgbOutTag then
    convertAndOutput rgbToGray alloc kRgbOutTag .srgb .rgba2rgb cc
  else if hasInput kGrayInTag && hasOutput kRgbOutTag then
    convertAndOutput rgbToGray alloc kRgbOutTag .srgb .gray2rgb cc
  else if hasInput kRgbInTag && hasOutput kGrayOutTag then
    convertAndOutput rgbToGray alloc kGrayOutTag .gray8 .rgb2gray cc
  else if hasInput kRgbInTag && hasOutput kRgbaOutTag then
    convertAndOutput rgbToGray alloc kRgbaOutTag .srgba .rgb2rgba cc
  else some (invalidArgumentError unsupportedConversionMessage, [])

/-! ## `cvtColor` -/

section CvtColor

variable {rgbToGray : UInt8 → UInt8 → UInt8 → UInt8} {code : ColorConversion} {src dst : Mat}

theorem cvtColor_eq_some (hsrc : code.acceptsSource src.channels)
    (hdst : dst.channels = code.dstChannels) (hrows : src.rows = dst.rows)
    (hcols : src.cols = dst.cols) :
    cvtColor rgbToGray code src dst =
      some { dst with data := cvtColorData rgbToGray code src dst } :=
  if_pos ⟨hsrc, hdst, hrows, hcols⟩

theorem cvtColorData_pixel {r c k : Nat} (hr : r < dst.rows) (hc : c < dst.cols)
    (hk : k < dst.channels) :
    cvtColorData rgbToGray code src dst (dst.offset r c k) =
      code.convertPixel rgbToGray src.channels (fun k' => src.data (src.offset r c k')) k := by
  rw [cvtColorData, dst.pixelAt_offset hr hc hk]

theorem cvtColorData_padding {o : Nat} (ho : dst.pixelAt o = none) :
    cvtColorData rgbToGray code src dst o = dst.data o := by
  rw [cvtColorData, ho]

end CvtColor

/-! ## Every conversion -/

/-- What `ConvertAndOutput` is to produce for `code` from `input` at `timestamp`: one
frame of `format` and the input's size on `tag` at that timestamp, each pixel byte the
conversion of the input pixel, with alpha 255 for `RGB -> RGBA`, and every other byte of
the new frame as the allocator left it. -/
def Converts (rgbToGray : UInt8 → UInt8 → UInt8 → UInt8) (alloc : FrameAllocator)
    (input : ImageFrame) (timestamp : Int) (tag : String) (format : ImageFormat)
    (code : ColorConversion) (result : Option (Status × List OutputPacket)) : Prop :=
  ∃ frame, result = some (okStatus, [⟨tag, timestamp, frame⟩]) ∧
    frame.format = format ∧ frame.width = input.width ∧ frame.height = input.height ∧
    (∀ r < input.height, ∀ c < input.width, ∀ k < format.numberOfChannels,
      frame.byte r c k = if code = .rgb2rgba ∧ k = 3 then 255
        else code.convertPixel rgbToGray input.format.numberOfChannels (input.byte r c) k) ∧
    ∀ o, frame.matView.pixelAt o = none → frame.pixelData o = alloc.initialData o

section ConvertAndOutput

variable (rgbToGray : UInt8 → UInt8 → UInt8 → UInt8) (alloc : FrameAllocator)
  (tag : String) (format : ImageFormat) (code : ColorConversion) (node : ColorConvertNode)
  (input : ImageFrame) (timestamp : Int)

/-- `SetColorChannel(3, 255, ...)` after the `RGB -> RGBA` conversion sets alpha and
leaves the colour bytes and the row padding. -/
theorem convertAndOutput_rgbToRgba (hsrc : ColorConversion.rgb2rgba.acceptsSource
      input.format.numberOfChannels)
    (hdst : format.numberOfChannels = 4) :
    Converts rgbToGray alloc input timestamp tag format .rgb2rgba
      (convertAndOutput rgbToGray alloc tag format .rgb2rgba ⟨node, input, timestamp⟩) := by
  let dst := (alloc.create format input.width input.height).matView
  let converted : Mat := { dst with data := cvtColorData rgbToGray .rgb2rgba input.matView dst }
  have hcvt : cvtColor rgbToGray .rgb2rgba input.matView dst = some converted :=
    cvtColor_eq_some hsrc hdst rfl rfl
  have halpha : 3 < converted.channels := show 3 < format.numberOfChannels by omega
  obtain ⟨final, hfinal⟩ := @setColorChannel_isSome converted 3 255 halpha
  refine ⟨{ alloc.create format input.width input.height with pixelData := final.data },
    ?_, rfl, rfl, rfl, ?_, ?_⟩
  · simp only [convertAndOutput, ImageFrame.matView_cols, ImageFrame.matView_rows, dst, hcvt,
      hfinal, Option.bind_eq_bind, Option.some_bind, if_true]
    rfl
  · intro r hr c hc k hk
    show final.data (converted.offset r c k) = _
    by_cases hk3 : k = 3
    · rw [if_pos ⟨rfl, hk3⟩, hk3]
      exact setColorChannel_sets hfinal hr hc
    · have hk' : k < converted.channels := by simpa [converted, dst] using hk
      have hother : ∀ r' < converted.rows, ∀ c' < converted.cols,
          converted.offset r c k ≠ converted.offset r' c' 3 := fun r' hr' c' hc' heq =>
        hk3 (converted.offset_inj hr hc hk' hr' hc' halpha heq).2.2
      rw [setColorChannel_leaves hfinal hother, if_neg fun h => hk3 h.2]
      exact cvtColorData_pixel hr hc hk'
  · intro o ho
    have hpad : ∀ r < converted.rows, ∀ c < converted.cols, o ≠ converted.offset r c 3 :=
      fun r hr c hc heq => by
        have hpixel := converted.pixelAt_offset hr hc halpha
        rw [← heq] at hpixel
        exact Option.noConfusion (ho.symm.trans hpixel)
    calc final.data o = converted.data o := setColorChannel_leaves hfinal hpad
      _ = alloc.initialData o := cvtColorData_padding ho

/-- For every input whose channels OpenCV takes for the conversion, `ConvertAndOutput` emits
the converted frame. -/
theorem convertAndOutput_converts (hsrc : code.acceptsSource input.format.numberOfChannels)
    (hdst : format.numberOfChannels = code.dstChannels) :
    Converts rgbToGray alloc input timestamp tag format code
      (convertAndOutput rgbToGray alloc tag format code ⟨node, input, timestamp⟩) := by
  by_cases hrgba : code = .rgb2rgba
  · subst hrgba
    exact convertAndOutput_rgbToRgba rgbToGray alloc tag format node input timestamp hsrc hdst
  let dst := (alloc.create format input.width input.height).matView
  have hcvt : cvtColor rgbToGray code input.matView dst =
      some { dst with data := cvtColorData rgbToGray code input.matView dst } :=
    cvtColor_eq_some hsrc hdst rfl rfl
  refine ⟨{ alloc.create format input.width input.height with
    pixelData := cvtColorData rgbToGray code input.matView dst }, ?_, rfl, rfl, rfl, ?_, ?_⟩
  · simp only [convertAndOutput, ImageFrame.matView_cols, ImageFrame.matView_rows, dst, hcvt,
      hrgba, Option.bind_eq_bind, Option.some_bind, if_false]
    rfl
  · intro r hr c hc k hk
    rw [if_neg fun h => hrgba h.1]
    exact cvtColorData_pixel hr hc hk
  · exact fun o ho => cvtColorData_padding ho

/-- When OpenCV does not take the input's channels for the conversion, it throws and the
process aborts. -/
theorem convertAndOutput_aborts (hsrc : code.acceptsSource input.format.numberOfChannels = false) :
    convertAndOutput rgbToGray alloc tag format code ⟨node, input, timestamp⟩ = none := by
  simp [convertAndOutput, cvtColor, hsrc]

end ConvertAndOutput

/-! ## `Process` -/

/-- The four conversions in the order `Process` tries them: input tag, output tag, output
format and code. -/
def conversions : List (String × String × ImageFormat × ColorConversion) :=
  [(kRgbaInTag, kRgbOutTag, .srgb, .rgba2rgb), (kGrayInTag, kRgbOutTag, .srgb, .gray2rgb),
    (kRgbInTag, kGrayOutTag, .gray8, .rgb2gray), (kRgbInTag, kRgbaOutTag, .srgba, .rgb2rgba)]

/-- The conversion `Process` takes: the first whose input and output tags the node has. -/
def conversionOf (node : ColorConvertNode) :
    Option (String × String × ImageFormat × ColorConversion) :=
  conversions.find? fun conversion =>
    decide (conversion.1 ∈ node.inputTags) && decide (conversion.2.1 ∈ node.outputTags)

theorem conversions_dstChannels :
    ∀ conversion ∈ conversions,
      conversion.2.2.1.numberOfChannels = conversion.2.2.2.dstChannels := by
  decide

theorem process_eq (rgbToGray : UInt8 → UInt8 → UInt8 → UInt8) (alloc : FrameAllocator)
    (cc : ColorConvertContext) :
    process rgbToGray alloc cc = match conversionOf cc.node with
      | some (_, tag, format, code) => convertAndOutput rgbToGray alloc tag format code cc
      | none => some (invalidArgumentError unsupportedConversionMessage, []) := by
  obtain ⟨⟨inputs, outputs⟩, input, timestamp⟩ := cc
  unfold process conversionOf conversions
  simp only [List.find?_cons, List.find?_nil]
  cases decide (kRgbaInTag ∈ inputs) && decide (kRgbOutTag ∈ outputs) <;>
    cases decide (kGrayInTag ∈ inputs) && decide (kRgbOutTag ∈ outputs) <;>
    cases decide (kRgbInTag ∈ inputs) && decide (kGrayOutTag ∈ outputs) <;>
    cases decide (kRgbInTag ∈ inputs) && decide (kRgbaOutTag ∈ outputs) <;> rfl

/-- For every node and every input: without any of the four tag pairs the node gets
`InvalidArgument`; otherwise `Process` takes the first conversion whose tags the node has,
emits the converted frame when OpenCV takes the input's channels for that conversion, and
aborts when it does not. -/
theorem process_converts (rgbToGray : UInt8 → UInt8 → UInt8 → UInt8) (alloc : FrameAllocator)
    (node : ColorConvertNode) (input : ImageFrame) (timestamp : Int) :
    match conversionOf node with
    | some (_, tag, format, code) =>
        (code.acceptsSource input.format.numberOfChannels →
          Converts rgbToGray alloc input timestamp tag format code
            (process rgbToGray alloc ⟨node, input, timestamp⟩)) ∧
        (code.acceptsSource input.format.numberOfChannels = false →
          process rgbToGray alloc ⟨node, input, timestamp⟩ = none)
    | none => process rgbToGray alloc ⟨node, input, timestamp⟩ =
        some (invalidArgumentError unsupportedConversionMessage, []) := by
  rw [process_eq]
  cases hconversion : conversionOf node with
  | none => rfl
  | some conversion =>
      obtain ⟨inputTag, tag, format, code⟩ := conversion
      have hdst := conversions_dstChannels _ (List.mem_of_find?_eq_some hconversion)
      exact ⟨fun hsrc =>
          convertAndOutput_converts rgbToGray alloc tag format code node input timestamp hsrc hdst,
        convertAndOutput_aborts rgbToGray alloc tag format code node input timestamp⟩

/-! ## `RGB_IN -> RGBA_OUT` -/

end MediaPipe.Image
