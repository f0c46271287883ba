import MediaPipe.Segmentation.Options

/-!
# The mask shader and its dispatch

`InitGpu` compiles one compute shader twice, with and without `READ_PREVIOUS`, and
sets the `out_size` uniform of both programs to `(tensor_width_, tensor_height_)`;
`ProcessGpu` dispatches one of them over `RoundUp(w, 8) × RoundUp(h, 8)` workgroups
of `8 × 8` invocations.  An invocation is modelled by what it reads and where it
writes: the index of the `vec2` tensor element, the point it samples in the previous
mask, and the texel it stores.  The float arithmetic between them is not modelled.
-/

namespace MediaPipe.Segmentation

/-- `ivec2(gl_GlobalInvocationID.xy)` on one component: the 32-bit `uint` id
reinterpreted as an `int`. -/
def ivecOfUint (u : Nat) : Int :=
  if u % 2 ^ 32 < 2 ^ 31 then ((u % 2 ^ 32 : Nat) : Int)
  else ((u % 2 ^ 32 : Nat) : Int) - 2 ^ 32

/-- The `gid` of the invocation with global id `id`. -/
def gidOf (id : Nat × Nat) : Int × Int :=
  (ivecOfUint id.1, ivecOfUint id.2)

/-- The global invocation ids of a dispatch of `groups` workgroups, each of
`kWorkgroupSize × kWorkgroupSize × 1` invocations. -/
def globalInvocationIds (groups : Nat × Nat) : List (Nat × Nat) :=
  List.range (kWorkgroupSize.toNat * groups.1) ×ˢ
    List.range (kWorkgroupSize.toNat * groups.2)

/-- What the `READ_PREVIOUS` branch reads from the previous mask. -/
inductive PreviousRead where
  /-- The program was compiled without `READ_PREVIOUS`. -/
  | skipped
  /-- `normalized_gid` divides by a zero `out_width - 1` or `out_height - 1`. -/
  | undefined
  /-- `texture(input_texture, normalized_gid)` at this point. -/
  | sampled (point : ℚ × ℚ)
  deriving DecidableEq, Repr

/-- `vec2(gid) / vec2(out_width - 1, out_height - 1)`, sampled under `READ_PREVIOUS`. -/
def previousRead (readPrevious : Bool) (outSize gid : Int × Int) : PreviousRead :=
  if !readPrevious then .skipped
  else if outSize.1 - 1 = 0 ∨ outSize.2 - 1 = 0 then .undefined
  else .sampled ((gid.1 : ℚ) / ((outSize.1 - 1 : Int) : ℚ),
    (gid.2 : ℚ) / ((outSize.2 - 1 : Int) : ℚ))

/-- The accesses of one invocation of the shader's `main` past its guard. -/
structure MaskAccess where
  gid : Int × Int
  /-- `linear_index = gid.y * out_width + gid.x`, the `vec2` element it reads. -/
  linearIndex : Int
  previous : PreviousRead
  /-- `output_coordinate = ivec2(gid.x, out_height - gid.y - 1)`, the texel it
  stores. -/
  outputCoordinate : Int × Int
  deriving DecidableEq, Repr

/-- The mask shader's `main`; `none` when `gid.x >= out_width || gid.y >= out_height`
returns early. -/
def maskShaderMain (readPrevious : Bool) (outSize gid : Int × Int) : Option MaskAccess :=
  if gid.1 ≥ outSize.1 ∨ gid.2 ≥ outSize.2 then none
  else some
    { gid := gid
      linearIndex := gid.2 * outSize.1 + gid.1
      previous := previousRead readPrevious outSize gid
      outputCoordinate := (gid.1, outSize.2 - gid.2 - 1) }

/-- The `int` values `linear_index` computes: `gid.y * out_width`, then the sum. -/
def linearIndexSteps (outSize gid : Int × Int) : List Int :=
  [gid.2 * outSize.1, gid.2 * outSize.1 + gid.1]

/-- `Dispatch(workgroups)`: the invocations of the grid that pass the guard, with
their accesses. -/
def maskDispatch (readPrevious : Bool) (outSize : Int × Int) (groups : Nat × Nat) :
    List MaskAccess :=
  ((globalInvocationIds groups).map gidOf).filterMap (maskShaderMain readPrevious outSize)

/-- The mask pass of `ProcessGpu`: the grid of `workgroups dims`, run with the
`out_size` uniform that `InitGpu` sets to the tensor dimensions. -/
def maskPass (readPrevious : Bool) (dims : TensorDims) : List MaskAccess :=
  maskDispatch readPrevious (dims.width, dims.height) (workgroups dims)

/-- None of the `int` computations of the mask pass overflows: `RoundUp` of both
dimensions, `tensor_length`, and `linear_index` of every invocation past the guard. -/
def MaskPassFitsInt (readPrevious : Bool) (dims : TensorDims) : Prop :=
  (∀ v ∈ roundUpSteps dims.width kWorkgroupSize, FitsInt v) ∧
  (∀ v ∈ roundUpSteps dims.height kWorkgroupSize, FitsInt v) ∧
  (∀ v ∈ tensorLengthSteps dims, FitsInt v) ∧
  ∀ a ∈ maskPass readPrevious dims,
    ∀ v ∈ linearIndexSteps (dims.width, dims.height) a.gid, FitsInt v

/-- Tensor dimensions whose mask-pass arithmetic stays within `int`. -/
structure DimsInRange (dims : TensorDims) : Prop where
  width_nonneg : 0 ≤ dims.width
  height_nonneg : 0 ≤ dims.height
  width_roundUp : dims.width + kWorkgroupSize ≤ intMax
  height_roundUp : dims.height + kWorkgroupSize ≤ intMax
  length_le : dims.width * dims.height * dims.channels ≤ intMax

/-- The `out_size` guard of the shader. -/
def InBox (outSize gid : Int × Int) : Prop :=
  0 ≤ gid.1 ∧ gid.1 < outSize.1 ∧ 0 ≤ gid.2 ∧ gid.2 < outSize.2

instance (outSize gid : Int × Int) : Decidable (InBox outSize gid) :=
  inferInstanceAs (Decidable (_ ∧ _))

/-- The access of the invocation `gid` once it is past the guard. -/
def maskAccessAt (readPrevious : Bool) (outSize gid : Int × Int) : MaskAccess :=
  { gid := gid
    linearIndex := gid.2 * outSize.1 + gid.1
    previous := previousRead readPrevious outSize gid
    outputCoordinate := (gid.1, outSize.2 - gid.2 - 1) }

/-! ## One invocation -/

theorem maskShaderMain_eq (readPrevious : Bool) (outSize gid : Int × Int) :
    maskShaderMain readPrevious outSize gid =
      if gid.1 < outSize.1 ∧ gid.2 < outSize.2 then
        some (maskAccessAt readPrevious outSize gid)
      else none := by
  unfold maskShaderMain
  by_cases h : gid.1 < outSize.1 ∧ gid.2 < outSize.2
  · rw [if_neg (by omega), if_pos h]
    rfl
  · rw [if_pos (by omega), if_neg h]

/-- Running `main` over a list of gids keeps those past the guard, in order. -/
theorem filterMap_maskShaderMain (readPrevious : Bool) (outSize : Int × Int)
    (gids : List (Int × Int)) :
    gids.filterMap (maskShaderMain readPrevious outSize) =
      (gids.filter fun gid => gid.1 < outSize.1 ∧ gid.2 < outSize.2).map
        (maskAccessAt readPrevious outSize) := by
  induction gids with
  | nil => rfl
  | cons gid gids ih =>
      rw [List.filterMap_cons, maskShaderMain_eq, List.filter_cons]
      by_cases h : gid.1 < outSize.1 ∧ gid.2 < outSize.2 <;> simp [h, ih]

/-! ## The grid -/

theorem ivecOfUint_of_lt {u : Nat} (hu : u < 2 ^ 31) : ivecOfUint u = u := by
  unfold ivecOfUint
  rw [Nat.mod_eq_of_lt (by omega), if_pos hu]

theorem mem_globalInvocationIds {groups id : Nat × Nat} :
    id ∈ globalInvocationIds groups ↔ id.1 < 8 * groups.1 ∧ id.2 < 8 * groups.2 := by
  obtain ⟨i, j⟩ := id
  simp [globalInvocationIds, kWorkgroupSize]

/-- A grid whose ids stay below `2^31`, where each `gid` is its id. -/
def GridInRange (groups : Nat × Nat) : Prop :=
  8 * groups.1 ≤ 2 ^ 31 ∧ 8 * groups.2 ≤ 2 ^ 31

section Grid

variable {groups : Nat × Nat}

theorem mem_map_gidOf (hgrid : GridInRange groups) {gid : Int × Int} :
    gid ∈ (globalInvocationIds groups).map gidOf ↔
      0 ≤ gid.1 ∧ gid.1 < 8 * groups.1 ∧ 0 ≤ gid.2 ∧ gid.2 < 8 * groups.2 := by
  obtain ⟨hx, hy⟩ := hgrid
  simp only [List.mem_map, mem_globalInvocationIds, gidOf, Prod.exists]
  constructor
  · rintro ⟨i, j, ⟨hi, hj⟩, rfl⟩
    rw [ivecOfUint_of_lt (by omega), ivecOfUint_of_lt (by omega)]
    omega
  · obtain ⟨x, y⟩ := gid
    rintro ⟨hx0, hx1, hy0, hy1⟩
    refine ⟨x.toNat, y.toNat, ⟨by omega, by omega⟩, ?_⟩
    rw [ivecOfUint_of_lt (by omega), ivecOfUint_of_lt (by omega)]
    simp only [Prod.mk.injEq]
    omega

theorem nodup_map_gidOf (hgrid : GridInRange groups) :
    ((globalInvocationIds groups).map gidOf).Nodup := by
  obtain ⟨hx, hy⟩ := hgrid
  refine List.Nodup.map_on ?_ ((List.nodup_range _).product (List.nodup_range _))
  intro a ha b hb hab
  rw [mem_globalInvocationIds] at ha hb
  simp only [gidOf, Prod.mk.injEq] at hab
  rw [ivecOfUint_of_lt (by omega), ivecOfUint_of_lt (by omega),
    ivecOfUint_of_lt (by omega), ivecOfUint_of_lt (by omega)] at hab
  ext <;> omega

end Grid

/-- An exact mask pass: no `int` overflow, one invocation past the
guard per tensor element, reads inside the buffer `InitGpu` allocated, and one store
per texel of the `w × h` small mask. -/
structure MaskPassExact (readPrevious : Bool) (dims : TensorDims) : Prop where
  fitsInt : MaskPassFitsInt readPrevious dims
  workgroups_eq : workgroups dims =
    ((roundUp dims.width kWorkgroupSize).toNat, (roundUp dims.height kWorkgroupSize).toNat)
  gid_nodup : ((maskPass readPrevious dims).map (·.gid)).Nodup
  mem_gid : ∀ gid, gid ∈ (maskPass readPrevious dims).map (·.gid) ↔
    InBox (dims.width, dims.height) gid
  access : ∀ a ∈ maskPass readPrevious dims,
    a.linearIndex = a.gid.2 * dims.width + a.gid.1 ∧ 0 ≤ a.linearIndex ∧
      a.linearIndex < ((tensorLength dims / 2 : Nat) : Int) ∧
      a.outputCoordinate = (a.gid.1, dims.height - 1 - a.gid.2)
  texel_nodup : ((maskPass readPrevious dims).map (·.outputCoordinate)).Nodup
  mem_texel : ∀ t, t ∈ (maskPass readPrevious dims).map (·.outputCoordinate) ↔
    InBox (dims.width, dims.height) t

/-! ## Dimensions in range -/

theorem roundUp_eq_of_nonneg {v : Int} (hv : 0 ≤ v) :
    roundUp v kWorkgroupSize = (v + 7) / 8 := by
  unfold roundUp kWorkgroupSize
  rw [Int.tdiv_eq_ediv (by omega) (by omega)]
  omega

/-- The texel stored for the tensor element `gid`: the element's row is flipped. -/
def flipRow (height : Int) (gid : Int × Int) : Int × Int :=
  (gid.1, height - gid.2 - 1)

theorem flipRow_injective (height : Int) : Function.Injective (flipRow height) := by
  intro a b hab
  simp only [flipRow, Prod.mk.injEq] at hab
  ext <;> omega

/-- Flipping the rows maps the box of the guard onto itself. -/
theorem mem_map_flipRow (outSize : Int × Int) {gids : List (Int × Int)}
    (hmem : ∀ gid, gid ∈ gids ↔ InBox outSize gid) (t : Int × Int) :
    t ∈ gids.map (flipRow outSize.2) ↔ InBox outSize t := by
  rw [List.mem_map]
  constructor
  · rintro ⟨gid, hgid, rfl⟩
    have := (hmem gid).1 hgid
    simp only [InBox, flipRow] at this ⊢
    omega
  · intro ht
    refine ⟨flipRow outSize.2 t, (hmem _).2 ?_, ?_⟩
    · simp only [InBox, flipRow] at ht ⊢
      omega
    · exact Prod.ext rfl (by simp only [flipRow]; omega)

theorem maskPass_eq (readPrevious : Bool) (dims : TensorDims) :
    maskPass readPrevious dims =
      (((globalInvocationIds (workgroups dims)).map gidOf).filter
        fun gid => gid.1 < dims.width ∧ gid.2 < dims.height).map
        (maskAccessAt readPrevious (dims.width, dims.height)) :=
  filterMap_maskShaderMain _ _ _

theorem map_gid_maskPass (readPrevious : Bool) (dims : TensorDims) :
    (maskPass readPrevious dims).map (·.gid) =
      ((globalInvocationIds (workgroups dims)).map gidOf).filter
        (fun gid => gid.1 < dims.width ∧ gid.2 < dims.height) := by
  rw [maskPass_eq, List.map_map]
  exact List.map_id' _

theorem map_outputCoordinate_maskPass (readPrevious : Bool) (dims : TensorDims) :
    (maskPass readPrevious dims).map (·.outputCoordinate) =
      (((globalInvocationIds (workgroups dims)).map gidOf).filter
        (fun gid => gid.1 < dims.width ∧ gid.2 < dims.height)).map
        (flipRow dims.height) := by
  rw [maskPass_eq, List.map_map]
  rfl

theorem roundUpSteps_fitsInt {v : Int} (hv : 0 ≤ v) (h8 : v + kWorkgroupSize ≤ intMax) :
    ∀ x ∈ roundUpSteps v kWorkgroupSize, FitsInt x := by
  simp only [roundUpSteps, roundUp_eq_of_nonneg hv, List.forall_mem_cons,
    List.not_mem_nil, false_imp_iff, implies_true, and_true, FitsInt]
  simp only [intMin, intMax, kWorkgroupSize] at *
  omega

/-- The linear index of an invocation past the guard lies inside the `w × h` tensor. -/
theorem linearIndex_lt {w h : Int} {gid : Int × Int} (hbox : InBox (w, h) gid) :
    0 ≤ gid.1 ∧ 0 ≤ gid.2 * w ∧ gid.2 * w + gid.1 < w * h := by
  obtain ⟨hx0, hx1, hy0, hy1⟩ := hbox
  exact ⟨hx0, mul_nonneg hy0 (by omega), by nlinarith⟩

section InRange

variable {dims : TensorDims} (hrange : DimsInRange dims)
include hrange

theorem workgroups_eq_of_inRange :
    workgroups dims = (((dims.width + 7) / 8).toNat, ((dims.height + 7) / 8).toNat) := by
  have := hrange.width_nonneg
  have := hrange.height_nonneg
  have := hrange.width_roundUp
  have := hrange.height_roundUp
  simp only [workgroups, toUint, roundUp_eq_of_nonneg hrange.width_nonneg,
    roundUp_eq_of_nonneg hrange.height_nonneg, Prod.mk.injEq]
  simp only [intMax, kWorkgroupSize] at *
  omega

theorem gridInRange_workgroups : GridInRange (workgroups dims) := by
  have := hrange.width_roundUp
  have := hrange.height_roundUp
  rw [workgroups_eq_of_inRange hrange, GridInRange]
  simp only [intMax, kWorkgroupSize] at *
  omega

theorem mem_filter_gids {gid : Int × Int} :
    gid ∈ ((globalInvocationIds (workgroups dims)).map gidOf).filter
        (fun gid => gid.1 < dims.width ∧ gid.2 < dims.height) ↔
      InBox (dims.width, dims.height) gid := by
  have hw := hrange.width_nonneg
  have hh := hrange.height_nonneg
  rw [List.mem_filter, mem_map_gidOf (gridInRange_workgroups hrange),
    workgroups_eq_of_inRange hrange, InBox]
  simp only [decide_eq_true_eq]
  omega

theorem nodup_filter_gids :
    (((globalInvocationIds (workgroups dims)).map gidOf).filter
      (fun gid => gid.1 < dims.width ∧ gid.2 < dims.height)).Nodup :=
  (nodup_map_gidOf (gridInRange_workgroups hrange)).filter _

theorem mem_maskPass {readPrevious : Bool} {a : MaskAccess} :
    a ∈ maskPass readPrevious dims ↔
      InBox (dims.width, dims.height) a.gid ∧
        a = maskAccessAt readPrevious (dims.width, dims.height) a.gid := by
  rw [maskPass_eq, List.mem_map]
  constructor
  · rintro ⟨gid, hgid, rfl⟩
    exact ⟨(mem_filter_gids hrange).1 hgid, rfl⟩
  · rintro ⟨hbox, ha⟩
    exact ⟨a.gid, (mem_filter_gids hrange).2 hbox, ha.symm⟩

theorem tensorLength_div_two (hchannels : dims.channels = 2) :
    ((tensorLength dims / 2 : Nat) : Int) = dims.width * dims.height := by
  have hlen := hrange.length_le
  have hwh : 0 ≤ dims.width * dims.height :=
    mul_nonneg hrange.width_nonneg hrange.height_nonneg
  rw [hchannels] at hlen
  simp only [intMax] at hlen
  have hmod : dims.width * dims.height * 2 % 2 ^ 64 = dims.width * dims.height * 2 :=
    Int.emod_eq_of_lt (by omega) (by omega)
  simp only [tensorLength, toSizeT, hchannels, hmod]
  omega

theorem maskPass_fitsInt (hchannels : dims.channels = 2) (readPrevious : Bool) :
    MaskPassFitsInt readPrevious dims := by
  have hlen := hrange.length_le
  have hwh : 0 ≤ dims.width * dims.height := mul_nonneg hrange.width_nonneg hrange.height_nonneg
  rw [hchannels] at hlen
  refine ⟨roundUpSteps_fitsInt hrange.width_nonneg hrange.width_roundUp,
    roundUpSteps_fitsInt hrange.height_nonneg hrange.height_roundUp, ?_, fun a ha => ?_⟩
  · simp only [tensorLengthSteps, hchannels, List.forall_mem_cons, List.not_mem_nil,
      false_imp_iff, implies_true, and_true, FitsInt]
    simp only [intMin, intMax] at *
    omega
  · obtain ⟨hx0, hnn, hlt⟩ := linearIndex_lt ((mem_maskPass hrange).1 ha).1
    simp only [linearIndexSteps, List.forall_mem_cons, List.not_mem_nil, false_imp_iff,
      implies_true, and_true, FitsInt]
    simp only [intMin, intMax] at *
    omega

end InRange

/-- For the dimensions `LoadOptions` accepts whose `RoundUp` and `tensor_length`
arithmetic stays within `int`, the mask pass is memory-safe and exact. -/
theorem maskPass_exact {options : Options} {dims : TensorDims}
    (hload : loadOptions options = .ok dims) (hrange : DimsInRange dims)
    (readPrevious : Bool) : MaskPassExact readPrevious dims where
  fitsInt := maskPass_fitsInt hrange (loadOptions_dims hload).2.2 readPrevious
  workgroups_eq := by
    rw [workgroups_eq_of_inRange hrange, roundUp_eq_of_nonneg hrange.width_nonneg,
      roundUp_eq_of_nonneg hrange.height_nonneg]
  gid_nodup := by
    rw [map_gid_maskPass]
    exact nodup_filter_gids hrange
  mem_gid := by
    rw [map_gid_maskPass]
    exact fun _ => mem_filter_gids hrange
  access := by
    intro a ha
    obtain ⟨hbox, ha⟩ := (mem_maskPass hrange).1 ha
    obtain ⟨hx0, hnn, hlt⟩ := linearIndex_lt hbox
    rw [ha, tensorLength_div_two hrange (loadOptions_dims hload).2.2]
    simp only [maskAccessAt, Prod.mk.injEq, true_and]
    omega
  texel_nodup := by
    rw [map_outputCoordinate_maskPass]
    exact (nodup_filter_gids hrange).map (flipRow_injective _)
  mem_texel := by
    rw [map_outputCoordinate_maskPass]
    exact mem_map_flipRow (dims.width, dims.height) (fun _ => mem_filter_gids hrange)

theorem maskPass_exact_at_512 :
    loadOptions ⟨some 512, some 512, some 2⟩ = .ok ⟨512, 512, 2⟩ ∧
      DimsInRange ⟨512, 512, 2⟩ ∧ MaskPassExact true ⟨512, 512, 2⟩ := by
  have hload : loadOptions ⟨some 512, some 512, some 2⟩ = .ok ⟨512, 512, 2⟩ := rfl
  have hrange : DimsInRange ⟨512, 512, 2⟩ :=
    ⟨by decide, by decide, by decide, by decide, by decide⟩
  exact ⟨hload, hrange, maskPass_exact hload hrange true⟩

/-- `LoadOptions` accepts a `65536 × 65536` tensor, whose `tensor_length` overflows. -/
theorem maskPass_overflows_at_65536 :
    loadOptions ⟨some 65536, some 65536, some 2⟩ = .ok ⟨65536, 65536, 2⟩ ∧
      ¬ MaskPassExact false ⟨65536, 65536, 2⟩ := by
  refine ⟨rfl, fun hexact => ?_⟩
  have hfits := hexact.fitsInt.2.2.1 (65536 * 65536) (by simp [tensorLengthSteps])
  revert hfits
  decide

end MediaPipe.Segmentation
