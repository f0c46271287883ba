import MediaPipe.Segmentation.MaskShader

/-!
# Reading the previous mask

Under `READ_PREVIOUS` the mask shader blends each tensor element with the previous
mask sampled at `vec2(gid) / vec2(out_width - 1, out_height - 1)`, while it stores
the element at the row-flipped texel `(gid.x, out_height - gid.y - 1)`.  `GlRender`
upsamples the small mask into `MASK_GPU` with a quad whose texture coordinates are
its normalized window coordinates, so a mask fed back as `PREV_MASK_GPU` is read in
the small mask's own normalized coordinates.  The read is not flipped: element
`(x, y)` samples the cell of texel `(x, y)`, where element `(x, h - 1 - y)` was
stored.
-/

namespace MediaPipe.Segmentation

/-- The closed normalized cell of texel `texel` of a texture of size `size`. -/
def InTexelCell (size texel : Int × Int) (p : ℚ × ℚ) : Prop :=
  (texel.1 : ℚ) / size.1 ≤ p.1 ∧ p.1 ≤ ((texel.1 + 1 : Int) : ℚ) / size.1 ∧
  (texel.2 : ℚ) / size.2 ≤ p.2 ∧ p.2 ≤ ((texel.2 + 1 : Int) : ℚ) / size.2

instance (size texel : Int × Int) (p : ℚ × ℚ) : Decidable (InTexelCell size texel p) :=
  inferInstanceAs (Decidable (_ ∧ _))

/-! ## `GlRender` -/

/-- `square_vertices` of `GlRender`, in clip coordinates. -/
def squareVertices : List (ℚ × ℚ) := [(-1, -1), (1, -1), (-1, 1), (1, 1)]

/-- `texture_vertices` of `GlRender`. -/
def textureVertices : List (ℚ × ℚ) := [(0, 0), (1, 0), (0, 1), (1, 1)]

/-- The viewport transform from clip coordinates to normalized window coordinates. -/
def viewportOf (p : ℚ × ℚ) : ℚ × ℚ :=
  ((p.1 + 1) / 2, (p.2 + 1) / 2)

/-- The value of a vertex attribute at a fragment with barycentric weights `w` in the
triangle `(a, b, c)`. -/
def interpolate (w : ℚ × ℚ × ℚ) (a b c : ℚ × ℚ) : ℚ × ℚ :=
  (w.1 * a.1 + w.2.1 * b.1 + w.2.2 * c.1, w.1 * a.2 + w.2.1 * b.2 + w.2.2 * c.2)

/-- Each texture coordinate of the quad is its vertex in window coordinates. -/
theorem textureVertices_get (i : Fin 4) :
    textureVertices.get (i.cast rfl) = viewportOf (squareVertices.get (i.cast rfl)) := by
  fin_cases i <;> norm_num [textureVertices, squareVertices, viewportOf]

/-- Interpolating window positions with weights summing to one commutes with the
viewport transform. -/
theorem interpolate_viewportOf (w : ℚ × ℚ × ℚ) (hw : w.1 + w.2.1 + w.2.2 = 1)
    (a b c : ℚ × ℚ) :
    interpolate w (viewportOf a) (viewportOf b) (viewportOf c) =
      viewportOf (interpolate w a b c) := by
  simp only [interpolate, viewportOf, Prod.mk.injEq]
  constructor <;> linear_combination (1 / 2 : ℚ) * hw

/-- Every fragment of a triangle of `GlRender`'s quad samples the small mask at its
own normalized window coordinates: the upsampling does not flip. -/
theorem glRender_samples_at_window (i j k : Fin 4) (w : ℚ × ℚ × ℚ)
    (hw : w.1 + w.2.1 + w.2.2 = 1) :
    interpolate w (textureVertices.get (i.cast rfl)) (textureVertices.get (j.cast rfl))
        (textureVertices.get (k.cast rfl)) =
      viewportOf (interpolate w (squareVertices.get (i.cast rfl))
        (squareVertices.get (j.cast rfl)) (squareVertices.get (k.cast rfl))) := by
  rw [textureVertices_get, textureVertices_get, textureVertices_get,
    interpolate_viewportOf w hw]

/-! ## The previous-mask read -/

/-- With a side of one texel, `normalized_gid` divides by zero. -/
theorem previousRead_undefined {outSize gid : Int × Int}
    (hone : outSize.1 = 1 ∨ outSize.2 = 1) :
    previousRead true outSize gid = .undefined := by
  simp only [previousRead, Bool.not_true, Bool.false_eq_true, if_false]
  rw [if_pos (by omega)]

/-- Element `(x, y)` of a tensor of at least two texels a side samples inside the
cell of texel `(x, y)`. -/
theorem previousRead_in_own_row {outSize gid : Int × Int}
    (hw : 2 ≤ outSize.1) (hh : 2 ≤ outSize.2) (hbox : InBox outSize gid) :
    ∃ p, previousRead true outSize gid = .sampled p ∧ InTexelCell outSize gid p := by
  obtain ⟨hx0, hx1, hy0, hy1⟩ := hbox
  refine ⟨_, by rw [previousRead, if_neg (by simp), if_neg (by omega)], ?_⟩
  have hx : (0 : ℚ) ≤ gid.1 ∧ (gid.1 : ℚ) + 1 ≤ outSize.1 :=
    ⟨by exact_mod_cast hx0, by exact_mod_cast (show gid.1 + 1 ≤ outSize.1 by omega)⟩
  have hy : (0 : ℚ) ≤ gid.2 ∧ (gid.2 : ℚ) + 1 ≤ outSize.2 :=
    ⟨by exact_mod_cast hy0, by exact_mod_cast (show gid.2 + 1 ≤ outSize.2 by omega)⟩
  have hw' : (1 : ℚ) ≤ (outSize.1 - 1 : Int) := by exact_mod_cast (by omega)
  have hh' : (1 : ℚ) ≤ (outSize.2 - 1 : Int) := by exact_mod_cast (by omega)
  simp only [InTexelCell]
  push_cast at hw' hh' ⊢
  refine ⟨?_, ?_, ?_, ?_⟩ <;> rw [div_le_div_iff₀ (by linarith) (by linarith)] <;> nlinarith

/-- The cell element `(x, y)` reads holds the value stored by element
`(x, out_height - 1 - y)`: the read mirrors the rows of the write. -/
theorem previousRead_reads_mirrored_element {outSize gid : Int × Int}
    (hw : 2 ≤ outSize.1) (hh : 2 ≤ outSize.2) (hbox : InBox outSize gid) :
    ∃ p, previousRead true outSize gid = .sampled p ∧
      InTexelCell outSize
        (maskAccessAt true outSize (gid.1, outSize.2 - 1 - gid.2)).outputCoordinate p := by
  obtain ⟨p, hp, hcell⟩ := previousRead_in_own_row hw hh hbox
  refine ⟨p, hp, ?_⟩
  have hflip : (maskAccessAt true outSize (gid.1, outSize.2 - 1 - gid.2)).outputCoordinate =
      gid := by
    simp only [maskAccessAt]
    exact Prod.ext rfl (by simp only; omega)
  rwa [hflip]

theorem previousRead_reads_mirrored_element_at_3x3 :
    let outSize : Int × Int := (3, 3)
    let gid : Int × Int := (1, 0)
    2 ≤ outSize.1 ∧ 2 ≤ outSize.2 ∧ InBox outSize gid ∧
      ∃ p, previousRead true outSize gid = .sampled p ∧
        InTexelCell outSize
          (maskAccessAt true outSize (gid.1, outSize.2 - 1 - gid.2)).outputCoordinate p := by
  intro outSize gid
  have hw : 2 ≤ outSize.1 := by decide
  have hh : 2 ≤ outSize.2 := by decide
  have hbox : InBox outSize gid := by decide
  exact ⟨hw, hh, hbox, previousRead_reads_mirrored_element hw hh hbox⟩

/-- At a `2 × 2` tensor, element `(0, 0)` is stored at texel `(0, 1)` but samples the
previous mask at `(0, 0)`, inside the cell of texel `(0, 0)` where element `(0, 1)` is
stored. -/
theorem previousRead_flipped_at_2x2 :
    loadOptions ⟨some 2, some 2, some 2⟩ = .ok ⟨2, 2, 2⟩ ∧
      previousRead true (2, 2) (0, 0) = .sampled (0, 0) ∧
      (maskAccessAt true (2, 2) (0, 0)).outputCoordinate = (0, 1) ∧
      ¬ InTexelCell (2, 2) (0, 1) (0, 0) ∧
      (maskAccessAt true (2, 2) (0, 1)).outputCoordinate = (0, 0) ∧
      InTexelCell (2, 2) (0, 0) (0, 0) := by
  refine ⟨rfl, ?_, rfl, ?_, rfl, ?_⟩ <;> norm_num [previousRead, InTexelCell]

/-- At a `1 × 1` tensor the read divides by zero. -/
theorem previousRead_undefined_at_1x1 :
    loadOptions ⟨some 1, some 1, some 2⟩ = .ok ⟨1, 1, 2⟩ ∧
      previousRead true (1, 1) (0, 0) = .undefined :=
  ⟨rfl, previousRead_undefined (.inl rfl)⟩

end MediaPipe.Segmentation
