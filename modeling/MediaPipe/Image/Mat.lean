import Mathlib.Tactic

/-!
# `cv::Mat` bytes and `SetColorChannel`

A `cv::Mat` of depth `CV_8U` is a byte memory with `rows` rows of `cols` pixels of
`channels` bytes; row `r` starts at byte `r * step`.  `SetColorChannel` of
`color_convert_calculator.cc` walks each row with a stride of `channels` bytes from
`channel` up to `cols * channels`.  The main results say which bytes the loop sets and
that it leaves every other byte, the row padding included.
-/

namespace MediaPipe.Image

/-- A `CV_8U` matrix viewed as bytes; `step` is the row stride in bytes. -/
structure Mat where
  rows : Nat
  cols : Nat
  channels : Nat
  step : Nat
  data : Nat → UInt8
  channels_pos : 0 < channels
  row_fits : cols * channels ≤ step

/-- The inner loop of `SetColorChannel` over the row at `rowStart`:
`for (offset = channel; offset < limit; offset += step) row_ptr[offset] = value`. -/
def setRowChannel (rowStart step limit : Nat) (hstep : 0 < step) (value : UInt8)
    (offset : Nat) (data : Nat → UInt8) : Nat → UInt8 :=
  if offset < limit then
    setRowChannel rowStart step limit hstep value (offset + step)
      (Function.update data (rowStart + offset) value)
  else data
termination_by limit - offset

/-- The outer loop of `SetColorChannel` over the rows `rows`. -/
def setRowsChannel (mat : Mat) (channel : Nat) (value : UInt8) (rows : List Nat)
    (data : Nat → UInt8) : Nat → UInt8 :=
  rows.foldl
    (fun data r => setRowChannel (r * mat.step) mat.channels (mat.cols * mat.channels)
      mat.channels_pos value channel data)
    data

/-- `SetColorChannel(channel, value, mat)`; `none` when `CHECK(channel <
mat->channels())` fails and the process aborts. -/
def setColorChannel (channel : Nat) (value : UInt8) (mat : Mat) : Option Mat :=
  if channel < mat.channels then
    some { mat with data := setRowsChannel mat channel value (List.range mat.rows) mat.data }
  else none

/-- The byte of channel `k` of pixel `(r, c)`. -/
def Mat.offset (mat : Mat) (r c k : Nat) : Nat :=
  r * mat.step + c * mat.channels + k

/-- The pixel `(r, c)` and channel `k` whose byte is `o`; `none` for row padding
and bytes past the last row. -/
def Mat.pixelAt (mat : Mat) (o : Nat) : Option (Nat × Nat × Nat) :=
  if o / mat.step < mat.rows ∧ o % mat.step < mat.cols * mat.channels then
    some (o / mat.step, o % mat.step / mat.channels, o % mat.step % mat.channels)
  else none

/-! ## Pixel addresses -/

theorem Mat.pixelAt_offset (mat : Mat) {r c k : Nat} (hr : r < mat.rows)
    (hc : c < mat.cols) (hk : k < mat.channels) :
    mat.pixelAt (mat.offset r c k) = some (r, c, k) := by
  have hrow : c * mat.channels + k < mat.cols * mat.channels := by
    have := Nat.mul_le_mul_right mat.channels (Nat.succ_le_of_lt hc)
    rw [Nat.succ_mul] at this
    omega
  have hstep : c * mat.channels + k < mat.step := by
    have := mat.row_fits
    omega
  have hdiv : mat.offset r c k / mat.step = r := by
    rw [Mat.offset, Nat.add_assoc, Nat.add_comm, Nat.add_mul_div_right _ _ (by omega),
      Nat.div_eq_of_lt hstep, Nat.zero_add]
  have hmod : mat.offset r c k % mat.step = c * mat.channels + k := by
    rw [Mat.offset, Nat.add_assoc, Nat.add_comm, Nat.add_mul_mod_self_right,
      Nat.mod_eq_of_lt hstep]
  have hc' : (c * mat.channels + k) / mat.channels = c := by
    rw [Nat.add_comm, Nat.add_mul_div_right _ _ mat.channels_pos, Nat.div_eq_of_lt hk,
      Nat.zero_add]
  have hk' : (c * mat.channels + k) % mat.channels = k := by
    rw [Nat.add_comm, Nat.add_mul_mod_self_right, Nat.mod_eq_of_lt hk]
  rw [Mat.pixelAt, hdiv, hmod, hc', hk', if_pos ⟨hr, hrow⟩]

/-- Distinct pixel channels have distinct bytes. -/
theorem Mat.offset_inj (mat : Mat) {r c k r' c' k' : Nat} (hr : r < mat.rows)
    (hc : c < mat.cols) (hk : k < mat.channels) (hr' : r' < mat.rows)
    (hc' : c' < mat.cols) (hk' : k' < mat.channels)
    (heq : mat.offset r c k = mat.offset r' c' k') : r = r' ∧ c = c' ∧ k = k' := by
  have := mat.pixelAt_offset hr hc hk
  rw [heq, mat.pixelAt_offset hr' hc' hk'] at this
  simp only [Option.some.injEq, Prod.mk.injEq] at this
  exact ⟨this.1.symm, this.2.1.symm, this.2.2.symm⟩

/-- A byte that `pixelAt` decodes is the byte of that pixel channel. -/
theorem Mat.pixelAt_eq_some {mat : Mat} {o r c k : Nat}
    (hpixel : mat.pixelAt o = some (r, c, k)) :
    o = mat.offset r c k ∧ r < mat.rows ∧ c < mat.cols ∧ k < mat.channels := by
  unfold Mat.pixelAt at hpixel
  split at hpixel
  · rename_i hin
    simp only [Option.some.injEq, Prod.mk.injEq] at hpixel
    obtain ⟨rfl, rfl, rfl⟩ := hpixel
    have hpos := mat.channels_pos
    refine ⟨?_, hin.1, ?_, Nat.mod_lt _ hpos⟩
    · rw [Mat.offset, Nat.mul_comm (o % mat.step / mat.channels), Nat.add_assoc,
        Nat.div_add_mod, Nat.mul_comm, Nat.div_add_mod]
    · exact (Nat.div_lt_iff_lt_mul hpos).2 hin.2
  · cases hpixel

/-! ## One row -/

section Row

variable {rowStart step limit : Nat} {hstep : 0 < step} {value : UInt8}

/-- A byte already holding `value` keeps it. -/
theorem setRowChannel_keeps_value (offset : Nat) (data : Nat → UInt8) {o : Nat}
    (hvalue : data o = value) :
    setRowChannel rowStart step limit hstep value offset data o = value := by
  induction offset, data using setRowChannel.induct rowStart step limit hstep value with
  | case1 offset data hlt ih =>
      rw [setRowChannel, if_pos hlt]
      apply ih
      by_cases ho : o = rowStart + offset
      · rw [ho, Function.update_same]
      · rw [Function.update_noteq ho, hvalue]
  | case2 offset data hge =>
      rw [setRowChannel, if_neg hge]
      exact hvalue

/-- The loop sets every byte `offset + k * step` below `limit`. -/
theorem setRowChannel_sets (offset : Nat) (data : Nat → UInt8) (k : Nat)
    (hk : offset + k * step < limit) :
    setRowChannel rowStart step limit hstep value offset data
      (rowStart + (offset + k * step)) = value := by
  induction offset, data using setRowChannel.induct rowStart step limit hstep value
    generalizing k with
  | case1 offset data hlt ih =>
      rw [setRowChannel, if_pos hlt]
      cases k with
      | zero =>
          rw [Nat.zero_mul, Nat.add_zero]
          exact setRowChannel_keeps_value _ _ (Function.update_same _ _ _)
      | succ k =>
          have := ih k (by rw [Nat.succ_mul] at hk; omega)
          rwa [show offset + (k + 1) * step = offset + step + k * step by
            rw [Nat.succ_mul]; omega]
  | case2 offset data hge => omega

/-- The loop leaves every byte that is not one of its `offset + k * step`. -/
theorem setRowChannel_leaves (offset : Nat) (data : Nat → UInt8) {o : Nat}
    (ho : ∀ k, offset + k * step < limit → o ≠ rowStart + (offset + k * step)) :
    setRowChannel rowStart step limit hstep value offset data o = data o := by
  induction offset, data using setRowChannel.induct rowStart step limit hstep value with
  | case1 offset data hlt ih =>
      rw [setRowChannel, if_pos hlt, ih]
      · exact Function.update_noteq (by simpa using ho 0 (by simpa using hlt)) _ _
      · intro k hk
        have := ho (k + 1) (by rw [Nat.succ_mul]; omega)
        rwa [show offset + (k + 1) * step = offset + step + k * step by
          rw [Nat.succ_mul]; omega] at this
  | case2 offset data hge =>
      rw [setRowChannel, if_neg hge]

end Row

/-! ## All rows -/

section Rows

variable {mat : Mat} {channel : Nat} {value : UInt8}

theorem setRowsChannel_keeps_value (rows : List Nat) (data : Nat → UInt8) {o : Nat}
    (hvalue : data o = value) : setRowsChannel mat channel value rows data o = value := by
  induction rows generalizing data with
  | nil => exact hvalue
  | cons r rows ih => exact ih _ (setRowChannel_keeps_value _ _ hvalue)

theorem setRowsChannel_sets (hchannel : channel < mat.channels) (rows : List Nat)
    (data : Nat → UInt8) {r c : Nat} (hr : r ∈ rows) (hc : c < mat.cols) :
    setRowsChannel mat channel value rows data (mat.offset r c channel) = value := by
  induction rows generalizing data with
  | nil => simp at hr
  | cons r' rows ih =>
      rw [setRowsChannel, List.foldl_cons, ← setRowsChannel]
      rcases List.mem_cons.1 hr with rfl | hr
      · apply setRowsChannel_keeps_value
        have hk : channel + c * mat.channels < mat.cols * mat.channels := by
          have := Nat.mul_le_mul_right mat.channels (Nat.succ_le_of_lt hc)
          rw [Nat.succ_mul] at this
          omega
        have := @setRowChannel_sets (r * mat.step) mat.channels (mat.cols * mat.channels)
          mat.channels_pos value channel data c hk
        rwa [show r * mat.step + (channel + c * mat.channels) = mat.offset r c channel by
          unfold Mat.offset; omega] at this
      · exact ih _ hr

theorem setRowsChannel_leaves (rows : List Nat) (data : Nat → UInt8) {o : Nat}
    (ho : ∀ r ∈ rows, ∀ c < mat.cols, o ≠ mat.offset r c channel) :
    setRowsChannel mat channel value rows data o = data o := by
  induction rows generalizing data with
  | nil => rfl
  | cons r rows ih =>
      rw [setRowsChannel, List.foldl_cons, ← setRowsChannel,
        ih _ (fun r' hr' => ho r' (List.mem_cons_of_mem _ hr'))]
      apply setRowChannel_leaves
      intro k hk heq
      have hkc : k < mat.cols := by
        by_contra hge
        have := Nat.mul_le_mul_right mat.channels (Nat.le_of_not_lt hge)
        omega
      exact ho r (List.mem_cons_self _ _) k hkc (by rw [heq]; unfold Mat.offset; omega)

end Rows

/-! ## `SetColorChannel` -/

section SetColorChannel

variable {mat out : Mat} {channel : Nat} {value : UInt8}

theorem setColorChannel_shape (hset : setColorChannel channel value mat = some out) :
    out.rows = mat.rows ∧ out.cols = mat.cols ∧ out.channels = mat.channels ∧
      out.step = mat.step := by
  unfold setColorChannel at hset
  split at hset
  · cases hset
    exact ⟨rfl, rfl, rfl, rfl⟩
  · cases hset

/-- `SetColorChannel` sets channel `channel` of every pixel. -/
theorem setColorChannel_sets (hset : setColorChannel channel value mat = some out)
    {r c : Nat} (hr : r < mat.rows) (hc : c < mat.cols) :
    out.data (mat.offset r c channel) = value := by
  unfold setColorChannel at hset
  split at hset
  · cases hset
    exact setRowsChannel_sets ‹_› _ _ (List.mem_range.2 hr) hc
  · cases hset

/-- `SetColorChannel` changes no byte but channel `channel` of the pixels: the other
channels and the row padding keep their bytes. -/
theorem setColorChannel_leaves (hset : setColorChannel channel value mat = some out)
    {o : Nat} (ho : ∀ r < mat.rows, ∀ c < mat.cols, o ≠ mat.offset r c channel) :
    out.data o = mat.data o := by
  unfold setColorChannel at hset
  split at hset
  · cases hset
    exact setRowsChannel_leaves _ _ (fun r hr => ho r (List.mem_range.1 hr))
  · cases hset

theorem setColorChannel_isSome (hchannel : channel < mat.channels) :
    ∃ out, setColorChannel channel value mat = some out := by
  simp [setColorChannel, hchannel]

end SetColorChannel

end MediaPipe.Image
