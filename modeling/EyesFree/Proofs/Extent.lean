import EyesFree.Capture.Synthesis

namespace EyesFree

/-! Where the arithmetic of a result can fail: only the extent of the active array may not
be a 32-bit integer. Half an extent is so far from both ends of the range that the target
square around it always fits. -/

def Rect.HasExtent (rect : Rect) : Prop :=
  (∃ width, rect.width = .ok width) ∧ ∃ height, rect.height = .ok height

/-! ## Checked integers -/

private theorem toInt32_eq_ok {fault : Fault} {value : Int} (low : -2147483648 ≤ value)
    (high : value ≤ 2147483647) : toInt32 fault value = .ok (Int32.ofInt value) := by
  rw [toInt32, Int32.toInt_minValue, Int32.toInt_maxValue, if_pos ⟨low, high⟩]

def IsInt32 (value : Int) : Prop := -2147483648 ≤ value ∧ value ≤ 2147483647

private theorem toInt32_cases (fault : Fault) (value : Int) :
    (IsInt32 value ∧ ∃ number, toInt32 fault value = .ok number ∧ number.toInt = value) ∨
      ¬IsInt32 value ∧ toInt32 fault value = .error fault := by
  by_cases within : IsInt32 value
  · obtain ⟨low, high⟩ := within
    exact .inl ⟨⟨low, high⟩, _, toInt32_eq_ok low high, Int32.toInt_ofInt_of_le low (by omega)⟩
  · refine .inr ⟨within, ?_⟩
    rw [toInt32, Int32.toInt_minValue, Int32.toInt_maxValue]
    exact if_neg within

private theorem exists_toInt32_iff {fault : Fault} {value : Int} :
    (∃ number, toInt32 fault value = .ok number) ↔ IsInt32 value := by
  rcases toInt32_cases fault value with ⟨within, number, equal, _⟩ | ⟨outside, equal⟩
  · exact iff_of_true ⟨number, equal⟩ within
  · exact iff_of_false (by simp [equal]) outside

theorem toInt_of_toInt32 {fault : Fault} {value : Int} {number : Int32}
    (equal : toInt32 fault value = .ok number) : number.toInt = value := by
  rcases toInt32_cases fault value with ⟨_, other, given, exact⟩ | ⟨_, failed⟩
  · rw [given] at equal
    cases equal
    exact exact
  · rw [failed] at equal
    cases equal

private theorem subInt32_cases (left right : Int32) :
    (∃ difference, subInt32 left right = .ok difference) ∨
      subInt32 left right = .error .subtraction := by
  rcases toInt32_cases .subtraction (left.toInt - right.toInt) with
    ⟨_, difference, equal, _⟩ | ⟨_, failed⟩
  · exact .inl ⟨difference, equal⟩
  · exact .inr failed

theorem Rect.hasExtent_iff {rect : Rect} :
    rect.HasExtent ↔ IsInt32 (rect.right.toInt - rect.left.toInt) ∧
      IsInt32 (rect.bottom.toInt - rect.top.toInt) :=
  and_congr exists_toInt32_iff exists_toInt32_iff

/-! ## Half extents -/

private theorem subInt32_zero_eq_ok (value : Int32) : subInt32 value 0 = .ok value := by
  have low := Int32.le_toInt value
  have high := Int32.toInt_lt value
  have zero : Int32.toInt 0 = 0 := rfl
  rw [subInt32, zero, Int.sub_zero, toInt32_eq_ok low (by omega), Int32.ofInt_toInt]

theorem Rect.hasExtent_ofExtent (width height : Int32) : (Rect.ofExtent width height).HasExtent :=
  ⟨⟨width, subInt32_zero_eq_ok width⟩, ⟨height, subInt32_zero_eq_ok height⟩⟩

theorem toInt_half (extent : Int32) : (extent / 2).toInt = extent.toInt.tdiv 2 :=
  Int32.toInt_div_of_ne_right extent 2 (by decide)

private theorem neg_le_toInt_half (extent : Int32) : -1073741824 ≤ (extent / 2).toInt := by
  have low := Int32.le_toInt extent
  have one : Int.sign 2 = 1 := rfl
  rw [toInt_half, Int.tdiv_eq_ediv, one]
  split <;> omega

private theorem toInt_half_le (extent : Int32) : (extent / 2).toInt ≤ 1073741824 := by
  have high := Int32.toInt_lt extent
  have one : Int.sign 2 = 1 := rfl
  rw [toInt_half, Int.tdiv_eq_ediv, one]
  split <;> omega

theorem subInt32_half_eq_ok (extent : Int32) :
    subInt32 (extent / 2) targetHalfExtent =
      .ok (Int32.ofInt ((extent / 2).toInt - targetHalfExtent.toInt)) := by
  have low := neg_le_toInt_half extent
  have high := toInt_half_le extent
  have margin : targetHalfExtent.toInt = 5 := by decide
  exact toInt32_eq_ok (by omega) (by omega)

theorem addInt32_half_eq_ok (extent : Int32) :
    addInt32 (extent / 2) targetHalfExtent =
      .ok (Int32.ofInt ((extent / 2).toInt + targetHalfExtent.toInt)) := by
  have low := neg_le_toInt_half extent
  have high := toInt_half_le extent
  have margin : targetHalfExtent.toInt = 5 := by decide
  exact toInt32_eq_ok (by omega) (by omega)

/-! ## Results -/

theorem Rect.HasExtent.targetCoordinates {rect : Rect} (extent : rect.HasExtent) :
    ∃ corners, rect.targetCoordinates = .ok corners := by
  obtain ⟨⟨width, widthEqual⟩, height, heightEqual⟩ := extent
  simp only [Rect.targetCoordinates, widthEqual, heightEqual, subInt32_half_eq_ok,
    addInt32_half_eq_ok, bind, Except.bind]
  exact ⟨_, rfl⟩

/-- There is no target if the array has no proper extent, which is noticed when one edge is
subtracted from the other. -/
theorem Rect.targetCoordinates_eq_error_iff {rect : Rect} {fault : Fault} :
    rect.targetCoordinates = .error fault ↔ fault = .subtraction ∧ ¬rect.HasExtent := by
  by_cases extent : rect.HasExtent
  · obtain ⟨corners, target⟩ := extent.targetCoordinates
    simp [target, extent]
  · have failed : rect.targetCoordinates = .error .subtraction := by
      rcases subInt32_cases rect.right rect.left with ⟨width, wide⟩ | failed
      · rcases subInt32_cases rect.bottom rect.top with ⟨height, high⟩ | failed
        · exact absurd ⟨⟨width, wide⟩, height, high⟩ extent
        · rw [targetCoordinates, Rect.width, wide, Rect.height, failed]
          rfl
      · rw [targetCoordinates, Rect.width, failed]
        rfl
    simp [failed, extent, eq_comm]

theorem Capabilities.synthesize_eq_ok {capabilities : Capabilities}
    (extent : capabilities.activeArray.HasExtent) (snapshot : Snapshot) (result : CaptureResult) :
    ∃ bundle, capabilities.synthesize snapshot result = .ok bundle := by
  obtain ⟨corners, cornersEqual⟩ := extent.targetCoordinates
  simp only [Capabilities.synthesize, echoedKeys, cornersEqual]
  cases snapshot.autoZoom <;> cases snapshot.locked <;> exact ⟨_, rfl⟩

/-- There is no result only where a target is asked for that does not exist. -/
theorem Capabilities.synthesize_eq_error_iff {capabilities : Capabilities} {snapshot : Snapshot}
    {result : CaptureResult} {fault : Fault} :
    capabilities.synthesize snapshot result = .error fault ↔
      snapshot.locked ∧ capabilities.activeArray.targetCoordinates = .error fault := by
  simp only [Capabilities.synthesize, echoedKeys]
  cases snapshot.autoZoom <;> cases snapshot.locked <;>
    cases capabilities.activeArray.targetCoordinates <;> simp [bind, Except.bind, pure, Except.pure]

end EyesFree
