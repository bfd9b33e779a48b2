import Mathlib.Algebra.Order.Field.Rat
import Mathlib.Tactic.Linarith
import PageSketch.Proofs.PageAnalysis
import PageSketch.Proofs.RoundedText
import PageSketch.Sketch.Output

/-! # Rounded coordinates in the output

Lengths are rounded to multiples of a step and told in units, which keeps their order
whatever the step and its sign. What is told of rectangles is therefore in order where they
are, and one lies within another where they do. -/

namespace PageSketch

/-! ## Whole numbers -/

namespace Rounding

variable {smaller larger magnitude : Rat}

theorem halfUp_mono (before : smaller ≤ larger) : halfUp smaller ≤ halfUp larger :=
  Int.toNat_le_toNat (Rat.floor_monotone (add_le_add_left before (1 / 2)))

theorem abs_halfUp_sub_le (positive : 0 ≤ magnitude) :
    |(halfUp magnitude : Rat) - magnitude| ≤ 1 / 2 := by
  have floor : (0 : Int) ≤ (magnitude + 1 / 2).floor :=
    Rat.le_floor_iff.mpr (by push_cast; linarith)
  have whole : (halfUp magnitude : Rat) = ((magnitude + 1 / 2).floor : Int) := by
    rw [halfUp]
    exact_mod_cast Int.toNat_of_nonneg floor
  have below := Rat.floor_le (magnitude + 1 / 2)
  have above := Rat.lt_floor_add_one (magnitude + 1 / 2)
  push_cast at above
  rw [whole, abs_le]
  constructor <;> linarith

end Rounding

namespace Scalar.Exact

variable {smaller larger value : Rat}

theorem round_of_nonneg (positive : 0 ≤ value) : round value = Rounding.halfUp value := by
  rw [round, if_neg positive.not_gt, Rat.abs_of_nonneg positive]

theorem round_of_neg (negative : value < 0) : round value = -Rounding.halfUp (-value) := by
  rw [round, if_pos negative, Rat.abs_of_nonpos negative.le]

theorem round_mono (before : smaller ≤ larger) : round smaller ≤ round larger := by
  rcases lt_or_ge larger 0 with negative | positive
  · rw [round_of_neg negative, round_of_neg (before.trans_lt negative)]
    have magnitudes := Rounding.halfUp_mono (neg_le_neg before)
    exact neg_le_neg (by exact_mod_cast magnitudes)
  · rcases lt_or_ge smaller 0 with below | above
    · rw [round_of_neg below, round_of_nonneg positive]
      exact (neg_nonpos.mpr (Nat.cast_nonneg _)).trans (Nat.cast_nonneg _)
    · rw [round_of_nonneg above, round_of_nonneg positive]
      exact_mod_cast Rounding.halfUp_mono before

theorem exists_round_eq (value : Rat) :
    ∃ whole : Int, round value = whole ∧ |(whole : Rat) - value| ≤ 1 / 2 := by
  rcases lt_or_ge value 0 with negative | positive
  · refine ⟨-Rounding.halfUp (-value), ?_, ?_⟩
    · rw [round_of_neg negative]
      push_cast
      rfl
    · have close := Rounding.abs_halfUp_sub_le (neg_nonneg.mpr negative.le)
      push_cast
      rwa [← abs_neg, neg_sub', neg_neg]
  · refine ⟨Rounding.halfUp value, ?_, ?_⟩
    · rw [round_of_nonneg positive]
      rfl
    · exact Rounding.abs_halfUp_sub_le positive

end Scalar.Exact

/-! ## Lengths -/

namespace Length

variable {length nearest shorter longer : Length Rat}

theorem points_ne_zero (given : nearest.isZero = false) : nearest.points ≠ 0 :=
  beq_eq_false_iff_ne.mp given

theorem round_of_isZero (none : nearest.isZero = true) : length.round nearest = length :=
  if_pos none

theorem round_of_not_isZero (given : nearest.isZero = false) :
    length.round nearest = nearest.scale (Scalar.Exact.round (length.ratio nearest)) :=
  if_neg (by simp [given])

/-- A negative step turns the order around twice. -/
theorem round_mono (before : shorter ≤ longer) : shorter.round nearest ≤ longer.round nearest := by
  have points : shorter.points ≤ longer.points := before
  cases none : nearest.isZero with
  | true => rwa [round_of_isZero none, round_of_isZero none]
  | false =>
      rw [round_of_not_isZero none, round_of_not_isZero none]
      change nearest.points * _ ≤ nearest.points * _
      rcases lt_or_ge nearest.points 0 with negative | positive
      · apply mul_le_mul_of_nonpos_left _ negative.le
        exact Scalar.Exact.round_mono (div_le_div_of_nonpos_of_le negative.le points)
      · apply mul_le_mul_of_nonneg_left _ positive
        exact Scalar.Exact.round_mono (div_le_div_of_nonneg_right points positive)

/-- A length is rounded to a multiple of the step that is no more than half a step away. -/
theorem exists_round_eq (length : Length Rat) (given : nearest.isZero = false) :
    ∃ count : Int, length.round nearest = nearest.scale count ∧
      (nearest.scale count - length).abs ≤ nearest.abs.divide 2 := by
  rcases Scalar.Exact.exists_round_eq (length.ratio nearest) with ⟨count, rounded, close⟩
  refine ⟨count, by rw [round_of_not_isZero given, rounded], ?_⟩
  change (nearest.points * count - length.points).abs ≤ nearest.points.abs / 2
  have whole : length.points = nearest.points * length.ratio nearest :=
    (mul_div_cancel₀ length.points (points_ne_zero given)).symm
  rw [Scalar.Exact.abs_eq, Scalar.Exact.abs_eq, whole, ← mul_sub, abs_mul, div_eq_mul_one_div]
  exact mul_le_mul_of_nonneg_left close (abs_nonneg nearest.points)

end Length

theorem LengthFormat.value_mono (format : LengthFormat Rat) {shorter longer : Length Rat}
    (before : shorter ≤ longer) : format.value shorter ≤ format.value longer := by
  have rounded : format.round shorter ≤ format.round longer := by
    rw [LengthFormat.round, LengthFormat.round]
    cases format.nearest with
    | none => exact before
    | some nearest => exact Length.round_mono before
  exact div_le_div_of_nonneg_right rounded format.unit.size_pos.le

/-- Without a step nothing is rounded. -/
theorem LengthFormat.value_of_no_step {format : LengthFormat Rat}
    (none : ∀ nearest, format.nearest = some nearest → nearest.isZero = true)
    (length : Length Rat) : format.value length = length.inUnit format.unit := by
  have same : format.round length = length := by
    rw [LengthFormat.round]
    cases given : format.nearest with
    | none => rfl
    | some nearest => exact Length.round_of_isZero (none nearest given)
  rw [LengthFormat.value, same]

/-! ## Rectangles -/

namespace RectOutput

/-- The rectangle with the numbers of the output as its coordinates. -/
def rect {α : Type} (output : RectOutput α) : Rect α :=
  ⟨⟨output.left⟩, ⟨output.top⟩, ⟨output.right⟩, ⟨output.bottom⟩⟩

variable (format : LengthFormat Rat) {rect outer inner : Rect Rat}

theorem isNormalized_ofRect (normalized : rect.IsNormalized) :
    (ofRect format rect).rect.IsNormalized :=
  ⟨format.value_mono normalized.1, format.value_mono normalized.2⟩

theorem contains_ofRect (contained : outer.Contains inner) :
    (ofRect format outer).rect.Contains (ofRect format inner).rect := by
  rcases contained with ⟨left, across, right, top, down, bottom⟩
  exact ⟨format.value_mono left, format.value_mono across, format.value_mono right,
    format.value_mono top, format.value_mono down, format.value_mono bottom⟩

end RectOutput

/-! ## Reports -/

variable {α : Type}

/-- All rectangles of a report: of each node the areas, and the bounds if it was found. -/
def DocumentReport.rects (report : DocumentReport α) : List (Rect α) :=
  report.pages.flatMap fun page =>
    page.results.flatMap fun result => result.areas ++ result.bounds?.toList

namespace DocumentOutput

/-- All rectangles of an output, in the order of the report. -/
def rects (output : DocumentOutput α) : List (RectOutput α) :=
  output.pages.flatMap fun page => page.nodes.flatMap fun node => node.areas ++ node.bounds.toList

theorem rects_ofReport [Scalar α] (format : LengthFormat α) (report : DocumentReport α) :
    (ofReport format report).rects = report.rects.map (RectOutput.ofRect format) := by
  simp only [rects, ofReport, DocumentReport.rects, PageOutput.ofReport, NodeOutput.ofResult,
    List.flatMap_map, List.map_flatMap, List.map_append, Option.toList_map]

/-- Rounding keeps the order of lengths, and with it the geometry of a report: rectangles with
their edges in order are told so, and whatever lies within another rectangle of the report
does so in the output. -/
theorem rounding_keeps_geometry (format : LengthFormat Rat) (report : DocumentReport Rat) :
    (∀ shorter longer, shorter ≤ longer → format.value shorter ≤ format.value longer) ∧
      (∀ nearest, format.nearest = some nearest → nearest.isZero = false →
        ∀ length, ∃ count : Int,
          format.value length = (nearest.scale count).inUnit format.unit ∧
            (nearest.scale count - length).abs ≤ nearest.abs.divide 2) ∧
      ((∀ nearest, format.nearest = some nearest → nearest.isZero = true) →
        ∀ length, format.value length = length.inUnit format.unit) ∧
      (ofReport format report).rects.length = report.rects.length ∧
      ∀ (index index' : Nat) outer inner,
        report.rects[index]? = some outer → report.rects[index']? = some inner →
        ∃ outerOutput innerOutput, (ofReport format report).rects[index]? = some outerOutput ∧
          (ofReport format report).rects[index']? = some innerOutput ∧
          (inner.IsNormalized → innerOutput.rect.IsNormalized) ∧
          (outer.Contains inner → outerOutput.rect.Contains innerOutput.rect) := by
  refine ⟨fun shorter longer before => format.value_mono before, ?_,
    LengthFormat.value_of_no_step, ?_, ?_⟩
  · intro nearest step given length
    rcases Length.exists_round_eq length given with ⟨count, rounded, close⟩
    refine ⟨count, ?_, close⟩
    rw [LengthFormat.value, LengthFormat.round, step]
    exact congrArg (Length.inUnit · format.unit) rounded
  · rw [rects_ofReport, List.length_map]
  · intro index index' outer inner here there
    refine ⟨.ofRect format outer, .ofRect format inner, ?_, ?_, ?_, ?_⟩
    · rw [rects_ofReport, List.getElem?_map, here, Option.map_some]
    · rw [rects_ofReport, List.getElem?_map, there, Option.map_some]
    · exact RectOutput.isNormalized_ofRect format
    · exact RectOutput.contains_ofRect format

end DocumentOutput

/-! ## Steps of five points -/

namespace Fives

/-- Lengths in points, in steps of five that go backwards. -/
def steps : LengthFormat Rat := { unit := .pt, nearest := some ⟨-5⟩ }

/-- An area that begins half a step before the edge of the page. -/
def area : Rect Rat := ⟨⟨-5 / 2⟩, ⟨0⟩, ⟨12⟩, ⟨10⟩⟩

/-- The whole width of the area, from half a step below its top. -/
def bounds : Rect Rat := ⟨⟨-5 / 2⟩, ⟨5 / 2⟩, ⟨12⟩, ⟨9⟩⟩

/-- A label was found there. -/
def label : NodeResult Rat where
  node := { name := "label", areas := [], locator := Invoice.label.locator, tags := [] }
  areas := [area]
  located := some ⟨bounds, ⟨Invoice.label.locator.pattern, "A", [some ⟨0, 1⟩]⟩⟩

def report : DocumentReport Rat where
  tags := []
  pages := [{ number := (1 : UInt64).toFin, size := ⟨⟨20⟩, ⟨20⟩⟩, results := [label] }]

end Fives

open Fives in
theorem DocumentOutput.rounding_keeps_geometry_fives :
    steps.value ⟨-5 / 2⟩ ≤ steps.value ⟨5 / 2⟩ ∧
      (∃ count : Int, steps.value ⟨-5 / 2⟩ = ((⟨-5⟩ : Length Rat).scale count).inUnit .pt) ∧
      (ofReport steps report).rects = [⟨-5, 0, 10, 10⟩, ⟨-5, 5, 10, 10⟩] ∧
      ∃ areaOutput boundsOutput, (ofReport steps report).rects[0]? = some areaOutput ∧
        (ofReport steps report).rects[1]? = some boundsOutput ∧
        boundsOutput.rect.IsNormalized ∧ areaOutput.rect.Contains boundsOutput.rect := by
  rcases rounding_keeps_geometry steps report with ⟨ordered, multiples, _, _, lies⟩
  have normalized : bounds.IsNormalized := by decide +kernel
  have contained : area.Contains bounds := by decide +kernel
  rcases lies 0 1 area bounds rfl rfl with ⟨_, _, here, there, keeps, within⟩
  rcases multiples ⟨-5⟩ rfl (by decide +kernel) ⟨-5 / 2⟩ with ⟨count, value, _⟩
  exact ⟨ordered _ _ (by decide +kernel), ⟨count, value⟩, by decide +kernel,
    _, _, here, there, keeps normalized, within contained⟩

end PageSketch
