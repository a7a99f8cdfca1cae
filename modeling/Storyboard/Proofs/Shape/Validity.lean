import Storyboard.Proofs.Except
import Storyboard.Shape.Basic

namespace Storyboard

/-!
# Valid colors and shapes

A color is valid if all channels lie in their range and a shape is valid if its
name is not blank, its sizes are positive and its color is valid.  What the
checks let through is exactly what is valid, and no operation on a shape leaves
the valid ones, whatever doubles it is given.
-/

namespace Color

/-- All channels of a color lie in their range. -/
structure Valid (color : Color) : Prop where
  red : 0 ≤ color.red ∧ color.red ≤ 255
  green : 0 ≤ color.green ∧ color.green ≤ 255
  blue : 0 ≤ color.blue ∧ color.blue ≤ 255

/-- A channel passes its check exactly if it lies in the range. -/
theorem checkChannel_eq_ok_iff
    (channel : Channel)
    (value : Float)
    (answer : Unit) :
    checkChannel channel value = .ok answer ↔ 0 ≤ value ∧ value ≤ 255 := by
  unfold checkChannel
  split <;> simp_all

/-- Three channels make a color exactly if it is valid. -/
theorem ofChannels_eq_ok_iff
    {red green blue : Float}
    {color : Color} :
    ofChannels red green blue = .ok color ↔
      color = ⟨red, green, blue⟩ ∧ color.Valid := by
  simp only [ofChannels, bind_eq_ok_iff, checkChannel_eq_ok_iff]
  constructor
  · rintro ⟨-, redValid, -, greenValid, -, blueValid, made⟩
    cases made
    exact ⟨rfl, redValid, greenValid, blueValid⟩
  · rintro ⟨rfl, valid⟩
    exact ⟨(), valid.red, (), valid.green, (), valid.blue, rfl⟩

/-- Setting a color keeps it valid, whether it is refused or not. -/
theorem Valid.set
    {color : Color}
    (valid : color.Valid)
    (red green blue : Float) :
    (color.set red green blue).after.Valid := by
  unfold Color.set
  cases made : ofChannels red green blue with
  | ok replacement =>
      exact (ofChannels_eq_ok_iff.mp made).2
  | error refusal =>
      exact valid

end Color

namespace Extent

/-- A size passes its check exactly if it is positive. -/
theorem checkSize_eq_ok_iff
    (sizeName : String)
    (value : Float)
    (answer : Unit) :
    checkSize sizeName value = .ok answer ↔ 0 < value := by
  unfold checkSize
  split <;> simp_all

/-- Two sizes make an extent of a kind exactly if both are positive. -/
theorem ofSizes_eq_ok_iff
    {kind : Kind}
    {first second : Float}
    {extent : Extent} :
    ofSizes kind first second = .ok extent ↔
      extent.kind = kind ∧ extent.sizes = (first, second) ∧
        0 < first ∧ 0 < second := by
  simp only [ofSizes, bind_eq_ok_iff, checkSize_eq_ok_iff]
  constructor
  · rintro ⟨-, firstPositive, -, secondPositive, made⟩
    cases kind <;> cases made <;>
      exact ⟨rfl, rfl, firstPositive, secondPositive⟩
  · rintro ⟨isKind, hasSizes, firstPositive, secondPositive⟩
    refine ⟨(), firstPositive, (), secondPositive, ?_⟩
    cases extent <;> cases isKind <;> cases hasSizes <;> rfl

/-- Sizes that make no extent are refused as invalid values. -/
theorem category_of_ofSizes_eq_error
    {kind : Kind}
    {first second : Float}
    {refusal : Refusal}
    (refused : ofSizes kind first second = .error refusal) :
    refusal.category = .invalidValue := by
  unfold ofSizes checkSize at refused
  by_cases firstPositive : 0 < first
  · by_cases secondPositive : 0 < second
    · simp [firstPositive, secondPositive, bind, Except.bind, pure,
        Except.pure] at refused
    · simp [firstPositive, secondPositive, bind, Except.bind] at refused
      rw [← refused]
      rfl
  · simp [firstPositive, bind, Except.bind] at refused
    rw [← refused]
    rfl

end Extent

namespace Shape

/-- A shape has a name to be seen, positive sizes and a valid color. -/
structure Valid (shape : Shape) : Prop where
  named : isBlankName shape.name = false
  sizesPositive : 0 < shape.extent.sizes.1 ∧ 0 < shape.extent.sizes.2
  colorValid : shape.color.Valid

/--
A shape is created exactly if its name is not blank and its sizes are positive.
-/
theorem create_eq_ok_iff
    {kind : Kind}
    {name : String}
    {position : Point}
    {first second : Float}
    {color : Color}
    {shape : Shape} :
    create kind name position first second color = .ok shape ↔
      isBlankName name = false ∧ 0 < first ∧ 0 < second ∧
        shape.name = name ∧ shape.position = position ∧ shape.color = color ∧
        shape.kind = kind ∧ shape.extent.sizes = (first, second) := by
  unfold create
  split
  · simp_all
  · simp only [map_eq_ok_iff, Extent.ofSizes_eq_ok_iff]
    constructor
    · rintro ⟨extent, ⟨isKind, hasSizes, firstPositive, secondPositive⟩, rfl⟩
      exact ⟨by simp_all, firstPositive, secondPositive,
        rfl, rfl, rfl, isKind, hasSizes⟩
    · rintro ⟨-, firstPositive, secondPositive, rfl, rfl, rfl, isKind, hasSizes⟩
      exact ⟨shape.extent,
        ⟨isKind, hasSizes, firstPositive, secondPositive⟩, rfl⟩

/-- A creation that is refused is refused for an invalid value. -/
theorem category_of_create_eq_error
    {kind : Kind}
    {name : String}
    {position : Point}
    {first second : Float}
    {color : Color}
    {refusal : Refusal}
    (refused : create kind name position first second color = .error refusal) :
    refusal.category = .invalidValue := by
  unfold create at refused
  split at refused
  · cases refused
    rfl
  · cases made : Extent.ofSizes kind first second with
    | ok extent =>
        rw [made] at refused
        cases refused
    | error sizeRefusal =>
        rw [made] at refused
        cases refused
        exact Extent.category_of_ofSizes_eq_error made

/-- A shape that is created with a valid color is valid. -/
theorem valid_of_create_eq_ok
    {kind : Kind}
    {name : String}
    {position : Point}
    {first second : Float}
    {color : Color}
    {shape : Shape}
    (colorValid : color.Valid)
    (created : create kind name position first second color = .ok shape) :
    shape.Valid := by
  obtain ⟨named, firstPositive, secondPositive, rfl, rfl, rfl, -, hasSizes⟩ :=
    create_eq_ok_iff.mp created
  exact ⟨named,
    by rw [hasSizes]; exact ⟨firstPositive, secondPositive⟩, colorValid⟩

/--
A resized shape has the given sizes, if they are positive, and else its own.
-/
theorem resize_cases
    (shape : Shape)
    (first second : Float) :
    (0 < first ∧ 0 < second ∧
      ∃ extent,
        extent.kind = shape.kind ∧ extent.sizes = (first, second) ∧
          shape.resize first second = ⟨.ok (), { shape with extent }⟩) ∨
      ∃ refusal, shape.resize first second = ⟨.error refusal, shape⟩ := by
  unfold resize
  cases made : Extent.ofSizes shape.kind first second with
  | ok extent =>
      obtain ⟨isKind, hasSizes, firstPositive, secondPositive⟩ :=
        Extent.ofSizes_eq_ok_iff.mp made
      exact .inl ⟨firstPositive, secondPositive, extent, isKind, hasSizes, rfl⟩
  | error refusal =>
      exact .inr ⟨refusal, rfl⟩

/-- A change of a shape that keeps its name and keeps it valid. -/
structure Keeps (change : Shape → Change Shape (Except Refusal Unit)) :
    Prop where
  name : ∀ shape, (change shape).after.name = shape.name
  valid : ∀ shape, shape.Valid → (change shape).after.Valid

/-- Moving keeps the name and the validity. -/
theorem keeps_moveTo (position : Point) :
    Keeps fun shape => ⟨.ok (), shape.moveTo position⟩ where
  name _ := rfl
  valid _ valid := ⟨valid.named, valid.sizesPositive, valid.colorValid⟩

/-- Recoloring keeps the name and the validity. -/
theorem keeps_recolor (red green blue : Float) :
    Keeps fun shape => shape.recolor red green blue where
  name _ := rfl
  valid _ valid :=
    ⟨valid.named, valid.sizesPositive, valid.colorValid.set red green blue⟩

/-- Resizing keeps the name and the validity. -/
theorem keeps_resize (first second : Float) :
    Keeps fun shape => shape.resize first second where
  name shape := by
    obtain ⟨-, -, extent, -, -, resized⟩ | ⟨refusal, refused⟩ :=
      shape.resize_cases first second
    · rw [resized]
    · rw [refused]
  valid shape valid := by
    obtain ⟨firstPositive, secondPositive, extent, -, hasSizes, resized⟩ |
        ⟨refusal, refused⟩ := shape.resize_cases first second
    · rw [resized]
      refine ⟨valid.named, ?_, valid.colorValid⟩
      simpa only [hasSizes] using And.intro firstPositive secondPositive
    · rw [refused]
      exact valid

/-- Resizing as a kind keeps the name and the validity. -/
theorem keeps_resizeAs (kind : Kind) (first second : Float) :
    Keeps fun shape => shape.resizeAs kind first second where
  name shape := by
    unfold resizeAs
    split
    · exact (keeps_resize first second).name shape
    · rfl
  valid shape valid := by
    unfold resizeAs
    split
    · exact (keeps_resize first second).valid shape valid
    · exact valid

end Shape

end Storyboard
