import Mathlib.Data.List.Nodup
import Storyboard.Proofs.Shape.Validity
import Storyboard.Scene

namespace Storyboard.Scene

/-!
# Valid scenes

A scene keeps the names of its shapes twice: in the list of shapes and in the
set of taken names.  A valid scene has the same names in both, no name twice,
and valid shapes only.  Every operation keeps it valid, and in a valid scene all
operations agree on which names there are.
-/

/-- The names of the listed shapes, in order. -/
def listedNames (scene : Scene) : List String :=
  scene.shapes.map (·.name)

/--
The two views of the names agree, no name is listed twice, all shapes are valid.
-/
structure Valid (scene : Scene) : Prop where
  mem_names_iff : ∀ name, name ∈ scene.names ↔ name ∈ scene.listedNames
  names_nodup : scene.listedNames.Nodup
  shapes_valid : ∀ shape ∈ scene.shapes, shape.Valid

section Change

variable
  {name : String}
  {change : Shape → Change Shape (Except Refusal Unit)}

/-- The answer of a change is that of the shape of the name, if there is one. -/
theorem changeFirst_answer (shapes : List Shape) :
    (changeFirst name change shapes).answer =
      match shapes.find? (·.name = name) with
      | none => .ok false
      | some shape => (change shape).answer.map fun _ => true := by
  induction shapes with
  | nil =>
      rfl
  | cons first rest inductionHypothesis =>
      by_cases isNamed : first.name = name
      · simp [changeFirst, isNamed]
      · simp [changeFirst, isNamed, inductionHypothesis]

/-- A change of a name that no shape has leaves the list as it is. -/
theorem changeFirst_after_of_absent
    {shapes : List Shape}
    (absent : name ∉ shapes.map (·.name)) :
    (changeFirst name change shapes).after = shapes := by
  induction shapes with
  | nil =>
      rfl
  | cons first rest inductionHypothesis =>
      rw [List.map_cons, List.mem_cons, not_or] at absent
      have notFirst : first.name ≠ name := fun same => absent.1 same.symm
      simp [changeFirst, notFirst, inductionHypothesis absent.2]

/-- Where no name is listed twice, a change reaches every shape of the name. -/
theorem changeFirst_after_eq_map
    {shapes : List Shape}
    (nodup : (shapes.map (·.name)).Nodup) :
    (changeFirst name change shapes).after =
      shapes.map fun shape =>
        if shape.name = name then (change shape).after else shape := by
  induction shapes with
  | nil =>
      rfl
  | cons first rest inductionHypothesis =>
      rw [List.map_cons, List.nodup_cons] at nodup
      by_cases isNamed : first.name = name
      · have restKept :
            (rest.map fun shape =>
              if shape.name = name then (change shape).after else shape) =
              rest := by
          rw [← inductionHypothesis nodup.2]
          exact changeFirst_after_of_absent (isNamed ▸ nodup.1)
        simp [changeFirst, isNamed, restKept]
      · simp [changeFirst, isNamed, inductionHypothesis nodup.2]

/-- What a change keeps of every shape holds of all shapes after it. -/
theorem forall_mem_changeFirst_after
    {property : Shape → Prop}
    (kept : ∀ shape, property shape → property (change shape).after)
    {shapes : List Shape}
    (held : ∀ shape ∈ shapes, property shape) :
    ∀ shape ∈ (changeFirst name change shapes).after, property shape := by
  induction shapes with
  | nil =>
      exact held
  | cons first rest inductionHypothesis =>
      rw [List.forall_mem_cons] at held
      unfold changeFirst
      split
      · exact List.forall_mem_cons.mpr ⟨kept first held.1, held.2⟩
      · exact List.forall_mem_cons.mpr
          ⟨held.1, inductionHypothesis held.2⟩

/-- A change that keeps the name of every shape keeps the list of names. -/
theorem map_name_changeFirst_after
    (kept : ∀ shape, (change shape).after.name = shape.name)
    (shapes : List Shape) :
    (changeFirst name change shapes).after.map (·.name) =
      shapes.map (·.name) := by
  induction shapes with
  | nil =>
      rfl
  | cons first rest inductionHypothesis =>
      unfold changeFirst
      split
      · simp [kept]
      · simp [inductionHypothesis]

end Change

/-- A scene without shapes is valid. -/
theorem valid_empty : empty.Valid where
  mem_names_iff := by simp [empty, listedNames]
  names_nodup := by simp [empty, listedNames]
  shapes_valid := by simp [empty]

/-- A creation adds a shape under a free name or leaves the scene as it is. -/
theorem create_cases
    (scene : Scene)
    (kind : Kind)
    (name : String)
    (position : Point)
    (first second : Float)
    (color : Color) :
    (∃ shape,
      name ∉ scene.names ∧
        Shape.create kind name position first second color = .ok shape ∧
        scene.create kind name position first second color =
          ⟨.ok shape,
            { shapes := scene.shapes ++ [shape]
              names := scene.names.insert name }⟩) ∨
      ∃ refusal,
        scene.create kind name position first second color =
          ⟨.error refusal, scene⟩ := by
  unfold create
  split
  · exact .inr ⟨_, rfl⟩
  · rename_i free
    cases created : Shape.create kind name position first second color with
    | ok shape =>
        exact .inl ⟨shape, free, rfl, rfl⟩
    | error refusal =>
        exact .inr ⟨refusal, rfl⟩

/--
What holds of the listed shapes and of the new one holds after a creation.
-/
theorem forall_mem_create_after
    {property : Shape → Prop}
    {scene : Scene}
    (held : ∀ shape ∈ scene.shapes, property shape)
    {kind : Kind}
    {name : String}
    {position : Point}
    {first second : Float}
    {color : Color}
    (ofNew :
      ∀ shape,
        Shape.create kind name position first second color = .ok shape →
        property shape) :
    ∀ shape ∈
        (scene.create kind name position first second color).after.shapes,
      property shape := by
  obtain ⟨shape, -, created, added⟩ | ⟨refusal, refused⟩ :=
    scene.create_cases kind name position first second color
  · rw [added]
    intro other member
    rcases List.mem_append.mp member with before | isNew
    · exact held other before
    · rw [List.mem_singleton.mp isNew]
      exact ofNew shape created
  · rw [refused]
    exact held

/-- What holds of the listed shapes holds after a removal. -/
theorem forall_mem_remove_after
    {property : Shape → Prop}
    {scene : Scene}
    (held : ∀ shape ∈ scene.shapes, property shape)
    (name : String) :
    ∀ shape ∈ (scene.remove name).after.shapes, property shape := by
  intro shape member
  unfold remove at member
  split at member
  · exact held shape (List.mem_of_mem_filter member)
  · exact held shape member

/-- A name can be looked up exactly if some shape has it. -/
theorem isSome_get?_iff (scene : Scene) (name : String) :
    (scene.get? name).isSome = true ↔
      ∃ shape ∈ scene.shapes, shape.name = name := by
  simp [get?]

namespace Valid

variable {scene : Scene}

/-- A name is listed exactly if some shape has it. -/
theorem mem_names_iff_exists (valid : scene.Valid) (name : String) :
    name ∈ scene.names ↔ ∃ shape ∈ scene.shapes, shape.name = name := by
  rw [valid.mem_names_iff, listedNames, List.mem_map]

/-- Valid scenes of the same shapes are the same. -/
theorem eq_of_shapes_eq
    {other : Scene}
    (valid : scene.Valid)
    (otherValid : other.Valid)
    (sameShapes : scene.shapes = other.shapes) :
    scene = other := by
  obtain ⟨shapes, names⟩ := scene
  obtain ⟨otherShapes, otherNames⟩ := other
  cases sameShapes
  have sameNames : names = otherNames :=
    Std.ExtTreeSet.ext_mem fun name =>
      (valid.mem_names_iff name).trans (otherValid.mem_names_iff name).symm
  rw [sameNames]

/-- Creating a shape of a valid color keeps a scene valid. -/
theorem create
    (valid : scene.Valid)
    (kind : Kind)
    (name : String)
    (position : Point)
    (first second : Float)
    {color : Color}
    (colorValid : color.Valid) :
    (scene.create kind name position first second color).after.Valid := by
  have shapesValid :
      ∀ shape ∈
          (scene.create kind name position first second color).after.shapes,
        shape.Valid :=
    forall_mem_create_after valid.shapes_valid
      fun _ created => Shape.valid_of_create_eq_ok colorValid created
  obtain ⟨shape, free, created, result⟩ | ⟨refusal, refused⟩ :=
    scene.create_cases kind name position first second color
  · rw [result] at shapesValid ⊢
    have isNamed : shape.name = name :=
      (Shape.create_eq_ok_iff.mp created).2.2.2.1
    have listed :
        listedNames
            { shapes := scene.shapes ++ [shape]
              names := scene.names.insert name } =
          scene.listedNames ++ [name] := by
      simp [listedNames, isNamed]
    have notListed : name ∉ scene.listedNames := by
      rwa [← valid.mem_names_iff]
    refine ⟨fun other => ?_, ?_, shapesValid⟩
    · rw [listed, List.mem_append, List.mem_singleton,
        ← valid.mem_names_iff, Std.ExtTreeSet.mem_insert,
        Std.LawfulEqOrd.compare_eq_iff_eq, or_comm, eq_comm]
    · rw [listed]
      exact valid.names_nodup.append (List.nodup_singleton name)
        (by simpa using notListed)
  · rw [refused]
    exact valid

/-- Removing a name keeps a scene valid. -/
theorem remove (valid : scene.Valid) (name : String) :
    (scene.remove name).after.Valid := by
  unfold Scene.remove
  split
  · have listed :
        listedNames
            { shapes := scene.shapes.filter (·.name ≠ name)
              names := scene.names.erase name } =
          scene.listedNames.filter (· ≠ name) := by
      simp [listedNames, List.filter_map, Function.comp_def]
    constructor
    · intro other
      rw [listed, Std.ExtTreeSet.mem_erase, valid.mem_names_iff,
        List.mem_filter, decide_eq_true_eq, and_comm, ne_eq, ne_eq,
        Std.LawfulEqOrd.compare_eq_iff_eq, eq_comm]
    · rw [listed]
      exact valid.names_nodup.filter _
    · intro shape member
      exact valid.shapes_valid shape (List.mem_of_mem_filter member)
  · exact valid

/-- A change that keeps names and validity of shapes keeps a scene valid. -/
theorem change
    (valid : scene.Valid)
    (name : String)
    {change : Shape → Change Shape (Except Refusal Unit)}
    (keeps : Shape.Keeps change) :
    (scene.change name change).after.Valid := by
  have listed :
      (scene.change name change).after.listedNames = scene.listedNames :=
    map_name_changeFirst_after keeps.name scene.shapes
  constructor
  · intro other
    rw [listed]
    exact valid.mem_names_iff other
  · rw [listed]
    exact valid.names_nodup
  · exact forall_mem_changeFirst_after keeps.valid valid.shapes_valid

/--
A change that is never refused reaches the shape of the name, if there is one.
-/
theorem change_of_accepted
    (valid : scene.Valid)
    (name : String)
    {change : Shape → Change Shape (Except Refusal Unit)}
    {update : Shape → Shape}
    (accepted : ∀ shape, change shape = ⟨.ok (), update shape⟩) :
    scene.change name change =
      ⟨.ok (scene.get? name).isSome,
        { scene with
          shapes :=
            scene.shapes.map fun shape =>
              if shape.name = name then update shape else shape }⟩ := by
  have shapesAfter : (changeFirst name change scene.shapes).after = _ :=
    changeFirst_after_eq_map valid.names_nodup
  have answered : (changeFirst name change scene.shapes).answer = _ :=
    changeFirst_answer scene.shapes
  unfold Scene.change get?
  simp only [shapesAfter, answered, accepted]
  cases scene.shapes.find? (·.name = name) <;> rfl

/-- A change that is always refused does nothing and finds no shape. -/
theorem change_of_refused
    (valid : scene.Valid)
    (name : String)
    {change : Shape → Change Shape (Except Refusal Unit)}
    (refused : ∀ shape, ∃ refusal, change shape = ⟨.error refusal, shape⟩) :
    (scene.change name change).after = scene ∧
      (scene.change name change).answer ≠ .ok true := by
  have shapesAfter : (changeFirst name change scene.shapes).after = _ :=
    changeFirst_after_eq_map valid.names_nodup
  have answered : (changeFirst name change scene.shapes).answer = _ :=
    changeFirst_answer scene.shapes
  have unchanged : ∀ shape, (change shape).after = shape := by
    intro shape
    obtain ⟨refusal, refusedHere⟩ := refused shape
    rw [refusedHere]
  constructor
  · simp [Scene.change, shapesAfter, unchanged]
  · unfold Scene.change
    simp only [answered]
    cases scene.shapes.find? (·.name = name) with
    | none =>
        simp
    | some shape =>
        obtain ⟨refusal, refusedHere⟩ := refused shape
        simp [refusedHere, Except.map]

/--
A change that treats all shapes alike either finds a shape and updates every
shape of the name, or does nothing because all shapes of the name refuse it.
-/
theorem change_of_uniform
    (valid : scene.Valid)
    (name : String)
    {change : Shape → Change Shape (Except Refusal Unit)}
    {update : Shape → Shape}
    (uniform :
      (∀ shape, change shape = ⟨.ok (), update shape⟩) ∨
        ∀ shape, ∃ refusal, change shape = ⟨.error refusal, shape⟩) :
    ((scene.change name change).answer = .ok true ∧
      (scene.change name change).after.shapes =
        scene.shapes.map fun shape =>
          if shape.name = name then update shape else shape) ∨
      ((scene.change name change).answer ≠ .ok true ∧
        (scene.change name change).after.shapes = scene.shapes ∧
        ∀ shape ∈ scene.shapes, shape.name = name →
          (change shape).answer ≠ .ok ()) := by
  rcases uniform with accepted | refused
  · rw [valid.change_of_accepted name accepted]
    by_cases found : (scene.get? name).isSome = true
    · exact .inl ⟨by rw [found], rfl⟩
    · rw [isSome_get?_iff] at found
      have absent :
          ∀ shape ∈ scene.shapes, shape.name ≠ name :=
            fun shape member isNamed =>
        found ⟨shape, member, isNamed⟩
      refine .inr ⟨?_, ?_, fun shape member isNamed =>
        absurd isNamed (absent shape member)⟩
      · rw [← isSome_get?_iff] at found
        simpa using found
      · exact (List.map_congr_left fun shape member =>
          if_neg (absent shape member)).trans (List.map_id' _)
  · obtain ⟨unchanged, notFound⟩ := valid.change_of_refused name refused
    refine .inr ⟨notFound, by rw [unchanged], fun shape _ _ => ?_⟩
    obtain ⟨refusal, refusedHere⟩ := refused shape
    rw [refusedHere]
    exact fun accepted => by cases accepted

end Valid

/-- A creation is refused for its name exactly if the name is taken. -/
theorem create_answer_eq_nameTaken_iff
    (scene : Scene)
    (kind : Kind)
    (name : String)
    (position : Point)
    (first second : Float)
    (color : Color) :
    (scene.create kind name position first second color).answer =
        .error (.nameTaken name) ↔
      name ∈ scene.names := by
  unfold create
  split
  · simp_all
  · rename_i free
    cases created : Shape.create kind name position first second color with
    | ok shape =>
        simp [free]
    | error refusal =>
        have otherCause := Shape.category_of_create_eq_error created
        simp only [Except.error.injEq, free, iff_false]
        rintro rfl
        cases otherCause

/-- A removal finds a shape exactly if the name is taken. -/
theorem remove_answer_iff (scene : Scene) (name : String) :
    (scene.remove name).answer = true ↔ name ∈ scene.names := by
  unfold remove
  split <;> simp_all

/-- A name can be required exactly if it can be looked up. -/
theorem require_eq_ok_iff
    (scene : Scene)
    (name : String)
    (shape : Shape) :
    scene.require name = .ok shape ↔ scene.get? name = some shape := by
  cases found : scene.get? name <;> simp [require, found]

end Storyboard.Scene
