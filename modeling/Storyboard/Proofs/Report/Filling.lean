import Storyboard.Proofs.Number.Characters
import Storyboard.Report.Page

namespace Storyboard.Report

/-!
# What a user's text can do to a page

A page is a blank page with its gaps filled.  The blank page depends on nothing
but the kinds of the shapes, and what goes into the gaps is an escaped text or a
number.  Neither holds a delimiter, and the only ampersands are those that
escaping has written.  Pages of the same kinds of shapes therefore have the same
markup, whatever the texts in them are.
-/

/-- The characters that begin and end tags and quoted values. -/
def isDelimiter (c : Char) : Bool :=
  c ∈ ['<', '>', '"', '\'']

/-- A character that neither is a delimiter nor starts a reference. -/
def isHarmless (c : Char) : Bool :=
  !isDelimiter c && c != '&'

/-- The delimiters of a text in their order. -/
def delimiters (text : String) : List Char :=
  text.toList.filter isDelimiter

/-- The character references that stand for a delimiter or an ampersand. -/
def references : List String :=
  ["&amp;", "&lt;", "&gt;", "&quot;", "&#39;"]

/-- Every ampersand of a text starts a character reference. -/
def Referenced (text : List Char) : Prop :=
  ∀ rest, '&' :: rest <:+ text →
    ∃ reference ∈ references, reference.toList <+: '&' :: rest

theorem referenced_nil : Referenced [] := by
  intro rest isSuffix
  simp at isSuffix

theorem referenced_cons_iff (c : Char) (text : List Char) :
    Referenced (c :: text) ↔
      (c = '&' → ∃ reference ∈ references, reference.toList <+: c :: text) ∧
        Referenced text := by
  constructor
  · intro referenced
    refine ⟨?_, fun rest isSuffix =>
      referenced rest (isSuffix.trans (List.suffix_cons c text))⟩
    rintro rfl
    exact referenced text (List.suffix_refl _)
  · rintro ⟨atHead, inTail⟩ rest isSuffix
    obtain isWhole | isShorter := List.suffix_cons_iff.mp isSuffix
    · obtain ⟨rfl, rfl⟩ := List.cons_eq_cons.mp isWhole
      exact atHead rfl
    · exact inTail rest isShorter

/-- What stands behind a reference does not undo it. -/
theorem Referenced.append
    {first second : List Char}
    (firstReferenced : Referenced first)
    (secondReferenced : Referenced second) :
    Referenced (first ++ second) := by
  induction first with
  | nil =>
      exact secondReferenced
  | cons c rest inductionHypothesis =>
      rw [referenced_cons_iff] at firstReferenced
      rw [List.cons_append, referenced_cons_iff]
      refine ⟨?_, inductionHypothesis firstReferenced.2⟩
      intro isAmpersand
      obtain ⟨reference, known, begins⟩ := firstReferenced.1 isAmpersand
      exact ⟨reference, known,
        begins.trans (List.prefix_append (c :: rest) second)⟩

theorem referenced_of_not_mem
    {text : List Char}
    (noAmpersand : '&' ∉ text) :
    Referenced text :=
  fun _ isSuffix => absurd (isSuffix.subset List.mem_cons_self) noAmpersand

/--
A character is written without a delimiter and with no ampersand but that of a
reference.
-/
theorem filter_and_referenced_markupChar (c : Char) :
    (Text.markupChar c).filter isDelimiter = [] ∧
      Referenced (Text.markupChar c) := by
  fun_cases Text.markupChar c
  case case6 notAmpersand notLess notGreater notQuote notApostrophe =>
    refine ⟨?_, referenced_of_not_mem ?_⟩
    · simpa [isDelimiter] using ⟨notLess, notGreater, notQuote, notApostrophe⟩
    · simpa using Ne.symm notAmpersand
  all_goals
    refine ⟨by decide, ?_⟩
    simp [referenced_cons_iff, referenced_nil, references]

/--
A text is a template with its gaps filled: the filling brings no delimiter with
it and no ampersand that does not start a reference.
-/
structure Fills (text template : String) : Prop where
  delimiters_eq :
    delimiters text = delimiters template
  referenced :
    Referenced text.toList

namespace Fills

variable {first firstTemplate second secondTemplate : String}

theorem append
    (firstFills : Fills first firstTemplate)
    (secondFills : Fills second secondTemplate) :
    Fills (first ++ second) (firstTemplate ++ secondTemplate) where
  delimiters_eq := by
    have firstEq := firstFills.delimiters_eq
    have secondEq := secondFills.delimiters_eq
    simp only [delimiters] at firstEq secondEq
    simp only [delimiters, String.toList_append, List.filter_append, firstEq,
      secondEq]
  referenced := by
    rw [String.toList_append]
    exact firstFills.referenced.append secondFills.referenced

/-- Parts that fill their templates fill them together. -/
theorem join
    {Part : Type}
    {parts : List Part}
    {write template : Part → String}
    (fills : ∀ part ∈ parts, Fills (write part) (template part)) :
    Fills (String.join (parts.map write))
      (String.join (parts.map template)) := by
  induction parts with
  | nil =>
      exact ⟨rfl, referenced_nil⟩
  | cons part rest inductionHypothesis =>
      rw [List.forall_mem_cons] at fills
      rw [List.map_cons, List.map_cons, String.join_cons, String.join_cons]
      exact fills.1.append (inductionHypothesis fills.2)

theorem refl
    (text : String)
    (noAmpersand : '&' ∉ text.toList) : Fills text text :=
  ⟨rfl, referenced_of_not_mem noAmpersand⟩

/-- A text of harmless characters fills a gap. -/
theorem gap
    (text : String)
    (harmless : text.toList.all isHarmless = true) :
    Fills text "" := by
  rw [List.all_eq_true] at harmless
  constructor
  · change text.toList.filter isDelimiter = []
    rw [List.filter_eq_nil_iff]
    intro c member isDelimiter
    have harmlessHere := harmless c member
    simp [isHarmless, isDelimiter] at harmlessHere
  · refine referenced_of_not_mem fun member => ?_
    cases harmless '&' member

theorem isHarmless_of_isDigit
    {c : Char}
    (isDigit : c.isDigit = true) :
    isHarmless c = true := by
  simp only [isHarmless, isDelimiter, List.mem_cons, List.not_mem_nil, or_false,
    Bool.and_eq_true, Bool.not_eq_true', decide_eq_false_iff_not, bne_iff_ne]
  constructor
  · rintro (rfl | rfl | rfl | rfl) <;> cases isDigit
  · rintro rfl
    cases isDigit

/-- Any text fills a gap once it is escaped. -/
theorem markup (text : String) : Fills (Text.markup text) "" := by
  have written (chars : List Char) :
      (chars.flatMap Text.markupChar).filter isDelimiter = [] ∧
        Referenced (chars.flatMap Text.markupChar) := by
    induction chars with
    | nil =>
        exact ⟨rfl, referenced_nil⟩
    | cons c rest inductionHypothesis =>
        have ofChar := filter_and_referenced_markupChar c
        rw [List.flatMap_cons, List.filter_append, ofChar.1,
          inductionHypothesis.1]
        exact ⟨rfl, ofChar.2.append inductionHypothesis.2⟩
  refine ⟨?_, ?_⟩
  · rw [delimiters, Text.markup, String.toList_ofList]
    exact (written text.toList).1
  · rw [Text.markup, String.toList_ofList]
    exact (written text.toList).2

theorem tenths (value : Float) : Fills (Number.tenths value) "" := by
  apply gap
  rw [Number.tenths, String.toList_ofList, List.all_eq_true]
  intro c member
  obtain isDigit | isSign := Number.isDigit_or_mem_signs_of_mem_printWith member
  · exact isHarmless_of_isDigit isDigit
  · have allHarmless : Number.signs.all isHarmless = true := by
      decide
    exact List.all_eq_true.mp allHarmless c isSign

theorem nat (number : Nat) : Fills (toString number) "" := by
  apply gap
  rw [Nat.toString_eq_ofList_toDigits, String.toList_ofList, List.all_eq_true]
  intro c member
  exact isHarmless_of_isDigit (Number.isDigit_of_mem_toDigits member)

theorem field
    {name value : String}
    (noAmpersand : '&' ∉ name.toList)
    (fills : Fills value "") :
    Fills (field name value) (Report.field name "") :=
  (((refl " " (by decide)).append (refl name noAmpersand)).append
    (refl "=\"" (by decide)))
    |>.append fills |>.append (refl "\"" (by decide))

/-- A text between two literals fills the gap between them. -/
theorem between
    {text : String}
    (fills : Fills text "")
    (before after : String)
    (noneBefore : '&' ∉ before.toList)
    (noneAfter : '&' ∉ after.toList) :
    Fills (before ++ text ++ after) (before ++ "" ++ after) :=
  ((refl before noneBefore).append fills).append (refl after noneAfter)

/-- The three channels of a shade fill the gap for a color. -/
theorem fill (color : Color) : Fills (fill color) "" := by
  have red := (gap "rgb(" (by decide)).append (nat color.shade.red.toNat)
  have green :=
    (red.append (gap "," (by decide))).append (nat color.shade.green.toNat)
  have blue :=
    (green.append (gap "," (by decide))).append (nat color.shade.blue.toNat)
  exact blue.append (gap ")" (by decide))

end Fills

/-- The element of a kind of shape with nothing in its attributes. -/
def blankElement : Kind → String
  | .rectangle =>
      "<rect" ++ field "id" "" ++ field "x" "" ++ field "y" "" ++
        field "width" "" ++
        field "height" "" ++ (field "fill" "" ++ " />")
  | .oval =>
      "<ellipse" ++ field "id" "" ++ field "cx" "" ++ field "cy" "" ++
        field "rx" "" ++
        field "ry" "" ++ (field "fill" "" ++ " />")

theorem fills_element (sheet : Sheet) (shape : Shape) :
    Fills (element sheet shape) (blankElement shape.kind) := by
  have name : Fills (field "id" (Text.markup shape.name)) (field "id" "") :=
    .field (by decide) (.markup shape.name)
  have color : Fills (field "fill" (fill shape.color) ++ " />")
      (field "fill" "" ++ " />") :=
    (Fills.field (by decide) (.fill shape.color)).append (.refl _ (by decide))
  have number {name : String} (noAmpersand : '&' ∉ name.toList)
      (value : Float) :
      Fills (numberField name value) (field name "") :=
    .field noAmpersand (.tenths value)
  obtain ⟨_, position, _, extent⟩ := shape
  cases extent with
  | rectangle width height =>
      have tag : Fills "<rect" "<rect" := .refl _ (by decide)
      exact (tag.append name).append (number (by decide) position.x)
        |>.append (number (by decide) _)
        |>.append (number (by decide) width)
        |>.append (number (by decide) height)
        |>.append color
  | oval xRadius yRadius =>
      have tag : Fills "<ellipse" "<ellipse" := .refl _ (by decide)
      exact (tag.append name).append (number (by decide) position.x)
        |>.append (number (by decide) _)
        |>.append (number (by decide) xRadius)
        |>.append (number (by decide) yRadius)
        |>.append color

/--
The section of shapes of some kinds with nothing in its texts and attributes.
-/
def blankSection (kinds : List Kind) : String :=
  let gap := ""
  "<div class=\"snapshot\" style=\"background-color:lightgrey;\">\n" ++
    s!"<h2>{gap}</h2>\n" ++ s!"<p>Timestamp: {gap}</p>\n" ++
      s!"<p>Description: {gap}</p>\n" ++
    "<svg" ++ field "width" "" ++ field "height" "" ++
    field "xmlns" "http://www.w3.org/2000/svg" ++ ">\n" ++
    String.join (kinds.map fun kind => blankElement kind ++ "\n") ++
    "</svg>\n</div>\n"

/-- The page of snapshots of some kinds of shapes with all gaps empty. -/
def blankPage (kinds : List (List Kind)) : String :=
  pageHead ++ (if kinds.isEmpty then pageEmpty
    else String.join (kinds.map blankSection)) ++
    pageFoot

/-- The kinds of the shapes in the snapshots of an archive. -/
def shapeKinds (archive : Archive) : List (List Kind) :=
  archive.snapshots.toList.map fun snapshot => snapshot.shapes.map Shape.kind

theorem fills_snapshotSection (sheet : Sheet) (snapshot : Snapshot) :
    Fills (snapshotSection sheet snapshot)
      (blankSection (snapshot.shapes.map Shape.kind)) := by
  have opening :
      Fills "<div class=\"snapshot\" style=\"background-color:lightgrey;\">\n"
        "<div class=\"snapshot\" style=\"background-color:lightgrey;\">\n" :=
    .refl _ (by decide)
  have width :
      Fills (field "width" (toString sheet.width)) (field "width" "") :=
    .field (by decide) (.nat sheet.width)
  have height :
      Fills (field "height" (toString sheet.height)) (field "height" "") :=
    .field (by decide) (.nat sheet.height)
  have vocabulary :
      Fills (field "xmlns" "http://www.w3.org/2000/svg")
        (field "xmlns" "http://www.w3.org/2000/svg") :=
    .refl _ (by decide)
  have shapes :
      Fills (String.join (snapshot.shapes.map fun shape =>
        element sheet shape ++ "\n"))
        (String.join
          ((snapshot.shapes.map Shape.kind).map fun kind =>
            blankElement kind ++ "\n")) := by
    rw [List.map_map]
    exact .join fun shape _ =>
      (fills_element sheet shape).append (.refl "\n" (by decide))
  have id := (Fills.markup snapshot.id.text).between "<h2>" "</h2>\n"
    (by decide) (by decide)
  have timestamp :=
    (Fills.markup snapshot.timestamp).between "<p>Timestamp: " "</p>\n"
    (by decide) (by decide)
  have description :=
    (Fills.markup snapshot.description).between "<p>Description: " "</p>\n"
    (by decide) (by decide)
  have texts := ((opening.append id).append timestamp).append description
  have drawing := texts.append (.refl "<svg" (by decide)) |>.append width
    |>.append height |>.append vocabulary |>.append (.refl ">\n" (by decide))
  exact (drawing.append shapes).append (.refl "</svg>\n</div>\n" (by decide))

/-- Every page is the blank page of its shapes' kinds with its gaps filled. -/
theorem fills_page (sheet : Sheet) (archive : Archive) :
    Fills (page sheet archive) (blankPage (shapeKinds archive)) := by
  have sections :
      Fills (String.join (archive.snapshots.toList.map (snapshotSection sheet)))
        (String.join (archive.snapshots.toList.map fun snapshot =>
          blankSection (snapshot.shapes.map Shape.kind))) :=
    .join fun snapshot _ => fills_snapshotSection sheet snapshot
  have body :
      Fills
        (if (archive.snapshots.toList.map (snapshotSection sheet)).isEmpty
          then pageEmpty
          else String.join
            (archive.snapshots.toList.map (snapshotSection sheet)))
        (if (shapeKinds archive).isEmpty then pageEmpty
          else String.join ((shapeKinds archive).map blankSection)) := by
    simp only [shapeKinds, List.isEmpty_map, List.map_map]
    split
    · exact .refl _ (by decide)
    · exact sections
  have head : Fills pageHead pageHead := .refl _ (by decide)
  have foot : Fills pageFoot pageFoot := .refl _ (by decide)
  exact (head.append body).append foot

/--
Pages of the same kinds of shapes have the same delimiters, and every ampersand
of a page starts a character reference.
-/
theorem delimiters_page_eq
    (sheet : Sheet)
    (first second : Archive)
    (sameKinds : shapeKinds first = shapeKinds second) :
    delimiters (page sheet first) = delimiters (page sheet second) ∧
      Referenced (page sheet first).toList ∧
        Referenced (page sheet second).toList := by
  have firstFills := fills_page sheet first
  have secondFills := fills_page sheet second
  refine ⟨?_, firstFills.referenced, secondFills.referenced⟩
  calc
    delimiters (page sheet first) = delimiters (blankPage (shapeKinds first)) :=
      firstFills.delimiters_eq
    _ = delimiters (blankPage (shapeKinds second)) := by
      rw [sameKinds]
    _ = delimiters (page sheet second) :=
      secondFills.delimiters_eq.symm

/--
A name that would end its attribute and open a script adds nothing to the
markup.
-/
theorem delimiters_page_eq_of_hostile_name :
    let clock : Clock := fun _ => ⟨2024, 3, 9, 14, 5, 7, 0⟩
    let named (name : String) : Shape := ⟨name, ⟨1, 2⟩, ⟨0, 0, 0⟩, .oval 3 4⟩
    let plain := (Archive.empty.capture clock "An oval" [named "O"]).after
    let hostile :=
      (Archive.empty.capture clock "&nbsp;<b>"
        [named "O\" /><script>x()</script>"]).after
    shapeKinds plain = shapeKinds hostile ∧
      delimiters (page {} plain) = delimiters (page {} hostile) ∧
        Referenced (page {} plain).toList ∧
          Referenced (page {} hostile).toList :=
  ⟨rfl, delimiters_page_eq {} _ _ rfl⟩

end Storyboard.Report
