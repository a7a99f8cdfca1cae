import Storyboard.Proofs.Report.Filling
import Storyboard.Proofs.Text.Format

namespace Storyboard.Report

/-!
# Reading a page

A page is written in a format and can therefore be read.  Texts of a user are
escaped character by character, so they hold no delimiter, and every gap of a
page is ended by one.  What is read is what the page shows: the sheet, the three
texts of every snapshot, and every shape with its kind, its name, its numbers as
they are printed and its shade.
-/

open Text (Format)
open Text.Format (anyChar chars)

/-- What a page shows of a shape. -/
structure Figure where
  kind : Kind
  name : String
  x : String
  y : String
  first : String
  second : String
  shade : Color.Shade
deriving Repr, DecidableEq

/-- What a page shows of a snapshot. -/
structure Section where
  sheet : Sheet
  id : String
  timestamp : String
  description : String
  figures : List Figure
deriving Repr, DecidableEq

/--
The second coordinate of a shape, measured from the upper edge of the sheet.
-/
def depth (sheet : Sheet) (shape : Shape) : Float :=
  match shape.extent with
  | .rectangle _ height => sheet.top - shape.position.y - height
  | .oval .. => sheet.top - shape.position.y

/-- A shape as it is shown on a sheet. -/
def Figure.ofShape (sheet : Sheet) (shape : Shape) : Figure where
  kind := shape.kind
  name := shape.name
  x := Number.tenths shape.position.x
  y := Number.tenths (depth sheet shape)
  first := Number.tenths shape.extent.sizes.1
  second := Number.tenths shape.extent.sizes.2
  shade := shape.color.shade

/-- A snapshot as it is shown on a sheet. -/
def Section.ofSnapshot (sheet : Sheet) (snapshot : Snapshot) : Section where
  sheet := sheet
  id := snapshot.id.text
  timestamp := snapshot.timestamp
  description := snapshot.description
  figures := snapshot.shapes.map (Figure.ofShape sheet)

/-- The sections that the page of an archive shows, oldest first. -/
def sectionsOf (sheet : Sheet) (archive : Archive) : List Section :=
  archive.snapshots.toList.map (Section.ofSnapshot sheet)

section Parts

/-- The characters that are written as references. -/
def escaped : List Char :=
  ['&', '<', '>', '"', '\'']

/--
A character as it is written inside markup.  Only one that stands for itself
could be taken for another, and none of those begins a reference.
-/
def markupForm : Format Char where
  write :=
    Text.markupChar
  read text :=
    let reference := escaped.findSome? fun c =>
      ((Text.markupChar c).isPrefixOf? text).map (c, ·)
    reference.or (anyChar.read text)
  Writable _ :=
    True
  read_write := by
    intro c _ behind
    fun_cases Text.markupChar c
    case case6 notAmpersand _ _ _ _ =>
      have noReference :
          escaped.findSome? (fun reference =>
              ((Text.markupChar reference).isPrefixOf? (c :: behind)).map
                (reference, ·)) =
            none := by
        rw [List.findSome?_eq_none_iff]
        intro reference member
        have isFirst : (Text.markupChar reference).head? = some '&' := by
          simp only [escaped, List.mem_cons, List.not_mem_nil, or_false]
            at member
          rcases member with rfl | rfl | rfl | rfl | rfl <;> rfl
        rw [Text.isPrefixOf?_eq_none_of_head?_ne isFirst, Option.map_none]
        simpa using notAmpersand
      dsimp only
      rw [List.singleton_append, noReference]
      rfl
    all_goals rfl

/-- An escaped text is ended by any literal that begins with a delimiter. -/
theorem writable_chars_markupForm
    {stop text : String}
    {first : Char}
    (isFirst : stop.toList.head? = some first)
    (delimits : isDelimiter first = true) :
    (chars markupForm stop).Writable text := by
  intro c member
  refine ⟨trivial,
    fun behind => Text.isPrefixOf?_eq_none_of_head?_ne isFirst ?_⟩
  have notEmpty : Text.markupChar c ≠ [] := by
    fun_cases Text.markupChar c <;> nofun
  have noDelimiter := (filter_and_referenced_markupChar c).1
  rw [List.filter_eq_nil_iff] at noDelimiter
  intro isHead
  have written : (Text.markupChar c ++ behind).head? = some first := isHead
  rw [List.head?_append_of_ne_nil _ notEmpty] at written
  exact noDelimiter first (List.mem_of_head? written) delimits

@[simp] theorem write_chars_markupForm (stop text : String) :
    (chars markupForm stop).write text =
      (Text.markup text).toList ++ stop.toList := by
  rw [Text.markup, String.toList_ofList]
  rfl

/-- A number in decimal digits up to a literal. -/
def natural (stop : String) : Format Nat :=
  (chars anyChar stop).convert toString
    (fun digits => some (Number.ofDigits digits.toList)) <| by
    intro number
    rw [Nat.toString_eq_ofList_toDigits, String.toList_ofList,
      Number.ofDigits_eq_ofDigitChars, Nat.ofDigitChars_ten_toDigits]

theorem writable_natural
    {stop : String}
    {first : Char}
    (isFirst : stop.toList.head? = some first)
    (noDigit : first.isDigit = false)
    (number : Nat) :
    (natural stop).Writable number := by
  apply Text.Format.writable_chars_anyChar isFirst
  rw [Nat.toString_eq_ofList_toDigits, String.toList_ofList]
  intro member
  rw [Number.isDigit_of_mem_toDigits member] at noDigit
  cases noDigit

/-- The channel of a shade up to a literal. -/
def channel (stop : String) : Format UInt8 :=
  (natural stop).convert UInt8.toNat
    (fun number => some (UInt8.ofNat number)) fun _ =>
    congrArg some UInt8.ofNat_toNat

/-- What stands in front of the first field of an element. -/
def elementStart : Kind → String
  | .rectangle => "<rect"
  | .oval => "<ellipse"

/-- The names of the four numbers of an element. -/
def numberNames : Kind → String × String × String × String
  | .rectangle => ("x", "y", "width", "height")
  | .oval => ("cx", "cy", "rx", "ry")

/-- What stands in front of the value of a field. -/
def fieldStart (name : String) : String :=
  " " ++ name ++ "=\""

/--
What ends the value of a field and stands in front of that of the next one.
-/
def nextField (name : String) : String :=
  "\"" ++ fieldStart name

/-- The kind of an element, up to its first value. -/
def tag : Format Kind :=
  (chars anyChar (fieldStart "id")).convert elementStart
    (fun start => [Kind.rectangle, .oval].find? fun kind =>
      elementStart kind = start)
    (by rintro (_ | _) <;> decide)

/-- An element with the end of its line. -/
def figure : Format Figure :=
  (tag.andThen fun kind =>
    let names := numberNames kind
    (chars markupForm (nextField names.1)).andThen fun _ =>
    (chars anyChar (nextField names.2.1)).andThen fun _ =>
    (chars anyChar (nextField names.2.2.1)).andThen fun _ =>
    (chars anyChar (nextField names.2.2.2)).andThen fun _ =>
    (chars anyChar (nextField "fill" ++ "rgb(")).andThen fun _ =>
    (channel ",").andThen fun _ =>
    (channel ",").andThen fun _ =>
    channel (")" ++ "\"" ++ " />" ++ "\n")).convert
      (fun figure =>
        (figure.kind, figure.name, figure.x, figure.y, figure.first,
          figure.second,
          figure.shade.red, figure.shade.green, figure.shade.blue))
      (fun (kind, name, x, y, first, second, red, green, blue) =>
        some ⟨kind, name, x, y, first, second, red, green, blue⟩)
      (fun _ => rfl)

/-- What ends the elements of a section and the section itself. -/
def sectionEnd : String :=
  "</svg>\n</div>\n"

/-- The section of a snapshot. -/
def picture : Format Section :=
  (((chars markupForm ("</h2>\n" ++ "<p>Timestamp: ")).behind
      ("<div class=\"snapshot\" style=\"background-color:lightgrey;\">\n" ++
        "<h2>")).andThen
        fun _ =>
    (chars markupForm ("</p>\n" ++ "<p>Description: ")).andThen fun _ =>
    (chars markupForm
      ("</p>\n" ++ "<svg" ++ fieldStart "width")).andThen fun _ =>
    (natural (nextField "height")).andThen fun _ =>
    (natural
      ("\"" ++ field "xmlns" "http://www.w3.org/2000/svg" ++ ">\n")).andThen
      fun _ =>
    figure.upTo sectionEnd).convert
      (fun shown =>
        (shown.id, shown.timestamp, shown.description, shown.sheet.width,
          shown.sheet.height, shown.figures))
      (fun (id, timestamp, description, width, height, figures) =>
        some ⟨⟨width, height⟩, id, timestamp, description, figures⟩)
      (fun _ => rfl)

/-- The sections of a page that has some. -/
def pictures : Format (List Section) :=
  (picture.upTo pageFoot).behind pageHead

end Parts

/-- The page of no snapshots. -/
def emptyPage : String :=
  pageHead ++ pageEmpty ++ pageFoot

/-- What a page shows, read from its text. -/
def readPage? (text : String) : Option (List Section) :=
  if text = emptyPage then
    some []
  else
    pictures.readAll? text.toList

section Writing

variable (sheet : Sheet)

theorem write_figure (shape : Shape) :
    figure.write (Figure.ofShape sheet shape) =
      (element sheet shape ++ "\n").toList := by
  rcases shape with ⟨name, position, color, extent⟩
  cases extent <;>
    simp only [figure, tag, channel, natural, nextField, fieldStart,
      numberNames, elementStart, Figure.ofShape, depth, Shape.kind, Extent.kind,
      Extent.sizes, Text.Format.write_convert, Text.Format.write_andThen,
      write_chars_markupForm, Text.Format.write_chars_anyChar, element,
      numberField, field, fill, toString, String.toList_append,
      List.append_assoc]

theorem write_picture (snapshot : Snapshot) :
    picture.write (Section.ofSnapshot sheet snapshot) =
      (snapshotSection sheet snapshot).toList := by
  unfold snapshotSection
  simp only [picture, sectionEnd, natural, nextField, fieldStart, field,
    Section.ofSnapshot, Text.Format.write_convert, Text.Format.write_andThen,
    Text.Format.write_behind, Text.Format.write_upTo, write_chars_markupForm,
    Text.Format.write_chars_anyChar, write_figure, List.flatMap_map,
    String.toList_join, toString, String.toList_append, List.append_assoc]

/-- A page is written from its sections alone. -/
theorem toList_page (archive : Archive) :
    (page sheet archive).toList =
      if sectionsOf sheet archive = [] then
        emptyPage.toList
      else
        pictures.write (sectionsOf sheet archive) := by
  by_cases noSnapshots : archive.snapshots = #[]
  · simp [page, noSnapshots, emptyPage, sectionsOf]
  · simp [page, noSnapshots, pictures, sectionsOf, List.flatMap_map,
      write_picture, String.toList_join]

end Writing

section Reading

variable (sheet : Sheet)

theorem head?_nextField (name : String) :
    (nextField name).toList.head? = some '"' := by
  simp [nextField]

/-- An ending tag does not stand where another tag begins. -/
theorem isPrefixOf?_endTag_eq_none
    {stop : String}
    {more behind : List Char}
    {c : Char}
    (isEnd : stop.toList = '<' :: '/' :: more)
    (otherTag : c ≠ '/') :
    stop.toList.isPrefixOf? ('<' :: c :: behind) = none := by
  rw [isEnd]
  simp [List.isPrefixOf?, otherTag.symm]

theorem writable_figure (shape : Shape) :
    figure.Writable (Figure.ofShape sheet shape) := by
  have start (kind : Kind) : ' ' ∉ (elementStart kind).toList := by
    cases kind <;> decide
  have number (value : Float) : '"' ∉ (Number.tenths value).toList :=
    Number.notMem_tenths (by decide) (by decide) value
  simp only [figure, tag, channel, Text.Format.writable_convert_iff,
    Text.Format.writable_andThen_iff]
  refine ⟨?_, ?_, ?_, ?_, ?_, ?_, ?_, ?_, ?_⟩
  · exact Text.Format.writable_chars_anyChar rfl (start _)
  · exact writable_chars_markupForm (head?_nextField _) rfl
  · exact Text.Format.writable_chars_anyChar (head?_nextField _) (number _)
  · exact Text.Format.writable_chars_anyChar (head?_nextField _) (number _)
  · exact Text.Format.writable_chars_anyChar (head?_nextField _) (number _)
  · exact Text.Format.writable_chars_anyChar (by simp [nextField]) (number _)
  · exact writable_natural rfl rfl _
  · exact writable_natural rfl rfl _
  · exact writable_natural rfl rfl _

theorem isPrefixOf?_sectionEnd_write_figure
    (shown : Figure)
    (behind : List Char) :
    sectionEnd.toList.isPrefixOf? (figure.write shown ++ behind) = none := by
  have starts : ∃ rest,
      figure.write shown = (elementStart shown.kind).toList ++ rest := by
    simp only [figure, tag, Text.Format.write_convert,
      Text.Format.write_andThen, Text.Format.write_chars_anyChar,
      List.append_assoc]
    exact ⟨_, rfl⟩
  rcases starts with ⟨rest, starts⟩
  rw [starts]
  cases shown.kind <;> exact isPrefixOf?_endTag_eq_none rfl (by decide)

theorem exists_write_picture (shown : Section) :
    ∃ rest, picture.write shown = '<' :: 'd' :: rest :=
  ⟨_, rfl⟩

theorem isPrefixOf?_pageFoot_write_picture
    (shown : Section)
    (behind : List Char) :
    pageFoot.toList.isPrefixOf? (picture.write shown ++ behind) = none := by
  rcases exists_write_picture shown with ⟨rest, starts⟩
  rw [starts]
  exact isPrefixOf?_endTag_eq_none rfl (by decide)

theorem writable_picture (snapshot : Snapshot) :
    picture.Writable (Section.ofSnapshot sheet snapshot) := by
  simp only [picture, Text.Format.writable_convert_iff,
    Text.Format.writable_andThen_iff, Text.Format.writable_behind_iff]
  refine ⟨?_, ?_, ?_, ?_, ?_, ?_⟩
  · exact writable_chars_markupForm rfl rfl
  · exact writable_chars_markupForm rfl rfl
  · exact writable_chars_markupForm rfl rfl
  · exact writable_natural (head?_nextField _) rfl _
  · exact writable_natural rfl rfl _
  · exact Text.Format.writable_upTo_map
      (fun shape _ => writable_figure sheet shape)
        isPrefixOf?_sectionEnd_write_figure

theorem writable_pictures (archive : Archive) :
    pictures.Writable (sectionsOf sheet archive) :=
  Text.Format.writable_upTo_map
    (fun snapshot _ => writable_picture sheet snapshot)
      isPrefixOf?_pageFoot_write_picture

/-- Sections are not written as the page of none. -/
theorem write_pictures_ne
    {shown : List Section}
    (someSections : shown ≠ []) :
    pictures.write shown ≠ emptyPage.toList := by
  intro same
  rw [emptyPage, String.append_assoc, String.toList_append] at same
  have sameBody := List.append_cancel_left same
  rcases List.exists_cons_of_ne_nil someSections with ⟨first, rest, rfl⟩
  rcases exists_write_picture first with ⟨behind, starts⟩
  rw [Text.Format.write_upTo, List.flatMap_cons, starts] at sameBody
  simp [pageEmpty] at sameBody

/-- The page of an archive is read as what it shows. -/
theorem readPage?_page (archive : Archive) :
    readPage? (page sheet archive) = some (sectionsOf sheet archive) := by
  have written := toList_page sheet archive
  unfold readPage?
  split at written
  case isTrue noSections =>
    rw [if_pos (String.toList_inj.mp written), noSections]
  case isFalse someSections =>
    have notEmpty : page sheet archive ≠ emptyPage := by
      rw [ne_eq, ← String.toList_inj, written]
      exact write_pictures_ne someSections
    rw [if_neg notEmpty, written]
    exact pictures.readAll?_write (writable_pictures sheet archive)

/-- A page says nothing but what it shows. -/
theorem page_eq_of_sectionsOf_eq
    {firstSheet secondSheet : Sheet}
    {first second : Archive}
    (same : sectionsOf firstSheet first = sectionsOf secondSheet second) :
    page firstSheet first = page secondSheet second := by
  rw [← String.toList_inj, toList_page, toList_page, same]

@[simp] theorem length_sectionsOf (archive : Archive) :
    (sectionsOf sheet archive).length = archive.size :=
  List.length_map _

/-- Sections are shown on the sheet of their page. -/
theorem sheet_of_mem_sectionsOf
    {archive : Archive}
    {shown : Section}
    (member : shown ∈ sectionsOf sheet archive) :
    shown.sheet = sheet := by
  rcases List.mem_map.mp member with ⟨snapshot, -, rfl⟩
  rfl

end Reading

/--
A page can be read: what it shows of an archive is found again from its text.
So two pages are equal exactly if they show equally many snapshots with equal
ids, timestamps and descriptions, whose shapes are of equal kinds and names,
with numbers that are printed alike and equal shades, on sheets of one size.
Only the sheet of a page without snapshots cannot be told.
-/
theorem page_eq_iff :
    (∀ sheet archive,
      readPage? (page sheet archive) = some (sectionsOf sheet archive)) ∧
      ∀ (firstSheet secondSheet : Sheet) (first second : Archive),
        page firstSheet first = page secondSheet second ↔
          first.size = second.size ∧
            (first.size = 0 ∨ firstSheet = secondSheet) ∧
            sectionsOf firstSheet first = sectionsOf secondSheet second := by
  refine ⟨readPage?_page, fun firstSheet secondSheet first second => ?_⟩
  constructor
  · intro samePage
    have same :
        sectionsOf firstSheet first = sectionsOf secondSheet second := by
      rw [← Option.some_inj, ← readPage?_page, samePage, readPage?_page]
    refine ⟨?_, ?_, same⟩
    · rw [← length_sectionsOf firstSheet, same, length_sectionsOf]
    · rcases isShown : sectionsOf firstSheet first with _ | ⟨shown, rest⟩
      · left
        rw [← length_sectionsOf firstSheet, isShown, List.length_nil]
      · right
        have member : shown ∈ sectionsOf firstSheet first := by
          rw [isShown]
          exact List.mem_cons_self
        rw [← sheet_of_mem_sectionsOf firstSheet member]
        exact sheet_of_mem_sectionsOf secondSheet (same ▸ member)
  · rintro ⟨-, -, same⟩
    exact page_eq_of_sectionsOf_eq same

end Storyboard.Report
