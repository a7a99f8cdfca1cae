import Storyboard.Proofs.Number.Characters
import Storyboard.Proofs.Text.Format
import Storyboard.Proofs.Text.Lines
import Storyboard.Report.Listing

namespace Storyboard.Report

/-!
# Reading a listing

A listing escapes nothing.  It can be read as long as no text in it holds a
newline: each text then reaches up to the end of its line, and a line that
begins an entry or a shape cannot be mistaken, because it is looked for only
where one may begin.
-/

open Text (Format)
open Text.Format (anyChar chars)

/-- What a listing says of a shape. -/
structure Item where
  name : String
  kind : Kind
  x : String
  y : String
  first : String
  second : String
  red : String
  green : String
  blue : String
deriving Repr, DecidableEq

/-- What a listing says of a snapshot. -/
structure Entry where
  id : String
  timestamp : String
  description : String
  items : List Item
deriving Repr, DecidableEq

/-- A shape as it is listed. -/
def Item.ofShape (shape : Shape) : Item where
  name := shape.name
  kind := shape.kind
  x := Number.tenths shape.position.x
  y := Number.tenths shape.position.y
  first := Number.tenths shape.extent.sizes.1
  second := Number.tenths shape.extent.sizes.2
  red := Number.tenths shape.color.red
  green := Number.tenths shape.color.green
  blue := Number.tenths shape.color.blue

/-- A snapshot as it is listed. -/
def Entry.ofSnapshot (snapshot : Snapshot) : Entry where
  id := snapshot.id.text
  timestamp := snapshot.timestamp
  description := snapshot.description
  items := snapshot.shapes.map Item.ofShape

/-- The entries that the listing of an archive has, oldest first. -/
def entriesOf (archive : Archive) : List Entry :=
  archive.snapshots.toList.map Entry.ofSnapshot

@[simp] theorem length_entriesOf (archive : Archive) :
    (entriesOf archive).length = archive.size :=
  List.length_map _

section Parts

/-- What stands in front of the position of a shape. -/
def positionLabel : Kind → String
  | .rectangle => "Min corner: ("
  | .oval => "Center: ("

/--
What stands in front of the two sizes of a shape, each behind another number.
-/
def sizeLabels : Kind → String × String
  | .rectangle => ("), Width: ", ", Height: ")
  | .oval => ("), X radius: ", ", Y radius: ")

/-- A kind by its word, up to the end of the line. -/
def kindLine : Format Kind :=
  (chars anyChar "\n").convert Kind.word Kind.ofWord? Kind.ofWord?_word

/-- The lines of a shape. -/
def item : Format Item :=
  (((chars anyChar "\nType: ").behind "Name: ").andThen fun _ =>
    kindLine.andThen fun kind =>
    ((chars anyChar ", ").behind (positionLabel kind)).andThen fun _ =>
    (chars anyChar (sizeLabels kind).1).andThen fun _ =>
    (chars anyChar (sizeLabels kind).2).andThen fun _ =>
    (chars anyChar (", Color: " ++ "(")).andThen fun _ =>
    (chars anyChar ", ").andThen fun _ =>
    (chars anyChar ", ").andThen fun _ =>
    chars anyChar (")" ++ "\n")).convert
      (fun item =>
        (item.name, item.kind, item.x, item.y, item.first, item.second,
          item.red, item.green, item.blue))
      (fun (name, kind, x, y, first, second, red, green, blue) =>
        some ⟨name, kind, x, y, first, second, red, green, blue⟩)
      (fun _ => rfl)

/-- The lines of a snapshot with the empty line behind them. -/
def entry : Format Entry :=
  (((chars anyChar "\nTimestamp: ").behind "Snapshot ID: ").andThen fun _ =>
    (chars anyChar ("\n" ++ "Description: ")).andThen fun _ =>
    (chars anyChar "\nShape Information:\n").andThen fun _ =>
    item.upTo "\n").convert
      (fun entry => (entry.id, entry.timestamp, entry.description, entry.items))
      (fun (id, timestamp, description, items) =>
        some ⟨id, timestamp, description, items⟩)
      (fun _ => rfl)

/-- Entries with a second empty line behind the last of them. -/
def entries : Format (List Entry) :=
  entry.upTo "\n"

end Parts

/--
What a listing says, read from its text, behind which an empty line is put as it
stands behind all entries but the last.
-/
def readListing? (text : String) : Option (List Entry) :=
  let ended := (text ++ "\n\n").toList
  if ended = "\n\n".toList then
    some []
  else
    entries.readAll? ended

section Writing

theorem write_item (shape : Shape) :
    item.write (Item.ofShape shape) = (shape.describe ++ "\n").toList := by
  rcases shape with ⟨name, position, color, extent⟩
  cases extent <;>
    simp only [item, kindLine, positionLabel, sizeLabels, Item.ofShape,
      Shape.kind, Extent.kind, Extent.sizes, Text.Format.write_convert,
      Text.Format.write_andThen, Text.Format.write_behind,
      Text.Format.write_chars_anyChar, Shape.describe, Shape.outline,
      Color.text, toString, String.toList_append, List.append_assoc]

theorem write_entry (snapshot : Snapshot) :
    entry.write (Entry.ofSnapshot snapshot) =
      (snapshot.describe ++ "\n").toList := by
  unfold Snapshot.describe
  simp only [entry, Entry.ofSnapshot, Text.Format.write_convert,
    Text.Format.write_andThen, Text.Format.write_behind, Text.Format.write_upTo,
    Text.Format.write_chars_anyChar, write_item, List.flatMap_map,
    String.toList_join, toString, String.toList_append, List.append_assoc]

/-- A listing is written from its entries alone. -/
theorem toList_listing_append (archive : Archive) :
    (listing archive ++ "\n\n").toList =
      if entriesOf archive = [] then
        "\n\n".toList
      else
        entries.write (entriesOf archive) := by
  have joined :
      listing archive = Text.joinLines
        (archive.snapshots.toList.map Snapshot.describe) :=
    rfl
  by_cases noSnapshots : archive.snapshots = #[]
  · simp [joined, noSnapshots, entriesOf, Text.joinLines]
  · have someText : archive.snapshots.toList.map Snapshot.describe ≠ [] := by
      simpa using noSnapshots
    have someEntries : entriesOf archive ≠ [] := by
      simpa [entriesOf] using noSnapshots
    have twoNewlines : "\n\n" = "\n" ++ "\n" := rfl
    rw [if_neg someEntries, twoNewlines, joined, ← String.append_assoc,
      String.toList_append, Text.toList_joinLines_append someText]
    simp only [entries, entriesOf, Text.Format.write_upTo, List.flatMap_map,
      write_entry]

end Writing

section Reading

/-- No text of a snapshot goes on in another line. -/
structure Unbroken (snapshot : Snapshot) : Prop where
  id_unbroken :
    '\n' ∉ snapshot.id.text.toList
  timestamp_unbroken :
    '\n' ∉ snapshot.timestamp.toList
  description_unbroken :
    '\n' ∉ snapshot.description.toList
  names_unbroken :
    ∀ shape ∈ snapshot.shapes, '\n' ∉ shape.name.toList

theorem writable_item
    {shape : Shape}
    (unbroken : '\n' ∉ shape.name.toList) :
    item.Writable (Item.ofShape shape) := by
  have word (kind : Kind) : '\n' ∉ kind.word.toList := by
    cases kind <;> decide
  have noComma (value : Float) : ',' ∉ (Number.tenths value).toList :=
    Number.notMem_tenths (by decide) (by decide) value
  have noParenthesis (value : Float) : ')' ∉ (Number.tenths value).toList :=
    Number.notMem_tenths (by decide) (by decide) value
  have labels (kind : Kind) :
      (sizeLabels kind).1.toList.head? = some ')' ∧
        (sizeLabels kind).2.toList.head? = some ',' := by
    cases kind <;> decide
  simp only [item, kindLine, Text.Format.writable_convert_iff,
    Text.Format.writable_andThen_iff, Text.Format.writable_behind_iff]
  refine ⟨?_, ?_, ?_, ?_, ?_, ?_, ?_, ?_, ?_⟩
  · exact Text.Format.writable_chars_anyChar rfl unbroken
  · exact Text.Format.writable_chars_anyChar rfl (word _)
  · exact Text.Format.writable_chars_anyChar rfl (noComma _)
  · exact Text.Format.writable_chars_anyChar (labels _).1 (noParenthesis _)
  · exact Text.Format.writable_chars_anyChar (labels _).2 (noComma _)
  · exact Text.Format.writable_chars_anyChar rfl (noComma _)
  · exact Text.Format.writable_chars_anyChar rfl (noComma _)
  · exact Text.Format.writable_chars_anyChar rfl (noComma _)
  · exact Text.Format.writable_chars_anyChar rfl (noParenthesis _)

theorem exists_write_entry (listed : Entry) :
    ∃ rest, entry.write listed = 'S' :: rest :=
  ⟨_, rfl⟩

theorem writable_entry
    {snapshot : Snapshot}
    (unbroken : Unbroken snapshot) :
    entry.Writable (Entry.ofSnapshot snapshot) := by
  simp only [entry, Text.Format.writable_convert_iff,
    Text.Format.writable_andThen_iff, Text.Format.writable_behind_iff]
  refine ⟨?_, ?_, ?_, ?_⟩
  · exact Text.Format.writable_chars_anyChar rfl unbroken.id_unbroken
  · exact Text.Format.writable_chars_anyChar rfl unbroken.timestamp_unbroken
  · exact Text.Format.writable_chars_anyChar rfl unbroken.description_unbroken
  · exact Text.Format.writable_upTo_map
      (fun shape isShape =>
        writable_item (unbroken.names_unbroken shape isShape))
      fun _ _ => rfl

theorem writable_entries
    {archive : Archive}
    (unbroken : ∀ snapshot ∈ archive.snapshots.toList, Unbroken snapshot) :
    entries.Writable (entriesOf archive) :=
  Text.Format.writable_upTo_map
    (fun snapshot member => writable_entry (unbroken snapshot member))
      fun _ _ => rfl

/-- Entries are not written as the listing of none. -/
theorem write_entries_ne
    {listed : List Entry}
    (someEntries : listed ≠ []) :
    entries.write listed ≠ "\n\n".toList := by
  intro same
  rcases List.exists_cons_of_ne_nil someEntries with ⟨first, rest, rfl⟩
  rcases exists_write_entry first with ⟨behind, starts⟩
  rw [entries, Text.Format.write_upTo, List.flatMap_cons, starts] at same
  simp at same

/-- A listing of snapshots whose texts are unbroken is read as what it says. -/
theorem readListing?_listing
    {archive : Archive}
    (unbroken : ∀ snapshot ∈ archive.snapshots.toList, Unbroken snapshot) :
    readListing? (listing archive) = some (entriesOf archive) := by
  have written := toList_listing_append archive
  unfold readListing?
  split at written
  case isTrue noEntries =>
    rw [written, if_pos rfl, noEntries]
  case isFalse someEntries =>
    rw [written, if_neg (write_entries_ne someEntries)]
    exact entries.readAll?_write (writable_entries unbroken)

/-- A listing says nothing but its entries. -/
theorem listing_eq_of_entriesOf_eq
    {first second : Archive}
    (same : entriesOf first = entriesOf second) :
    listing first = listing second := by
  have ended := toList_listing_append first
  rw [same, ← toList_listing_append second, String.toList_append,
    String.toList_append] at ended
  exact String.toList_inj.mp (List.append_cancel_right ended)

end Reading

end Storyboard.Report
