import Mathlib.Data.List.Basic

namespace Storyboard.Text

/-!
# Formats that are read back

A format writes values as text and reads a value from the front of a text.  What
it has written it finds again, whatever stands behind.  Larger formats are put
together from smaller ones, so a document needs no proof of its own: what is
left to show is that nothing in it looks like the literal that ends it.
-/

/-- A writer and a reader of values at the front of a text. -/
structure Format (Value : Type) where
  write : Value → List Char
  read : List Char → Option (Value × List Char)
  /-- The values that are found again. -/
  Writable : Value → Prop
  read_write :
    ∀ {value},
      Writable value →
      ∀ behind, read (write value ++ behind) = some (value, behind)

theorem isPrefixOf?_append (literal behind : List Char) :
    literal.isPrefixOf? (literal ++ behind) = some behind :=
  List.isPrefixOf?_eq_some_iff_append_eq.mpr rfl

/-- A text that begins with another character does not begin with a literal. -/
theorem isPrefixOf?_eq_none_of_head?_ne
    {literal text : List Char}
    {first : Char}
    (isFirst : literal.head? = some first)
    (otherFirst : text.head? ≠ some first) :
    literal.isPrefixOf? text = none := by
  rcases literal with _ | ⟨c, rest⟩
  · cases isFirst
  · cases isFirst
    rw [Option.eq_none_iff_forall_ne_some]
    intro behind found
    rw [List.isPrefixOf?_eq_some_iff_append_eq] at found
    apply otherFirst
    rw [← found]
    rfl

namespace Format

variable {First Second Value Raw : Type}

/-- Any one character. -/
def anyChar : Format Char where
  write c :=
    [c]
  read
    | [] => none
    | c :: rest => some (c, rest)
  Writable _ :=
    True
  read_write :=
    fun _ _ => rfl

/-- A value behind a literal. -/
def behind (literal : String) (format : Format Value) : Format Value where
  write value :=
    literal.toList ++ format.write value
  read text :=
    (literal.toList.isPrefixOf? text).bind format.read
  Writable :=
    format.Writable
  read_write := by
    intro value writable rest
    rw [List.append_assoc, isPrefixOf?_append]
    exact format.read_write writable rest

/--
Two values in a row, the first of which may decide how the second is written.
-/
def andThen
    (first : Format First)
    (second : First → Format Second) :
    Format (First × Second) where
  write values :=
    first.write values.1 ++ (second values.1).write values.2
  read text :=
    match first.read text with
    | none => none
    | some (firstValue, rest) =>
        ((second firstValue).read rest).map fun (secondValue, behind) =>
          ((firstValue, secondValue), behind)
  Writable values :=
    first.Writable values.1 ∧ (second values.1).Writable values.2
  read_write := by
    rintro ⟨firstValue, secondValue⟩ ⟨firstWritable, secondWritable⟩ rest
    rw [List.append_assoc, first.read_write firstWritable]
    dsimp only
    rw [(second firstValue).read_write secondWritable, Option.map_some]

/-- Values that are written as values of another type. -/
def convert
    (format : Format Raw)
    (encode : Value → Raw)
    (decode : Raw → Option Value)
    (decode_encode : ∀ value, decode (encode value) = some value) :
    Format Value where
  write value :=
    format.write (encode value)
  read text :=
    (format.read text).bind fun (raw, rest) =>
      (decode raw).map (·, rest)
  Writable value :=
    format.Writable (encode value)
  read_write := by
    intro value writable rest
    rw [format.read_write writable, Option.bind_some]
    dsimp only
    rw [decode_encode, Option.map_some]

/-- Read items until a literal comes; every item takes some characters. -/
def readUpTo (item : Format Value) (stop : List Char) (text : List Char) :
    Option (List Value × List Char) :=
  match stop.isPrefixOf? text with
  | some rest => some ([], rest)
  | none =>
      match item.read text with
      | none => none
      | some (value, rest) =>
          if rest.length < text.length then
            (readUpTo item stop rest).map fun (values, behind) =>
              (value :: values, behind)
          else
            none
termination_by text.length

/--
Items that are written up to a literal are found again if none looks like it; an
item without characters would.
-/
theorem readUpTo_write
    {item : Format Value}
    {stop : List Char}
    {values : List Value}
    (writable :
      ∀ value ∈ values,
        item.Writable value ∧
          ∀ behind, stop.isPrefixOf? (item.write value ++ behind) = none)
    (behind : List Char) :
    readUpTo item stop (values.flatMap item.write ++ (stop ++ behind)) =
      some (values, behind) := by
  induction values with
  | nil =>
      rw [readUpTo, List.flatMap_nil, List.nil_append, isPrefixOf?_append]
  | cons value rest inductionHypothesis =>
      rw [List.forall_mem_cons] at writable
      rcases writable with ⟨⟨valueWritable, notStop⟩, restWritable⟩
      have notEmpty : item.write value ≠ [] := by
        intro isEmpty
        have found := isPrefixOf?_append stop []
        have notFound := notStop stop
        rw [isEmpty, List.nil_append] at notFound
        rw [List.append_nil, notFound] at found
        cases found
      rw [readUpTo, List.flatMap_cons, List.append_assoc, notStop,
        item.read_write valueWritable]
      dsimp only
      rw [if_pos, inductionHypothesis restWritable, Option.map_some]
      simpa using List.length_pos_iff.mpr notEmpty

/-- Items one after the other, up to a literal that none of them looks like. -/
def upTo (stop : String) (item : Format Value) : Format (List Value) where
  write values :=
    values.flatMap item.write ++ stop.toList
  read :=
    readUpTo item stop.toList
  Writable values :=
    ∀ value ∈ values,
      item.Writable value ∧
        ∀ behind, stop.toList.isPrefixOf? (item.write value ++ behind) = none
  read_write := by
    intro values writable rest
    rw [List.append_assoc]
    exact readUpTo_write writable rest

/-- A text up to a literal, each character of it in a given form. -/
def chars (form : Format Char) (stop : String) : Format String :=
  (form.upTo stop).convert String.toList
    (fun letters => some (.ofList letters)) fun _ =>
    congrArg some String.ofList_toList

section Written

variable
  (literal : String)
  (format : Format Value)

@[simp] theorem write_behind (value : Value) :
    (format.behind literal).write value =
      literal.toList ++ format.write value :=
  rfl

@[simp] theorem write_andThen
    (first : Format First)
    (second : First → Format Second)
    (values : First × Second) :
    (first.andThen second).write values =
      first.write values.1 ++ (second values.1).write values.2 :=
  rfl

@[simp] theorem write_convert
    (encode : Raw → Value)
    (decode : Value → Option Raw)
    (decode_encode : ∀ raw, decode (encode raw) = some raw)
    (raw : Raw) :
    (format.convert encode decode decode_encode).write raw =
      format.write (encode raw) :=
  rfl

@[simp] theorem write_upTo (values : List Value) :
    (format.upTo literal).write values =
      values.flatMap format.write ++ literal.toList :=
  rfl

theorem write_chars (form : Format Char) (text : String) :
    (chars form literal).write text =
      text.toList.flatMap form.write ++ literal.toList :=
  rfl

@[simp] theorem write_chars_anyChar (text : String) :
    (chars anyChar literal).write text = text.toList ++ literal.toList := by
  rw [write_chars]
  exact congrArg (· ++ literal.toList) (List.flatMap_singleton' text.toList)

end Written

section Writables

variable
  {literal : String}
  {format : Format Value}

theorem writable_behind_iff {value : Value} :
    (format.behind literal).Writable value ↔ format.Writable value :=
  Iff.rfl

theorem writable_andThen_iff
    {first : Format First}
    {second : First → Format Second}
    {values : First × Second} :
    (first.andThen second).Writable values ↔
      first.Writable values.1 ∧ (second values.1).Writable values.2 :=
  Iff.rfl

theorem writable_convert_iff
    {encode : Raw → Value}
    {decode : Value → Option Raw}
    {decode_encode : ∀ raw, decode (encode raw) = some raw}
    {raw : Raw} :
    (format.convert encode decode decode_encode).Writable raw ↔
      format.Writable (encode raw) :=
  Iff.rfl

theorem writable_upTo_iff {values : List Value} :
    (format.upTo literal).Writable values ↔
      ∀ value ∈ values,
        format.Writable value ∧
          ∀ behind, literal.toList.isPrefixOf?
            (format.write value ++ behind) = none :=
  Iff.rfl

/--
Items that are made of others can be written up to a literal that no item begins
with.
-/
theorem writable_upTo_map
    {items : List Raw}
    {shown : Raw → Value}
    (writable : ∀ item ∈ items, format.Writable (shown item))
    (notStop :
      ∀ value behind, literal.toList.isPrefixOf?
        (format.write value ++ behind) = none) :
    (format.upTo literal).Writable (items.map shown) := by
  rw [writable_upTo_iff, List.forall_mem_map]
  intro item member
  exact ⟨writable item member, notStop (shown item)⟩

end Writables

/-- A text up to a literal whose first character it does not have. -/
theorem writable_chars_anyChar
    {stop text : String}
    {first : Char}
    (isFirst : stop.toList.head? = some first)
    (notMember : first ∉ text.toList) :
    (chars anyChar stop).Writable text := by
  intro c member
  refine ⟨trivial, fun behind => isPrefixOf?_eq_none_of_head?_ne isFirst ?_⟩
  rintro ⟨⟩
  exact notMember member

/-- The value that a whole text was written for. -/
def readAll? (format : Format Value) (text : List Char) : Option Value :=
  match format.read text with
  | some (value, []) => some value
  | _ => none

theorem readAll?_write
    (format : Format Value)
    {value : Value}
    (writable : format.Writable value) :
    format.readAll? (format.write value) = some value := by
  have found := format.read_write writable []
  rw [List.append_nil] at found
  rw [readAll?, found]

end Format

end Storyboard.Text
