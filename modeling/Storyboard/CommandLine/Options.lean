import Storyboard.Number.Decimal
import Storyboard.Sheet
import Storyboard.Text.Blank

namespace Storyboard.CommandLine

/-!
# Command line options

One argument is the script; all others are options with a value.  A value stands
behind an equals sign or is the next argument, unless that looks like an option
itself.  No option may be given twice.  Arguments are read from left to right,
and the first one that asks for help or is wrong ends the reading.
-/

/-- How snapshots are presented. -/
inductive View where
  | interactive
  | web
  | text
deriving Repr, DecidableEq

/-- When log lines are colored. -/
inductive Coloring where
  | auto
  | always
  | never
deriving Repr, DecidableEq

/-- The options, each of which takes a value. -/
inductive Name where
  | view
  | out
  | width
  | height
  | logLevel
  | color
deriving Repr, DecidableEq

/-- The name of an option as it is written after two hyphens. -/
def Name.word : Name → String
  | view => "view"
  | out => "out"
  | width => "width"
  | height => "height"
  | logLevel => "log-level"
  | color => "color"

/-- The option with a long name. -/
def Name.ofWord? (word : List Char) : Option Name :=
  [view, out, width, height, logLevel, color].find? fun name =>
    name.word.toList = word

/--
What has been read of the command line; what is absent has not been given.
-/
structure Given where
  script : Option String := none
  view : Option View := none
  out : Option String := none
  width : Option Nat := none
  height : Option Nat := none
  logLevel : Option String := none
  color : Option Coloring := none
deriving Repr, DecidableEq

/-- Why reading the command line ended early. -/
inductive Stop where
  /-- Help was asked for. -/
  | help
  /-- The arguments are wrong. -/
  | usage
deriving Repr, DecidableEq

/--
Set what has not been given yet to what was read; it is wrong to give it again.
-/
def once (already : Option α) (value : Option α) : Except Stop (Option α) :=
  match already, value with
  | none, some value => .ok (some value)
  | _, _ => .error .usage

/-- The view that a word names. -/
def view? (word : String) : Option View :=
  if word = "tui" then
    some .interactive
  else if word = "web" then
    some .web
  else if word = "text" then
    some .text
  else
    none

/-- The coloring that a word names. -/
def coloring? (word : String) : Option Coloring :=
  if word = "auto" then
    some .auto
  else if word = "always" then
    some .always
  else if word = "never" then
    some .never
  else
    none

/-- A path, which is never empty. -/
def path? (text : String) : Option String :=
  if text.isEmpty then none else some text

/-- A number of scene units, which may have a sign but fits into 32 bits. -/
def extent? (text : String) : Option Nat :=
  let (negative, digits) :=
    match text.toList with
    | '-' :: rest => (true, rest)
    | '+' :: rest => (false, rest)
    | digits => (false, digits)
  let value := Number.ofDigits digits
  if digits ≠ [] ∧ digits.all Char.isDigit ∧ value < Number.twoTo 32 ∧
      (negative = false ∨ value = 0) then
    some value
  else
    none

namespace Given

/-- Set an option. -/
def set (given : Given) (name : Name) (value : String) : Except Stop Given :=
  match name with
  | .view =>
      do return { given with view := ← once given.view (view? value) }
  | .out =>
      do return { given with out := ← once given.out (path? value) }
  | .width =>
      do return { given with width := ← once given.width (extent? value) }
  | .height =>
      do return { given with height := ← once given.height (extent? value) }
  | .logLevel =>
      do return { given with logLevel := ← once given.logLevel (some value) }
  | .color =>
      do return { given with color := ← once given.color (coloring? value) }

/-- Set the script. -/
def setScript (given : Given) (path : String) : Except Stop Given := do
  return { given with script := ← once given.script (path? path) }

end Given

/-- What one argument means, before any value in the next one. -/
inductive Argument where
  | script (path : String)
  | option (name : Name) (value : Option String)
  | separator
  | stop (reason : Stop)
deriving Repr, DecidableEq

/-- The meaning of what follows two hyphens. -/
def longArgument (text : List Char) : Argument :=
  let word := text.takeWhile (· ≠ '=')
  let value : Option String :=
    match text.dropWhile (· ≠ '=') with
    | _ :: value => some (.ofList value)
    | [] => none
  if word = "help".toList then
    .stop (if value.isNone then .help else .usage)
  else
    match Name.ofWord? word with
    | some name => .option name value
    | none => .stop .usage

/-- The meaning of what follows one hyphen. -/
def shortArgument : List Char → Argument
  | 'h' :: _ => .stop .help
  | ['o'] => .option .out none
  | 'o' :: '=' :: value => .option .out (some (.ofList value))
  | 'o' :: value => .option .out (some (.ofList value))
  | _ => .stop .usage

/-- The meaning of an argument; a hyphen alone is a path. -/
def Argument.read (text : String) : Argument :=
  match text.toList with
  | ['-', '-'] => .separator
  | '-' :: '-' :: rest => longArgument rest
  | ['-'] => .script text
  | '-' :: rest => shortArgument rest
  | _ => .script text

/-- Whether an argument can be the value of the option before it. -/
def isValue (text : String) : Bool :=
  match Argument.read text with
  | .script _ => true
  | _ => false

/-- Read arguments that are all paths. -/
def readPaths (given : Given) : List String → Except Stop Given
  | [] => .ok given
  | path :: rest => do readPaths (← given.setScript path) rest

/-- Read arguments from left to right. -/
def readFrom (given : Given) : List String → Except Stop Given
  | [] => .ok given
  | text :: rest =>
      match Argument.read text with
      | .script path => do readFrom (← given.setScript path) rest
      | .option name (some value) => do readFrom (← given.set name value) rest
      | .option name none =>
          match rest with
          | [] => .error .usage
          | value :: rest =>
              if isValue value then do
                readFrom (← given.set name value) rest
              else
                .error .usage
      | .separator => readPaths given rest
      | .stop reason => .error reason

/-- The options of a run. -/
structure Options where
  script : String
  view : View
  out : Option String
  sheet : Sheet
  logLevel : Option String
  coloring : Coloring
deriving Repr, DecidableEq

/--
The options that a list of arguments gives; the script must be among them.
-/
def Options.read (arguments : List String) : Except Stop Options := do
  let given ← readFrom {} arguments
  match given.script with
  | none => .error .usage
  | some script =>
      let standard : Sheet := {}
      return {
        script
        view := given.view.getD .interactive
        out := given.out
        sheet :=
          ⟨given.width.getD standard.width, given.height.getD standard.height⟩
        logLevel := given.logLevel
        coloring := given.color.getD .auto }

end Storyboard.CommandLine
