import Storyboard.Text.Blank

namespace Storyboard.CommandLine

/-!
# Interactions with files

A program that reads and writes files is a value: it either is done or waits
for what the file system answers. `Interaction.within` carries such a program
out in a folder of files, so that all it does can be stated and tested.
-/

/-- Why a file cannot be read or written. -/
inductive FileFault where
  | missing
  | isFolder
  | notFolder
  | nameTooLong
  | notText
  | other (reason : String)
deriving Repr, DecidableEq

/-- The text shown for the fault of a file. -/
def FileFault.message : FileFault → String
  | missing => "No such file or directory (os error 2)"
  | isFolder => "Is a directory (os error 21)"
  | notFolder => "Not a directory (os error 20)"
  | nameTooLong => "File name too long (os error 36)"
  | notText => "stream did not contain valid UTF-8"
  | other reason => reason

/-- A program that reads and writes files. -/
inductive Interaction (α : Type) where
  | done (value : α)
  | read (path : String) (next : Except FileFault ByteArray → Interaction α)
  | write (path content : String) (next : Except FileFault Unit → Interaction α)

/-- A file with its name and content. -/
structure File where
  name : String
  content : ByteArray

/-- A folder without folders in it. -/
structure Folder where
  files : List File := []

namespace Folder

/-- The content of the file of a name. -/
def content? (folder : Folder) (name : String) : Option ByteArray :=
  (folder.files.find? (·.name = name)).map File.content

/-- A place that a path leads to from inside a folder. -/
inductive Place where
  /-- The folder itself. -/
  | here
  /-- Another folder, in which nothing is known. -/
  | elsewhere
  /-- The folder that holds all others. -/
  | root
  /-- The folder of devices below the root. -/
  | devices
  /-- The device that holds nothing and takes everything. -/
  | sink
  /-- A file of the folder, whether it exists or not. -/
  | file (name : String)
  /-- A place outside of the folder at which there is nothing. -/
  | outside
deriving Repr, DecidableEq

/-- Whether a place is a folder. -/
def Place.isFolder : Place → Bool
  | here | elsewhere | root | devices => true
  | sink | file _ | outside => false

/-- The folder above a folder. -/
def Place.above : Place → Place
  | root | devices => root
  | _ => elsewhere

/-- The place of a name in a folder. -/
def Place.below (place : Place) (name : String) : Place :=
  match place, name with
  | here, name => .file name
  | root, "dev" => devices
  | root, "tmp" => elsewhere
  | devices, "null" => sink
  | _, _ => outside

/-- The most bytes that a name can have. -/
def maxName : Nat :=
  255

/-- The most bytes that a path can have. -/
def maxPath : Nat :=
  4095

/-- The fault of a place that is taken for a folder and is none. -/
def notFolderFault (folder : Folder) : Place → FileFault
  | .file name => if (folder.content? name).isSome then .notFolder else .missing
  | .sink => .notFolder
  | _ => .missing

/-- The place that one step of a path leads to. -/
def step
    (folder : Folder)
    (place : Place)
    (name : String) :
    Except FileFault Place :=
  if !place.isFolder then .error (folder.notFolderFault place)
  else if name = "." then .ok place
  else if name = ".." then .ok place.above
  else if maxName < name.utf8ByteSize then .error .nameTooLong
  else .ok (place.below name)

/-- A path taken apart into its steps. -/
structure Steps where
  start : Place
  names : List String
  /-- Whether there is a slash behind the last step. -/
  insists : Bool

/-- The steps of a path, if it is one. -/
def Steps.ofPath (path : String) : Except FileFault Steps :=
  if path.isEmpty then
    .error .missing
  else if maxPath < path.utf8ByteSize then
    .error .nameTooLong
  else
    .ok {
      start := if path.toList.head? = some '/' then .root else .here
      names := ((Text.pieces (· = '/') path.toList).filter (· ≠ [])).map .ofList
      insists := path.toList.getLast? = some '/' }

/-- The content of the file at a path. -/
def read (folder : Folder) (path : String) : Except FileFault ByteArray := do
  let steps ← Steps.ofPath path
  let place ← steps.names.foldlM folder.step steps.start
  match place with
  | .here | .elsewhere | .root | .devices => throw .isFolder
  | .outside => throw .missing
  | .sink => if steps.insists then throw .notFolder else return .empty
  | .file name =>
      match folder.content? name with
      | none => throw .missing
      | some content =>
          if steps.insists then throw .notFolder else return content

/--
The place at which a path has a text written.

A name with a slash behind it is refused before it is looked up.
-/
def target (folder : Folder) (path : String) : Except FileFault Place := do
  let steps ← Steps.ofPath path
  match steps.names.getLast? with
  | none => throw .isFolder
  | some last =>
      let parent ← steps.names.dropLast.foldlM folder.step steps.start
      if parent.isFolder && steps.insists && last ≠ "." && last ≠ ".." then
        throw .isFolder
      let place ← folder.step parent last
      if place.isFolder then
        throw .isFolder
      return place

/-- Put a file in place of any other one of its name. -/
def put (folder : Folder) (file : File) : Folder :=
  ⟨folder.files.filter (·.name ≠ file.name) ++ [file]⟩

/--
Write a text to the file at a path.

The folder stays as it was if that fails or if the file is not in it.
-/
def write
    (folder : Folder)
    (path content : String) :
    Except FileFault Unit × Folder :=
  match folder.target path with
  | .error fault => (.error fault, folder)
  | .ok (.file name) => (.ok (), folder.put ⟨name, content.toUTF8⟩)
  | .ok _ => (.ok (), folder)

end Folder

/-- Carry a program out in a folder: its result and the folder afterwards. -/
def Interaction.within (folder : Folder) : Interaction α → α × Folder
  | done value => (value, folder)
  | read path next => (next (folder.read path)).within folder
  | write path content next =>
      let (answer, folder) := folder.write path content
      (next answer).within folder

end Storyboard.CommandLine
