import Storyboard.CommandLine.Interaction
import Storyboard.Proofs.Except

namespace Storyboard.CommandLine

/-!
# File systems

A program that reads and writes files can be carried out on any file system, of
which nothing is assumed but that reading leaves the files as they are.  A
folder is one.  What is written to a file of a folder is read back from the same
path, and no other file of the folder changes.
-/

/-- How files are read and written in each of their states. -/
structure FileSystem (State : Type) where
  read : State → String → Except FileFault ByteArray
  write : State → String → String → Except FileFault Unit × State

namespace FileSystem

variable {State : Type}

/-- Whether any text can be written to a path. -/
def Writable
    (system : FileSystem State)
    (files : State)
    (path : String) : Prop :=
  ∀ content, (system.write files path content).1 = .ok ()

end FileSystem

/--
Carry a program out on the files of a file system: its result and the files
afterwards.
-/
def Interaction.inside
    (system : FileSystem State)
    (files : State) :
    Interaction α → α × State
  | done value => (value, files)
  | read path next => (next (system.read files path)).inside system files
  | write path content next =>
      let (answer, files) := system.write files path content
      (next answer).inside system files

/--
A program that writes to a writable path goes on in what the writing leaves.
-/
theorem Interaction.inside_write
    {State : Type}
    {system : FileSystem State}
    {files : State}
    {path : String}
    (writable : system.Writable files path)
    (content : String)
    (next : Except FileFault Unit → Interaction α) :
    (write path content next).inside system files =
      (next (.ok ())).inside system (system.write files path content).2 := by
  rw [← writable content]
  rfl

namespace Folder

/-- The file system of a folder. -/
def system : FileSystem Folder :=
  ⟨read, write⟩

/-- A program is carried out in a folder as in the file system of the folder. -/
theorem within_eq_inside
    (folder : Folder)
    (program : Interaction α) :
    program.within folder = program.inside system folder := by
  induction program generalizing folder with
  | done value =>
      rfl
  | read path next inductionHypothesis =>
      exact inductionHypothesis _ folder
  | write path content next inductionHypothesis =>
      exact inductionHypothesis _ _

section Contents

variable (folder : Folder)

theorem content?_put_self (file : File) :
    (folder.put file).content? file.name = some file.content := by
  have replaced :
      (folder.files.filter (·.name ≠ file.name)).find?
        (·.name = file.name) = none := by
    rw [List.find?_eq_none]
    intro stored member
    simpa using (List.mem_filter.mp member).2
  rw [put, content?, List.find?_append, replaced]
  simp

theorem content?_put_of_ne
    {file : File}
    {name : String}
    (other : name ≠ file.name) :
    (folder.put file).content? name = folder.content? name := by
  have kept (stored : File) :
      (stored.name ≠ file.name ∧ stored.name = name) ↔ stored.name = name := by
    constructor
    · exact And.right
    · intro sameName
      exact ⟨sameName ▸ other, sameName⟩
  rw [put, content?, List.find?_append, List.find?_filter]
  simp [kept, content?, other.symm]

end Contents

section Paths

variable {folder : Folder}

/-- Where a step leads does not depend on what the files hold. -/
theorem step_eq_ok
    {place next : Place}
    {name : String}
    (leads : folder.step place name = .ok next)
    (other : Folder) :
    other.step place name = .ok next := by
  unfold step at leads ⊢
  split at leads
  · cases leads
  · rename_i isFolder
    rw [if_neg isFolder]
    exact leads

theorem foldlM_step_eq_ok
    {place last : Place}
    {names : List String}
    (lead : names.foldlM folder.step place = .ok last)
    (other : Folder) :
    names.foldlM other.step place = .ok last := by
  induction names generalizing place with
  | nil =>
      exact lead
  | cons name rest inductionHypothesis =>
      rw [List.foldlM_cons] at lead ⊢
      obtain ⟨next, leads, restLead⟩ := bind_eq_ok_iff.mp lead
      rw [step_eq_ok leads other]
      exact inductionHypothesis restLead

/-- Only a name leads from a folder to what is none. -/
theorem isFolder_of_step_eq_ok
    {place next : Place}
    {name : String}
    (leads : folder.step place name = .ok next)
    (noFolder : next.isFolder = false) :
    place.isFolder = true ∧ name ≠ "." ∧ name ≠ ".." := by
  unfold step at leads
  split at leads
  · cases leads
  · rename_i notRefused
    have fromFolder : place.isFolder = true := by simpa using notRefused
    refine ⟨fromFolder, ?_, ?_⟩
    · rintro rfl
      cases leads
      rw [fromFolder] at noFolder
      cases noFolder
    · rintro rfl
      cases leads
      cases place <;> cases noFolder

/--
A path at which a text is written has a last step that leads to it without a
slash behind.
-/
theorem target_eq_ok
    {path : String}
    {place : Place}
    (found : folder.target path = .ok place) :
    ∃ steps,
      Steps.ofPath path = .ok steps ∧ steps.insists = false ∧
        place.isFolder = false ∧
        steps.names.foldlM folder.step steps.start = .ok place := by
  unfold target at found
  obtain ⟨steps, isPath, found⟩ := bind_eq_ok_iff.mp found
  cases isLast : steps.names.getLast? with
  | none =>
      rw [isLast] at found
      cases found
  | some last =>
      rw [isLast] at found
      obtain ⟨parent, isParent, found⟩ := bind_eq_ok_iff.mp found
      obtain ⟨notInsisted, found⟩ := check_eq_ok_iff.mp found
      obtain ⟨next, leads, found⟩ := bind_eq_ok_iff.mp found
      obtain ⟨notFolder, found⟩ := check_eq_ok_iff.mp found
      cases found
      have noFolder : place.isFolder = false := by simpa using notFolder
      obtain ⟨fromFolder, notHere, notAbove⟩ :=
        isFolder_of_step_eq_ok leads noFolder
      refine ⟨steps, isPath, ?_, noFolder, ?_⟩
      · simpa [fromFolder, notHere, notAbove] using notInsisted
      · obtain ⟨before, whole⟩ := List.getLast?_eq_some_iff.mp isLast
        rw [whole, List.dropLast_concat] at isParent
        rw [whole, List.foldlM_append]
        refine bind_eq_ok_iff.mpr ⟨parent, isParent, ?_⟩
        rw [List.foldlM_cons, leads]
        rfl

/-- Wherever a text can be written once, any text can. -/
theorem writable_of_target_eq_ok
    {path : String}
    {place : Place}
    (found : folder.target path = .ok place) :
    system.Writable folder path := by
  intro content
  simp only [system, write, found]
  cases place <;> rfl

/--
A path at which a text is written to a file reads what a folder holds of that
file.
-/
theorem read_of_target_eq_ok
    {path name : String}
    (found : folder.target path = .ok (.file name))
    {other : Folder}
    {content : ByteArray}
    (holds : other.content? name = some content) :
    other.read path = .ok content := by
  obtain ⟨steps, isPath, notInsisted, -, lead⟩ := target_eq_ok found
  refine bind_eq_ok_iff.mpr
    ⟨steps, isPath, bind_eq_ok_iff.mpr ⟨_, foldlM_step_eq_ok lead other, ?_⟩⟩
  simp only [holds, notInsisted]
  rfl

section Files

variable
  {path name : String}
  (found : folder.target path = .ok (.file name))
  (content : String)

include found

theorem write_eq_put :
    folder.write path content =
      (.ok (), folder.put ⟨name, content.toUTF8⟩) := by
  rw [write, found]

/-- Writing to a file changes what it holds and what no other file does. -/
theorem content?_write (other : String) :
    (folder.write path content).2.content? other =
      if other = name then some content.toUTF8 else folder.content? other := by
  rw [write_eq_put found]
  split
  · rename_i sameName
    rw [sameName]
    exact folder.content?_put_self ⟨name, content.toUTF8⟩
  · rename_i otherName
    exact folder.content?_put_of_ne otherName

/-- What is written to a file is read back from the same path. -/
theorem read_write :
    (folder.write path content).2.read path = .ok content.toUTF8 := by
  apply read_of_target_eq_ok found
  rw [content?_write found, if_pos rfl]

end Files

end Paths

end Folder

end Storyboard.CommandLine
