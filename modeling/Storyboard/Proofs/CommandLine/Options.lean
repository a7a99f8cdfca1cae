import Storyboard.CommandLine.Options
import Storyboard.Proofs.Except
import Storyboard.Proofs.Number.Digits
import Storyboard.Proofs.Sheet

namespace Storyboard.CommandLine

/-!
# Options that command lines give

A command line gives options exactly if their paths are not empty and the sides
of their sheet are words of 32 bits.  All such options can be written as
arguments, each with its value behind an equals sign and the script behind a
separator, so that no value is taken for an option, whatever it begins with.
-/

/-- Options with paths that are not empty and a sheet with sides in words. -/
structure Options.Valid (options : Options) : Prop where
  script_ne : options.script ≠ ""
  out_ne : options.out ≠ some ""
  inWords : options.sheet.InWords

section Values

/-- The word that names a view. -/
def View.word : View → String
  | interactive => "tui"
  | web => "web"
  | text => "text"

/-- The word that names a coloring. -/
def Coloring.word : Coloring → String
  | auto => "auto"
  | always => "always"
  | never => "never"

theorem view?_word (view : View) : view? view.word = some view := by
  cases view <;> decide

theorem coloring?_word (coloring : Coloring) :
    coloring? coloring.word = some coloring := by
  cases coloring <;> decide

theorem path?_eq_some_iff {text path : String} :
    path? text = some path ↔ text ≠ "" ∧ text = path := by
  simp [path?, String.isEmpty_iff]

theorem path?_ne_some_empty (text : String) : path? text ≠ some "" := by
  rw [Ne, path?_eq_some_iff]
  exact fun ⟨notEmpty, empty⟩ => notEmpty empty

/-- Digits that fit into a word are read, being behind no sign. -/
theorem extent?_eq_some_of_digits
    {text : String}
    (notEmpty : text.toList ≠ [])
    (digits : ∀ c ∈ text.toList, c.isDigit = true)
    (inWords : Number.ofDigits text.toList < 2 ^ 32) :
    extent? text = some (Number.ofDigits text.toList) := by
  have notSign
      {sign : Char}
      {rest : List Char}
      (noDigit : sign.isDigit = false)
      (signed : text.toList = sign :: rest) :
      False := by
    have isDigit := digits sign (signed ▸ List.mem_cons_self)
    rw [noDigit] at isDigit
    cases isDigit
  unfold extent?
  split
  rename_i isTaken
  split at isTaken
  · rename_i signed
    exact (notSign rfl signed).elim
  · rename_i signed
    exact (notSign rfl signed).elim
  · cases isTaken
    exact if_pos ⟨notEmpty, List.all_eq_true.mpr digits, inWords, .inl rfl⟩

theorem extent?_toString
    {side : Nat}
    (inWords : side < 2 ^ 32) :
    extent? (toString side) = some side := by
  have digits : (toString side).toList = Nat.toDigits 10 side := Nat.toList_repr
  have readBack : Number.ofDigits (toString side).toList = side := by
    rw [digits, Number.ofDigits_eq_ofDigitChars, Nat.ofDigitChars_ten_toDigits]
  rw [extent?_eq_some_of_digits, readBack]
  · rw [digits]
    exact Nat.toDigits_ne_nil
  · rw [digits]
    exact fun _ => Number.isDigit_of_mem_toDigits
  · rw [readBack]
    exact inWords

theorem lt_of_extent?_eq_some
    {text : String}
    {side : Nat}
    (read : extent? text = some side) :
    side < 2 ^ 32 := by
  unfold extent? at read
  split at read
  rw [Option.ite_none_right_eq_some] at read
  obtain ⟨⟨-, -, inWords, -⟩, same⟩ := read
  exact Option.some.inj same ▸ inWords

end Values

section Written

/-- An option with its value behind an equals sign. -/
def Name.argument (name : Name) (value : String) : String :=
  "--" ++ name.word ++ "=" ++ value

theorem Name.read_argument (name : Name) (value : String) :
    Argument.read (name.argument value) = .option name (some value) := by
  have letters :
      (name.argument value).toList =
        '-' :: '-' :: (name.word.toList ++ '=' :: value.toList) := by
    simp [Name.argument]
  have argument :
      longArgument (name.word.toList ++ '=' :: value.toList) =
        .option name (some (.ofList value.toList)) := by
    cases name <;> rfl
  rw [String.ofList_toList] at argument
  rw [Argument.read, letters]
  cases name <;> exact argument

/-- The arguments that give options, the script last. -/
def Options.arguments (options : Options) : List String :=
  [Name.view.argument options.view.word] ++
    options.out.toList.map Name.out.argument ++
    [Name.width.argument (toString options.sheet.width),
      Name.height.argument (toString options.sheet.height)] ++
    options.logLevel.toList.map Name.logLevel.argument ++
    [Name.color.argument options.coloring.word, "--", options.script]

theorem readFrom_argument
    (given : Given)
    (name : Name)
    (value : String)
    (rest : List String) :
    readFrom given (name.argument value :: rest) =
      (given.set name value >>= fun given => readFrom given rest) := by
  rw [readFrom, name.read_argument]

theorem readFrom_separator
    (given : Given)
    (path : String) :
    readFrom given ["--", path] =
      (given.setScript path >>= fun given => .ok given) := by
  rfl

variable {options : Options}

theorem readFrom_arguments (valid : options.Valid) :
    readFrom {} options.arguments =
      .ok {
        script := some options.script
        view := some options.view
        out := options.out
        width := some options.sheet.width
        height := some options.sheet.height
        logLevel := options.logLevel
        color := some options.coloring } := by
  have script : path? options.script = some options.script :=
    path?_eq_some_iff.mpr ⟨valid.script_ne, rfl⟩
  have width := extent?_toString valid.inWords.width_lt
  have height := extent?_toString valid.inWords.height_lt
  have out (path : String) (isOut : options.out = some path) :
      path? path = some path :=
    path?_eq_some_iff.mpr
      ⟨fun empty => valid.out_ne (isOut.trans (congrArg some empty)), rfl⟩
  rw [Options.arguments]
  cases isOut : options.out <;> cases isLevel : options.logLevel <;>
    simp only [Option.toList_none, Option.toList_some, List.map_nil,
      List.map_singleton, List.append_nil, List.cons_append, List.nil_append,
      readFrom_argument, readFrom_separator, Given.set, Given.setScript,
      view?_word, coloring?_word, width, height, script, out, isOut] <;>
    rfl

/-- Options are read from the arguments that give them. -/
theorem read_arguments (valid : options.Valid) :
    Options.read options.arguments = .ok options := by
  rw [Options.read, readFrom_arguments valid]
  rfl

end Written

section Accepted

/--
What has been read of a command line, with paths that are not empty and sides in
words.
-/
structure Given.Valid (given : Given) : Prop where
  script_ne : given.script ≠ some ""
  out_ne : given.out ≠ some ""
  width_lt : ∀ side, given.width = some side → side < 2 ^ 32
  height_lt : ∀ side, given.height = some side → side < 2 ^ 32

variable {given next : Given}

theorem once_eq_ok
    {already value now : Option α}
    (set : once already value = .ok now) :
    now = value := by
  unfold once at set
  split at set
  · cases set
    rfl
  · cases set

theorem ne_of_once_path?
    {already now : Option String}
    {text : String}
    (set : once already (path? text) = .ok now) :
    now ≠ some "" := by
  rw [once_eq_ok set]
  exact path?_ne_some_empty text

theorem lt_of_once_extent?
    {already now : Option Nat}
    {text : String}
    (set : once already (extent? text) = .ok now) :
    ∀ side, now = some side → side < 2 ^ 32 := by
  rw [once_eq_ok set]
  exact fun _ => lt_of_extent?_eq_some

theorem Given.Valid.setScript
    (valid : given.Valid)
    {path : String}
    (accepted : given.setScript path = .ok next) :
    next.Valid := by
  obtain ⟨script, isOnce, isNext⟩ := bind_eq_ok_iff.mp accepted
  cases isNext
  exact { valid with script_ne := ne_of_once_path? isOnce }

theorem Given.Valid.set
    (valid : given.Valid)
    {name : Name}
    {value : String}
    (accepted : given.set name value = .ok next) :
    next.Valid := by
  cases name with
  | view | logLevel | color =>
      obtain ⟨read, -, isNext⟩ := bind_eq_ok_iff.mp accepted
      cases isNext
      exact { valid with }
  | out =>
      obtain ⟨out, isOnce, isNext⟩ := bind_eq_ok_iff.mp accepted
      cases isNext
      exact { valid with out_ne := ne_of_once_path? isOnce }
  | width =>
      obtain ⟨width, isOnce, isNext⟩ := bind_eq_ok_iff.mp accepted
      cases isNext
      exact { valid with width_lt := lt_of_once_extent? isOnce }
  | height =>
      obtain ⟨height, isOnce, isNext⟩ := bind_eq_ok_iff.mp accepted
      cases isNext
      exact { valid with height_lt := lt_of_once_extent? isOnce }

theorem Given.Valid.readPaths
    {paths : List String}
    (valid : given.Valid)
    (accepted : readPaths given paths = .ok next) :
    next.Valid := by
  induction paths generalizing given with
  | nil =>
      cases accepted
      exact valid
  | cons path rest inductionHypothesis =>
      obtain ⟨set, isSet, accepted⟩ := bind_eq_ok_iff.mp accepted
      exact inductionHypothesis (valid.setScript isSet) accepted

theorem Given.Valid.readFrom
    {arguments : List String}
    (valid : given.Valid)
    (accepted : readFrom given arguments = .ok next) :
    next.Valid := by
  fun_induction CommandLine.readFrom given arguments with
  | case1 =>
      cases accepted
      exact valid
  | case2 given text rest path isScript inductionHypothesis =>
      obtain ⟨set, isSet, accepted⟩ := bind_eq_ok_iff.mp accepted
      exact inductionHypothesis set (valid.setScript isSet) accepted
  | case3 given text rest name value isOption inductionHypothesis =>
      obtain ⟨set, isSet, accepted⟩ := bind_eq_ok_iff.mp accepted
      exact inductionHypothesis set (valid.set isSet) accepted
  | case5 given text name isOption value rest behind inductionHypothesis =>
      obtain ⟨set, isSet, accepted⟩ := bind_eq_ok_iff.mp accepted
      exact inductionHypothesis set (valid.set isSet) accepted
  | case7 =>
      exact valid.readPaths accepted
  | case4 | case6 | case8 =>
      cases accepted

theorem getD_lt
    {side : Option Nat}
    {standard bound : Nat}
    (given_lt : ∀ given, side = some given → given < bound)
    (standard_lt : standard < bound) :
    side.getD standard < bound := by
  cases side with
  | none =>
      exact standard_lt
  | some given =>
      exact given_lt given rfl

/-- The options that a command line gives are valid. -/
theorem valid_of_read_eq_ok
    {arguments : List String}
    {options : Options}
    (accepted : Options.read arguments = .ok options) :
    options.Valid := by
  obtain ⟨given, isRead, accepted⟩ := bind_eq_ok_iff.mp accepted
  have nothing : Given.Valid {} := ⟨nofun, nofun, nofun, nofun⟩
  have valid := nothing.readFrom isRead
  split at accepted
  · cases accepted
  · rename_i script isScript
    cases accepted
    exact {
      script_ne :=
        fun empty => valid.script_ne (isScript.trans (congrArg some empty))
      out_ne := valid.out_ne
      inWords := ⟨getD_lt valid.width_lt (by decide),
        getD_lt valid.height_lt (by decide)⟩ }

end Accepted

/-- A command line gives options exactly if they are valid. -/
theorem exists_read_eq_ok_iff {options : Options} :
    (∃ arguments, Options.read arguments = .ok options) ↔ options.Valid := by
  constructor
  · rintro ⟨arguments, accepted⟩
    exact valid_of_read_eq_ok accepted
  · intro valid
    exact ⟨options.arguments, read_arguments valid⟩

end Storyboard.CommandLine
