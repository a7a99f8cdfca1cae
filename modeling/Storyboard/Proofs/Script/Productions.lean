import Storyboard.Proofs.Script.Slots
import Storyboard.Proofs.Text.Words

namespace Storyboard.Script

/-!
# The productions of the grammar

A line asks for nothing, asks for a command, or has a problem.  Each of the
three is said here of the words of the line, without a reader: the productions
give the words of every command in their order, and the problems are those of
the first word and of the leftmost place where the other words go wrong.  The
main statement is that reading a line decides which of the three holds.
-/

/-- The words of a text. -/
def wordsOf (text : String) : List String :=
  (Text.words text.toList).map .ofList

/--
Nothing is left of a line when it is trimmed, or a number sign stands first.
-/
def AsksNothing (text : String) : Prop :=
  Text.trimChars text.toList = [] ∨
    (Text.trimChars text.toList).head? = some '#'

/-- A line is made by the production of a command. -/
inductive Asks (text : String) : Command → Prop where
  | shape
      {keyword name kindWord xWord yWord firstWord secondWord
        redWord greenWord blueWord : String}
      {kind : Kind}
      {x y first second red green blue : Float}
      (words :
        wordsOf text =
          [keyword, name, kindWord, xWord, yWord, firstWord, secondWord,
            redWord, greenWord, blueWord])
      (isKeyword : Spells keyword "shape")
      (isKind : Spells kindWord kind.word)
      (isX : IsNumber xWord x)
      (isY : IsNumber yWord y)
      (isFirst : IsNumber firstWord first)
      (isSecond : IsNumber secondWord second)
      (isRed : IsNumber redWord red)
      (isGreen : IsNumber greenWord green)
      (isBlue : IsNumber blueWord blue) :
      Asks text (.shape name kind ⟨x, y⟩ first second red green blue)
  | move
      {keyword name xWord yWord : String}
      {x y : Float}
      (words : wordsOf text = [keyword, name, xWord, yWord])
      (isKeyword : Spells keyword "move")
      (isX : IsNumber xWord x)
      (isY : IsNumber yWord y) :
      Asks text (.move name ⟨x, y⟩)
  | color
      {keyword name redWord greenWord blueWord : String}
      {red green blue : Float}
      (words : wordsOf text = [keyword, name, redWord, greenWord, blueWord])
      (isKeyword : Spells keyword "color")
      (isRed : IsNumber redWord red)
      (isGreen : IsNumber greenWord green)
      (isBlue : IsNumber blueWord blue) :
      Asks text (.color name red green blue)
  | resize
      {keyword name firstWord secondWord : String}
      {first second : Float}
      (words : wordsOf text = [keyword, name, firstWord, secondWord])
      (isKeyword : Spells keyword "resize")
      (isFirst : IsNumber firstWord first)
      (isSecond : IsNumber secondWord second) :
      Asks text (.resize name first second)
  | remove
      {keyword name : String}
      (words : wordsOf text = [keyword, name])
      (isKeyword : Spells keyword "remove") :
      Asks text (.remove name)
  | snapshot
      {keyword : String}
      {arguments : List String}
      {behind : List Char}
      (words : wordsOf text = keyword :: arguments)
      (isKeyword : Spells keyword "snapshot")
      (line : Text.trimChars text.toList = keyword.toList ++ behind) :
      Asks text (.snapshot (.ofList (Text.trimChars behind)))
  | clear
      {keyword : String}
      (words : wordsOf text = [keyword])
      (isKeyword : Spells keyword "clear") :
      Asks text (.clear .snapshots)
  | clearTarget
      {keyword targetWord : String}
      {target : Target}
      (words : wordsOf text = [keyword, targetWord])
      (isKeyword : Spells keyword "clear")
      (isTarget : Spells targetWord target.word) :
      Asks text (.clear target)

/-- A line fails for a problem with its first word or behind it. -/
inductive Fails (text : String) : Problem → Prop where
  | unknownCommand
      {word : String}
      {arguments : List String}
      (asksSomething : ¬AsksNothing text)
      (words : wordsOf text = word :: arguments)
      (unknown : ∀ keyword : Keyword, ¬Spells word keyword.word) :
      Fails text (.unknownCommand word)
  | arguments
      {word : String}
      {arguments : List String}
      {form : Form}
      {problem : Problem}
      (words : wordsOf text = word :: arguments)
      (isKeyword : Spells word (Keyword.form form).word)
      (leftmost :
        LeftmostOffence (.form form) form.slots arguments problem) :
      Fails text problem
  | unknownTarget
      {word targetWord : String}
      {rest : List String}
      (words : wordsOf text = word :: targetWord :: rest)
      (isKeyword : Spells word "clear")
      (unknown : ∀ target : Target, ¬Spells targetWord target.word) :
      Fails text (.unknownTarget targetWord)
  | leftOver
      {word targetWord extra : String}
      {rest : List String}
      {target : Target}
      (words : wordsOf text = word :: targetWord :: extra :: rest)
      (isKeyword : Spells word "clear")
      (isTarget : Spells targetWord target.word) :
      Fails text (.unexpectedArgument .clear extra)

section FirstWord

variable
  {text word : String}
  {arguments : List String}

/--
The first word of a line has a first letter, which is that of the trimmed line.
-/
theorem trimChars_eq_append_of_wordsOf_eq_cons
    (words : wordsOf text = word :: arguments) :
    ∃ first letters behind,
      word.toList = first :: letters ∧
        Text.trimChars text.toList = word.toList ++ behind := by
  obtain ⟨letters, others, hasWords, rfl, -⟩ := List.map_eq_cons_iff.mp words
  obtain ⟨first, rest, behind, isWord, line⟩ :=
    Text.trimChars_eq_append_of_words_eq_cons hasWords
  exact ⟨first, rest, behind, by simpa using isWord, by simpa using line⟩

/--
A line that begins with a keyword asks for something or fails: no keyword begins
with a number sign.
-/
theorem not_asksNothing_of_spells
    (words : wordsOf text = word :: arguments)
    {keyword : Keyword}
    (isKeyword : Spells word keyword.word) :
    ¬AsksNothing text := by
  obtain ⟨first, letters, behind, isWord, line⟩ :=
    trimChars_eq_append_of_wordsOf_eq_cons words
  rw [isWord] at line
  rintro (isEmpty | isComment)
  · rw [isEmpty] at line
    cases line
  · rw [line, List.cons_append, List.head?_cons, Option.some.injEq] at isComment
    subst isComment
    rw [Spells, isWord, Text.lowered, List.map_cons] at isKeyword
    have sameFirst := congrArg List.head? isKeyword
    rw [List.head?_cons] at sameFirst
    revert sameFirst
    rcases keyword with ⟨_ | _⟩ | _ | _ <;> decide

/-- A line that asks for nothing is read as such. -/
theorem readLine_of_asksNothing (nothing : AsksNothing text) :
    readLine text = .ok none := by
  simp only [readLine, Text.words_trimChars]
  cases hasWords : Text.words text.toList with
  | nil =>
      rfl
  | cons first others =>
      obtain ⟨letter, letters, behind, rfl, line⟩ :=
        Text.trimChars_eq_append_of_words_eq_cons hasWords
      rw [AsksNothing, line] at nothing
      have isComment : letter = '#' := by simpa using nothing
      simp [isComment]

/-- Any other line has a first word, by which its command is read. -/
theorem readLine_eq_of_not_asksNothing (asksSomething : ¬AsksNothing text) :
    ∃ word arguments,
      wordsOf text = word :: arguments ∧
        readLine text =
          (readCommand (Text.trimChars text.toList) word.toList arguments).map
            some := by
  cases hasWords : Text.words text.toList with
  | nil =>
      exact absurd (.inl ((Text.trimChars_eq_nil_iff _).mpr hasWords))
        asksSomething
  | cons first others =>
      obtain ⟨letter, letters, behind, rfl, line⟩ :=
        Text.trimChars_eq_append_of_words_eq_cons hasWords
      have notComment : letter ≠ '#' := by
        rintro rfl
        exact asksSomething (.inr (by rw [line]; rfl))
      refine ⟨.ofList (letter :: letters), others.map .ofList,
        by rw [wordsOf, hasWords, List.map_cons], ?_⟩
      simp only [readLine, Text.words_trimChars, hasWords]
      simp [notComment]

/-- The first word and those behind it decide how a line is read. -/
theorem readLine_of_spells
    (words : wordsOf text = word :: arguments)
    {keyword : Keyword}
    (isKeyword : Spells word keyword.word) :
    readLine text =
      (readCommand (Text.trimChars text.toList) word.toList arguments).map
        some := by
  obtain ⟨first, others, hasWords, result⟩ :=
    readLine_eq_of_not_asksNothing (not_asksNothing_of_spells words isKeyword)
  rw [words] at hasWords
  cases hasWords
  exact result

end FirstWord

section Target

variable {arguments : List String}

/-- Without a word a clear empties the archive, with one what the word says. -/
theorem readTarget_eq_ok_iff {target : Target} :
    readTarget arguments = .ok target ↔
      (arguments = [] ∧ target = .snapshots) ∨
        ∃ word, arguments = [word] ∧ Spells word target.word := by
  cases arguments with
  | nil =>
      simp [readTarget, eq_comm]
  | cons word rest =>
      simp only [← Target.ofWord?_eq_some_iff]
      cases found : Target.ofWord? word <;> cases rest <;>
        simp [readTarget, found]

theorem readTarget_eq_error_iff {problem : Problem} :
    readTarget arguments = .error problem ↔
      (∃ word rest,
        arguments = word :: rest ∧
          (∀ target : Target, ¬Spells word target.word) ∧
          problem = .unknownTarget word) ∨
        ∃ word extra rest, ∃ target : Target,
          arguments = word :: extra :: rest ∧ Spells word target.word ∧
            problem = .unexpectedArgument .clear extra := by
  cases arguments with
  | nil =>
      simp [readTarget]
  | cons word rest =>
      simp only [← Target.ofWord?_eq_some_iff]
      cases found : Target.ofWord? word <;> cases rest <;>
        simp [readTarget, found, eq_comm]

end Target

section Commands

variable
  {text word : String}
  {arguments : List String}

/--
The keyword that a word spells decides what is done with the words behind it.
-/
theorem readCommand_of_spells
    (line : List Char)
    {keyword : Keyword}
    (isKeyword : Spells word keyword.word) :
    readCommand line word.toList arguments =
      match keyword with
      | .form form =>
          (fill (.form form) form.slots arguments).map form.command
      | .snapshot => .ok (.snapshot (description word.toList.length line))
      | .clear => (readTarget arguments).map .clear := by
  rw [readCommand, (Keyword.ofWord?_eq_some_iff _ _).mpr isKeyword]
  rcases keyword with _ | _ | _ <;> rfl

/-- Words that fill the slots of a form make its command by a production. -/
theorem asks_of_filled
    (words : wordsOf text = word :: arguments)
    (form : Form)
    (isKeyword : Spells word (Keyword.form form).word)
    {values : Values form.slots}
    (filled : Filled form.slots arguments values) :
    Asks text (form.command values) := by
  cases form with
  | shape =>
      obtain ⟨name, kind, x, y, first, second, red, green, blue, ⟨⟩⟩ := values
      obtain ⟨_, _, rfl, rfl, _, _, rfl, isKind, _, _, rfl, isX, _, _, rfl, isY,
        _, _, rfl, isFirst, _, _, rfl, isSecond, _, _, rfl, isRed,
        _, _, rfl, isGreen, _, _, rfl, isBlue, rfl⟩ := filled
      exact .shape words isKeyword isKind isX isY isFirst isSecond
        isRed isGreen isBlue
  | move =>
      obtain ⟨name, x, y, ⟨⟩⟩ := values
      obtain ⟨_, _, rfl, rfl, _, _, rfl, isX, _, _, rfl, isY, rfl⟩ := filled
      exact .move words isKeyword isX isY
  | color =>
      obtain ⟨name, red, green, blue, ⟨⟩⟩ := values
      obtain ⟨_, _, rfl, rfl, _, _, rfl, isRed, _, _, rfl, isGreen,
        _, _, rfl, isBlue, rfl⟩ := filled
      exact .color words isKeyword isRed isGreen isBlue
  | resize =>
      obtain ⟨name, first, second, ⟨⟩⟩ := values
      obtain ⟨_, _, rfl, rfl, _, _, rfl, isFirst, _, _, rfl, isSecond, rfl⟩ :=
        filled
      exact .resize words isKeyword isFirst isSecond
  | remove =>
      obtain ⟨name, ⟨⟩⟩ := values
      obtain ⟨_, _, rfl, rfl, rfl⟩ := filled
      exact .remove words isKeyword

/-- What is read from the words of a line is asked for by a production. -/
theorem asks_of_readCommand
    (words : wordsOf text = word :: arguments)
    {command : Command}
    (accepted :
      readCommand (Text.trimChars text.toList) word.toList arguments =
        .ok command) :
    Asks text command := by
  cases found : Keyword.ofWord? word.toList with
  | none =>
      rw [readCommand, found] at accepted
      cases accepted
  | some keyword =>
      have isKeyword : Spells word keyword.word :=
        (Keyword.ofWord?_eq_some_iff _ _).mp found
      rw [readCommand_of_spells _ isKeyword] at accepted
      cases keyword with
      | form form =>
          obtain ⟨values, filled, rfl⟩ := map_eq_ok_iff.mp accepted
          exact asks_of_filled words form isKeyword (fill_eq_ok_iff.mp filled)
      | snapshot =>
          obtain ⟨_, _, behind, -, line⟩ :=
            trimChars_eq_append_of_wordsOf_eq_cons words
          rw [line, description, List.drop_left] at accepted
          cases accepted
          exact .snapshot words isKeyword line
      | clear =>
          obtain ⟨target, isRead, rfl⟩ := map_eq_ok_iff.mp accepted
          obtain ⟨rfl, rfl⟩ | ⟨targetWord, rfl, isTarget⟩ :=
            readTarget_eq_ok_iff.mp isRead
          · exact .clear words isKeyword
          · exact .clearTarget words isKeyword isTarget

/--
A line that begins with the keyword of a form is read by filling its slots.
-/
theorem readLine_of_form
    (words : wordsOf text = word :: arguments)
    {form : Form}
    (isKeyword : Spells word (Keyword.form form).word) :
    readLine text =
      ((fill (.form form) form.slots arguments).map form.command).map some := by
  rw [readLine_of_spells words isKeyword, readCommand_of_spells _ isKeyword]

theorem readLine_of_clear
    (words : wordsOf text = word :: arguments)
    (isKeyword : Spells word Keyword.clear.word) :
    readLine text = ((readTarget arguments).map .clear).map some := by
  rw [readLine_of_spells words isKeyword, readCommand_of_spells _ isKeyword]

/-- Words that fill the slots of a form are read as its command. -/
theorem readLine_of_filled
    (form : Form)
    {values : Values form.slots}
    (words : wordsOf text = word :: arguments)
    (isKeyword : Spells word (Keyword.form form).word)
    (filled : Filled form.slots arguments values) :
    readLine text = .ok (some (form.command values)) := by
  rw [readLine_of_form words isKeyword, fill_eq_ok_iff.mpr filled]
  rfl

/-- What a production asks for is read. -/
theorem readLine_of_asks
    {command : Command}
    (asks : Asks text command) :
    readLine text = .ok (some command) := by
  cases asks with
  | shape words isKeyword isKind isX isY isFirst isSecond isRed
      isGreen isBlue =>
      exact readLine_of_filled .shape words isKeyword <|
        .cons rfl <| .cons isKind <| .cons isX <| .cons isY <|
          .cons isFirst <| .cons isSecond <|
            .cons isRed <| .cons isGreen <| .cons isBlue .nil
  | move words isKeyword isX isY =>
      exact readLine_of_filled .move words isKeyword <|
        .cons rfl <| .cons isX <| .cons isY .nil
  | color words isKeyword isRed isGreen isBlue =>
      exact readLine_of_filled .color words isKeyword <|
        .cons rfl <| .cons isRed <| .cons isGreen <| .cons isBlue .nil
  | resize words isKeyword isFirst isSecond =>
      exact readLine_of_filled .resize words isKeyword <|
        .cons rfl <| .cons isFirst <| .cons isSecond .nil
  | remove words isKeyword =>
      exact readLine_of_filled .remove words isKeyword <| .cons rfl .nil
  | snapshot words isKeyword line =>
      have isSnapshot : Spells _ Keyword.snapshot.word := isKeyword
      rw [readLine_of_spells words isSnapshot,
        readCommand_of_spells _ isSnapshot, line]
      simp [description, Except.map]
  | clear words isKeyword =>
      rw [readLine_of_clear words isKeyword,
        readTarget_eq_ok_iff.mpr (.inl ⟨rfl, rfl⟩)]
      rfl
  | clearTarget words isKeyword isTarget =>
      rw [readLine_of_clear words isKeyword,
        readTarget_eq_ok_iff.mpr (.inr ⟨_, rfl, isTarget⟩)]
      rfl

/-- What goes wrong with the words of a line is one of its problems. -/
theorem fails_of_readCommand
    (asksSomething : ¬AsksNothing text)
    (words : wordsOf text = word :: arguments)
    {problem : Problem}
    (failed :
      readCommand (Text.trimChars text.toList) word.toList arguments =
        .error problem) :
    Fails text problem := by
  cases found : Keyword.ofWord? word.toList with
  | none =>
      rw [readCommand, found] at failed
      dsimp only at failed
      rw [String.ofList_toList] at failed
      cases failed
      refine .unknownCommand asksSomething words fun keyword isKeyword => ?_
      rw [Spells, ← Keyword.ofWord?_eq_some_iff, found] at isKeyword
      cases isKeyword
  | some keyword =>
      have isKeyword : Spells word keyword.word :=
        (Keyword.ofWord?_eq_some_iff _ _).mp found
      rw [readCommand_of_spells _ isKeyword] at failed
      cases keyword with
      | form form =>
          exact .arguments words isKeyword
            (fill_eq_error_iff.mp (map_eq_error_iff.mp failed))
      | snapshot =>
          cases failed
      | clear =>
          obtain ⟨_, _, rfl, unknown, rfl⟩ | ⟨_, _, _, _, rfl, isTarget, rfl⟩ :=
            readTarget_eq_error_iff.mp (map_eq_error_iff.mp failed)
          · exact .unknownTarget words isKeyword unknown
          · exact .leftOver words isKeyword isTarget

/-- The problems of a line make reading it fail. -/
theorem readLine_of_fails
    {problem : Problem}
    (fails : Fails text problem) :
    readLine text = .error problem := by
  cases fails with
  | @unknownCommand word arguments asksSomething words unknown =>
      obtain ⟨first, others, hasWords, result⟩ :=
        readLine_eq_of_not_asksNothing asksSomething
      rw [words] at hasWords
      cases hasWords
      have notKeyword : Keyword.ofWord? word.toList = none := by
        simp only [Option.eq_none_iff_forall_ne_some, ne_eq,
          Keyword.ofWord?_eq_some_iff]
        exact unknown
      rw [result, readCommand, notKeyword]
      simp [Except.map]
  | arguments words isKeyword leftmost =>
      rw [readLine_of_form words isKeyword, fill_eq_error_iff.mpr leftmost]
      rfl
  | unknownTarget words isKeyword unknown =>
      rw [readLine_of_clear words isKeyword,
        readTarget_eq_error_iff.mpr (.inl ⟨_, _, rfl, unknown, rfl⟩)]
      rfl
  | leftOver words isKeyword isTarget =>
      rw [readLine_of_clear words isKeyword,
        readTarget_eq_error_iff.mpr (.inr ⟨_, _, _, _, rfl, isTarget, rfl⟩)]
      rfl

end Commands

section Trichotomy

variable (text : String)

/-- A line is read as one without a command exactly if it asks for nothing. -/
theorem readLine_eq_ok_none_iff :
    readLine text = .ok none ↔ AsksNothing text := by
  constructor
  · intro isRead
    by_contra asksSomething
    obtain ⟨word, arguments, -, result⟩ :=
      readLine_eq_of_not_asksNothing asksSomething
    rw [result, map_eq_ok_iff] at isRead
    obtain ⟨command, -, impossible⟩ := isRead
    cases impossible
  · exact readLine_of_asksNothing

/-- A line is read as a command exactly if a production asks for it. -/
theorem readLine_eq_ok_some_iff (command : Command) :
    readLine text = .ok (some command) ↔ Asks text command := by
  constructor
  · intro isRead
    have asksSomething : ¬AsksNothing text := by
      rw [← readLine_eq_ok_none_iff, isRead]
      nofun
    obtain ⟨word, arguments, words, result⟩ :=
      readLine_eq_of_not_asksNothing asksSomething
    rw [result, map_eq_ok_iff] at isRead
    obtain ⟨_, accepted, same⟩ := isRead
    cases same
    exact asks_of_readCommand words accepted
  · exact readLine_of_asks

/-- Reading a line fails exactly for the problems that it has. -/
theorem readLine_eq_error_iff (problem : Problem) :
    readLine text = .error problem ↔ Fails text problem := by
  constructor
  · intro failed
    have asksSomething : ¬AsksNothing text := by
      rw [← readLine_eq_ok_none_iff, failed]
      nofun
    obtain ⟨word, arguments, words, result⟩ :=
      readLine_eq_of_not_asksNothing asksSomething
    rw [result, map_eq_error_iff] at failed
    exact fails_of_readCommand asksSomething words failed
  · exact readLine_of_fails

end Trichotomy

/--
A line without a command is read as such exactly if nothing is left of it or it
starts with a number sign; a command is read exactly if a production asks for it
with these values; and a fault is reported exactly if it is in this line and its
problem is the one with the first word or the leftmost one behind it.
-/
theorem SourceLine.read_eq_iff (line : SourceLine) :
    (line.read = .ok none ↔ AsksNothing line.text) ∧
      (∀ command,
        line.read = .ok (some command) ↔ Asks line.text command) ∧
      ∀ fault,
        line.read = .error fault ↔
          fault.line = line ∧ Fails line.text fault.problem := by
  simp only [← readLine_eq_ok_none_iff, ← readLine_eq_ok_some_iff,
    ← readLine_eq_error_iff]
  unfold SourceLine.read
  cases readLine line.text with
  | ok asked =>
      simp
  | error problem =>
      refine ⟨by simp, by simp, fun fault => ?_⟩
      obtain ⟨place, reported⟩ := fault
      simp [eq_comm]

/-- A word that is no number is reported before the word too many behind it. -/
example :
    SourceLine.read ⟨7, "  MOVE ghost 1 ten 3"⟩ =
      .error ⟨⟨7, "  MOVE ghost 1 ten 3"⟩, .invalidNumber .y "ten"⟩ := by
  decide +kernel

end Storyboard.Script
