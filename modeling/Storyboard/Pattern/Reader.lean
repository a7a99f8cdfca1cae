import Storyboard.Pattern.Bracket
import Storyboard.Text.Letter

namespace Storyboard.Pattern

/-!
# Reading a pattern

Parts of a pattern stand beside one another, bars separate alternatives and
parentheses group.  What was begun before a group is kept on a stack until the
group is closed.  A repetition takes the part before it.  Patterns that are
nested too deeply are refused after all else was found right.
-/

/-- Parts beside one another, the last one first, and where they begin. -/
structure Parts where
  start : Position
  reversed : List Node := []

/-- The part that is made up of parts that end at a place. -/
def Parts.toNode (parts : Parts) (stop : Position) : Node :=
  match parts.reversed with
  | [] => .empty ⟨parts.start, stop⟩
  | [node] => node
  | reversed => .sequence ⟨parts.start, stop⟩ reversed.reverse

/-- Parts with another one behind them. -/
def Parts.push (parts : Parts) (node : Node) : Parts :=
  { parts with reversed := node :: parts.reversed }

/-- What a group does besides keeping parts together. -/
structure Opening where
  span : Span
  captures : Bool
  settings : Settings := []
deriving Repr

/-- What waits for the end of a group or of alternatives. -/
inductive Frame where
  /--
  A group that was opened, the parts before it, and whether these ignore blanks.
  -/
  | group (before : Parts) (opening : Opening) (ignoredBlanks : Bool)
  /-- Alternatives before the current one, the last one first. -/
  | alternatives (start : Position) (reversed : List Node)

/-- What begins with a parenthesis. -/
inductive Opened where
  | flags (span : Span) (settings : Settings)
  | group (opening : Opening)

/-- The names of groups, and where they stand. -/
abbrev Names := List (List Char × Span)

/-- A sign among flags. -/
inductive FlagSign where
  | negation
  | flag (flag : Flag)
deriving Repr, DecidableEq

/-- The flag of a letter. -/
def flag? : Char → Option Flag
  | 'i' => some .ignoreCase
  | 'm' => some .multiLine
  | 's' => some .dotMatchesNewline
  | 'U' => some .swapGreed
  | 'u' => some .unicode
  | 'R' => some .returnEndsLine
  | 'x' => some .ignoreBlanks
  | _ => none

/-- The flags of some signs: those behind a negation are switched off. -/
def settingsOf (switchedOn : Bool) : List FlagSign → Settings
  | [] => []
  | .negation :: rest => settingsOf false rest
  | .flag flag :: rest => (flag, switchedOn) :: settingsOf switchedOn rest

/-- Whether a character can stand in the name of a group. -/
def isNameChar (c : Char) : Bool :=
  c = '_' || c = '.' || c = '[' || c = ']' || Text.isLetterOrNumeral c

/-- Whether a character can begin the name of a group. -/
def isFirstNameChar (c : Char) : Bool :=
  c = '_' || Text.isLetter c

/-- The greatest count of a repetition. -/
def maxCount : Nat :=
  4294967295

/-- How deeply a pattern can be nested. -/
def maxDepth : Nat :=
  250

namespace Reading

/-- Read a sign among flags. -/
def flagSign (c : Char) : Reading FlagSign := do
  if c = '-' then
    return .negation
  else
    match flag? c with
    | some flag => return .flag flag
    | none => fail (← charSpan) .unknownFlag

/-- Refuse a sign among flags that was there before. -/
def refuseRepeated
    (sign : FlagSign)
    (earlier : List (FlagSign × Span)) : Reading Unit := do
  match earlier.find? (·.1 = sign), sign with
  | some (_, first), .negation => fail (← charSpan) (.repeatedNegation first)
  | some (_, first), .flag _ => fail (← charSpan) (.repeatedFlag first)
  | none, _ => return

/-- Read flags up to what ends them; the earlier ones are given in reverse. -/
def flagSigns : Nat → List (FlagSign × Span) → Reading Settings
  | 0, _ => failHere .unfinishedFlags
  | limit + 1, earlier => do
      match ← char? with
      | none => failHere .unfinishedFlags
      | some c =>
          if c = ':' ∨ c = ')' then
            match earlier with
            | (.negation, span) :: _ => fail span .danglingNegation
            | _ => return settingsOf true (earlier.reverse.map Prod.fst)
          else
            let sign ← flagSign c
            refuseRepeated sign earlier.reverse
            let span ← charSpan
            if !(← pass) then
              failHere .unfinishedFlags
            flagSigns limit ((sign, span) :: earlier)

/-- Read the name of a group up to behind its closing angle. -/
def groupName (names : Names) : Reading Names := do
  let start ← position
  match ← char? with
  | none => failHere .unfinishedName
  | some c =>
      if c ≠ '>' ∧ !isFirstNameChar c then
        fail (← charSpan) .nameCharacter
      let name ← collect isNameChar pass
      let stop ← position
      match ← char? with
      | none => failHere .unfinishedName
      | some c =>
          if c ≠ '>' then
            fail (← charSpan) .nameCharacter
          let _ ← pass
          if name.isEmpty then
            fail (.empty start) .emptyName
          match names.find? (·.1 = name) with
          | some (_, first) => fail ⟨start, stop⟩ (.repeatedName first)
          | none => return names ++ [(name, ⟨start, stop⟩)]

/--
Pass the first of several texts that comes next, and say whether one does.
-/
def passAny : List String → Reading Bool
  | [] => return false
  | text :: others => do
      let found ← passText text
      if found then
        return true
      else
        passAny others

/--
Read flags up to behind what ends them: flags alone, or the flags of a group.
-/
def flagsOrGroup (span : Span) (inside : Position) : Reading Opened := do
  if ← atEnd then
    fail span .unclosedGroup
  let before := (← get).position
  let settings ← flagSigns ((← get).rest.length + 1) []
  let stop ← position
  let alone := (← char?) = some ')'
  let _ ← pass
  if !alone then
    return .group { span, captures := false, settings }
  else if before = stop then
    fail (.empty inside) .nothingToRepeat
  else
    return .flags (← spanFrom span.start) settings

/-- Read what begins with a parenthesis up to where its content begins. -/
def opening (names : Names) : Reading (Opened × Names) := do
  let span ← charSpan
  let _ ← passBlanks
  let looksAround ← passAny ["?=", "?!", "?<=", "?<!"]
  if looksAround then
    fail (← spanFrom span.start) .lookAround
  let inside ← position
  let named ← passAny ["?P<", "?<"]
  if named then
    return (.group { span, captures := true }, ← groupName names)
  let flagged ← passText "?"
  if flagged then
    return (← flagsOrGroup span inside, names)
  return (.group { span, captures := true }, names)

/-- Take the part that a repetition is about from the end of parts. -/
def takeLast (parts : Parts) : Reading (Node × Parts) := do
  match parts.reversed with
  | [] | .flags .. :: _ | .empty _ :: _ => failHere .nothingToRepeat
  | node :: reversed => return (node, { parts with reversed })

/--
Pass the sign that makes a repetition take as little as possible, if it comes
next.
-/
def passReluctance : Reading Unit := do
  if (← char?) = some '?' then
    let _ ← pass

/-- Read a repetition of one sign. -/
def signedRepetition
    (parts : Parts)
    (least : Nat)
    (most : Option Nat) : Reading Parts := do
  let (node, parts) ← takeLast parts
  let _ ← pass
  passReluctance
  return parts.push (.repetition (← spanFrom node.span.start) least most node)

/--
Read a number of a count; without digits there is only the fault that this would
be.
-/
def countNumber : Reading (Except Fault Nat) := do
  let _ ← collect Text.isBlank pass
  let start ← position
  let digits ← collect Char.isDigit passBlanks
  let span ← spanFrom start
  let _ ← collect Text.isBlank passBlanks
  if digits.isEmpty then
    return .error ⟨span, .noCount⟩
  else
    let number :=
      digits.foldl (fun number digit => 10 * number + hexDigitValue digit) 0
    if maxCount < number then
      return .error ⟨span, .badNumber⟩
    else
      return .ok number

/--
Read the bounds of a count from behind its opening brace up to its closing one.
-/
def countBounds (brace : Position) : Reading (Nat × Option Nat) := do
  let first ← countNumber
  match ← char? with
  | none => fail (← spanFrom brace) .unclosedCount
  | some ',' =>
      if !(← passBlanks) then
        fail (← spanFrom brace) .unclosedCount
      if (← char?) = some '\x7d' then
        return (← liftM first, none)
      else
        let least ← liftM first
        let most ← countNumber
        return (least, some (← liftM most))
  | some _ =>
      let count ← liftM first
      return (count, some count)

/-- Read a repetition with a count in braces. -/
def countedRepetition (parts : Parts) : Reading Parts := do
  let brace ← position
  let (node, parts) ← takeLast parts
  if !(← passBlanks) then
    fail (← spanFrom brace) .unclosedCount
  let (least, most) ← countBounds brace
  if (← char?) ≠ some '\x7d' then
    fail (← spanFrom brace) .unclosedCount
  let _ ← passBlanks
  passReluctance
  if most.any (· < least) then
    fail (← spanFrom brace) .countOrder
  return parts.push (.repetition (← spanFrom node.span.start) least most node)

/-- Read a part that is not a group, a class or a repetition. -/
def single (c : Char) : Reading Node := do
  if c = '\\' then
    return (← escape).toNode
  else
    let span ← charSpan
    let _ ← pass
    match c with
    | '.' => return .anyChar span
    | '^' => return .assertion span .lineStart
    | '$' => return .assertion span .lineEnd
    | char => return .literal { span, char }

/-- The part that alternatives and the parts behind the last bar make up. -/
def closeAlternatives (frames : List Frame) (parts : Parts) (stop : Position) :
    Node × List Frame :=
  match frames with
  | .alternatives start reversed :: frames =>
      (.alternatives ⟨start, stop⟩
        (parts.toNode stop :: reversed).reverse, frames)
  | frames => (parts.toNode stop, frames)

/-- Pass a bar. -/
def bar
    (frames : List Frame)
    (parts : Parts) :
    Reading (List Frame × Parts) := do
  let stop ← position
  let node := parts.toNode stop
  let frames : List Frame :=
    match frames with
    | .alternatives start reversed :: frames =>
        .alternatives start (node :: reversed) :: frames
    | frames => .alternatives parts.start [node] :: frames
  let _ ← pass
  return (frames, { start := ← position })

/-- Pass the parenthesis that closes a group. -/
def closeGroup
    (frames : List Frame)
    (parts : Parts) :
    Reading (List Frame × Parts) := do
  match closeAlternatives frames parts (← position) with
  | (node, .group before opening ignoredBlanks :: frames) =>
      modify fun cursor => { cursor with ignoresBlanks := ignoredBlanks }
      let _ ← pass
      let span ← spanFrom opening.span.start
      return (frames, before.push
        (.group span opening.captures opening.settings node))
  | _ => fail (← charSpan) .unopenedGroup

/-- The whole pattern at its end, if no group is open. -/
def close (frames : List Frame) (parts : Parts) : Reading Node := do
  match closeAlternatives frames parts (← position) with
  | (node, []) => return node
  | (_, .group _ opening _ :: _) => fail opening.span .unclosedGroup
  | (_, .alternatives .. :: _) => failHere .unclosedGroup

/-- Pass a parenthesis that opens a group or holds flags. -/
def openGroup (names : Names) (frames : List Frame) (parts : Parts) :
    Reading (Names × List Frame × Parts) := do
  let (opened, names) ← opening names
  let ignoredBlanks := (← get).ignoresBlanks
  let switchBlanks (settings : Settings) : Reading Unit :=
    modify fun cursor =>
      { cursor with
        ignoresBlanks := (settings.find? .ignoreBlanks).getD ignoredBlanks }
  match opened with
  | .flags span settings =>
      switchBlanks settings
      return (names, frames, parts.push (.flags span settings))
  | .group opening =>
      switchBlanks opening.settings
      return (names, .group parts opening ignoredBlanks :: frames,
        { start := ← position })

/-- Read parts up to the end of a pattern; at most a number of them are left. -/
def parts : Nat → Names → List Frame → Parts → Reading Node
  | 0, _, frames, read => close frames read
  | limit + 1, names, frames, read => do
      skipBlanks
      match ← char? with
      | none => close frames read
      | some '(' =>
          let (names, frames, read) ← openGroup names frames read
          parts limit names frames read
      | some ')' =>
          let (frames, read) ← closeGroup frames read
          parts limit names frames read
      | some '|' =>
          let (frames, read) ← bar frames read
          parts limit names frames read
      | some '[' => parts limit names frames (read.push (← bracketed))
      | some '?' =>
          parts limit names frames (← signedRepetition read 0 (some 1))
      | some '*' => parts limit names frames (← signedRepetition read 0 none)
      | some '+' => parts limit names frames (← signedRepetition read 1 none)
      | some '\x7b' => parts limit names frames (← countedRepetition read)
      | some c => parts limit names frames (read.push (← single c))

end Reading

mutual

/-- The first part of a class that is nested too deeply. -/
def ClassNode.tooDeep? (left : Nat) : ClassNode → Option Span
  | .empty _ | .literal _ | .range .. | .named .. | .letter ..
  | .property .. => none
  | .bracketed span _ content =>
      match left with
      | 0 => some span
      | left + 1 => content.tooDeep? left
  | .union span items =>
      match left with
      | 0 => some span
      | left + 1 => ClassNode.anyTooDeep? left items
  | .combined span _ first second =>
      match left with
      | 0 => some span
      | left + 1 => (first.tooDeep? left).or (second.tooDeep? left)

/-- The first part of several classes that is nested too deeply. -/
def ClassNode.anyTooDeep? (left : Nat) : List ClassNode → Option Span
  | [] => none
  | item :: rest => (item.tooDeep? left).or (ClassNode.anyTooDeep? left rest)

end

mutual

/-- The first part of a pattern that is nested too deeply. -/
def Node.tooDeep? (left : Nat) : Node → Option Span
  | .empty _ | .flags .. | .literal _ | .anyChar _ | .assertion .. | .letter ..
  | .property .. => none
  | .bracketed span _ content =>
      match left with
      | 0 => some span
      | left + 1 => content.tooDeep? left
  | .repetition span _ _ node | .group span _ _ node =>
      match left with
      | 0 => some span
      | left + 1 => node.tooDeep? left
  | .alternatives span nodes | .sequence span nodes =>
      match left with
      | 0 => some span
      | left + 1 => Node.anyTooDeep? left nodes

/-- The first part of several patterns that is nested too deeply. -/
def Node.anyTooDeep? (left : Nat) : List Node → Option Span
  | [] => none
  | node :: rest => (node.tooDeep? left).or (Node.anyTooDeep? left rest)

end

/-- The tree of a pattern, or what is wrong with it. -/
def Node.read (pattern : String) : Except Fault Node := do
  let characters := pattern.toList
  let reading := Reading.parts (characters.length + 1) [] [] { start := {} }
  let (node, _) ← reading.run { rest := characters }
  match node.tooDeep? maxDepth with
  | some span => throw ⟨span, .tooDeep maxDepth⟩
  | none => return node

end Storyboard.Pattern
