import Storyboard.Text.Width.Classes

namespace Storyboard.Text

/-!
# The width of a text

A text fills as many cells as its characters, most of which fill one, two or
none.  Some characters fill a different number beside others: a picture that is
asked for, a flag, pictures joined to one, and letters that are written as one
sign.  A text is therefore measured from its end, and what has been passed is
remembered as far as the characters before it depend on it.
-/

namespace Width

/-- How much of the tags that name a flag has been passed, from their end. -/
inductive TagRun where
  | letters (count : Nat)
  | digits (count : Nat)
deriving Repr, DecidableEq

/-- What stands behind a place in a text. -/
inductive Follower where
  /-- Nothing that a width depends on. -/
  | plain
  | lineFeed
  | modifier
  | flagLetter
  | flagLetters
  | picture
  /-- A joiner with a picture behind it. -/
  | joinedPicture
  | joinedKeycap
  | joinedFlagLetter
  /-- Two flag letters, or four, and so on. -/
  | joinedFlags
  /-- Three flag letters, or five, and so on. -/
  | joinedFlagsAndLetter
  | joinedTags (run : TagRun)
  | alef
  | lamed (joined : Bool)
  | ya (joined : Bool)
  | joinedVowelAndYa
  | tifinaghConsonant (joined : Bool)
  | joinerAndTifinaghConsonant
  | lowTone
  | orkhonI (joined : Bool)
  | subscribable
deriving Repr, DecidableEq

namespace Follower

/-- Whether marks may stand between a letter and what makes one sign with it. -/
def isPatient : Follower → Bool
  | lamed _ | ya _ | joinedVowelAndYa | tifinaghConsonant
      _ | joinerAndTifinaghConsonant
  | lowTone | orkhonI _ | subscribable => true
  | _ => false

/-- Whether a selector of a form leaves the memory as it is. -/
def outlivesSelectors (follower : Follower) : Bool :=
  follower = alef ∨ follower.isPatient

/--
Whether a picture before a selector of its form is joined to one behind it.
-/
def joinsPicture : Follower → Bool
  | joinedPicture | joinedKeycap => true
  | _ => false

/-- What stands behind a joiner before a letter. -/
def afterJoiner : Follower → Follower
  | lamed _ => lamed true
  | ya _ => ya true
  | tifinaghConsonant _ => tifinaghConsonant true
  | orkhonI _ => orkhonI true
  | other => other

end Follower

/--
What stands behind a place, and which form the character before it is asked to
have.
-/
structure Context where
  follower : Follower := .plain
  asPicture : Bool := false
  asText : Bool := false
deriving Repr, DecidableEq

namespace Context

/-- Nothing that a width depends on. -/
def plain : Context := {}

/-- The context without a wish for a picture. -/
def withoutPicture (context : Context) : Context :=
  if !context.asPicture then context
  else if context.follower.outlivesSelectors
    then { context with asPicture := false }
  else plain

/-- The context before a selector of the picture form. -/
def wantingPicture (context : Context) : Context :=
  if context.follower.outlivesSelectors ∨ context.follower.joinsPicture then
    { context with asPicture := true }
  else
    { asPicture := true }

/-- The context before a selector of the text form. -/
def wantingText (context : Context) : Context :=
  if context.follower.outlivesSelectors then
    { context with asText := true }
  else
    { asText := true }

end Context

/-- Whether a character asks for the picture form of the character before it. -/
def isPictureSelector (c : Char) : Bool :=
  c = '\ufe0f'

/-- Whether a character asks for the text form of the character before it. -/
def isTextSelector (c : Char) : Bool :=
  c = '\ufe0e'

/-- Whether a character joins the characters on both of its sides. -/
def isJoiner (c : Char) : Bool :=
  c = '\u200d'

/-- Whether a picture fills one cell where its text form is asked for. -/
def hasNarrowForm (c : Char) : Bool :=
  pictureForms.contains c && pictureSigns.contains c &&
    !(0x1F200 ≤ c.toNat && c.toNat ≤ 0x1F2FF)

/--
How many cells a character behind the first block of the code fills by itself.
-/
def rareWidth (c : Char) : Int × Context :=
  if isPictureSelector c then (0, { asPicture := true })
  else if isTextSelector c then (0, { asText := true })
  else if unseen.contains c then (0, .plain)
  else if modifiers.contains c then (2, { follower := .modifier })
  else if pictureSigns.contains c then (2, { follower := .picture })
  else if flagLetters.contains c then (1, { follower := .flagLetter })
  else if c = '\u17d8' then (3, .plain)
  else if doubled.contains c then (2, .plain)
  else if alefs.contains c then (1, { follower := .alef })
  else if c = '\u05dc' then (1, { follower := .lamed false })
  else if c = '\u1a10' then (1, { follower := .ya false })
  else if tifinaghConsonants.contains c
    then (1, { follower := .tifinaghConsonant false })
  else if c = '\ua4fc' ∨ c = '\ua4fd' then (1, { follower := .lowTone })
  else if c.toNat = 0x10C03 then (1, { follower := .orkhonI false })
  else if subscribable.contains c then (1, { follower := .subscribable })
  else (1, .plain)

/--
How many cells a character fills by itself, and what it is for the character
before it.
-/
def alone (c : Char) : Int × Context :=
  if c = '\n' then (1, { follower := .lineFeed })
  else if c.toNat < 0x300 ∧ c.toNat ≠ 0xAD then (1, .plain)
  else rareWidth c

/-- Whether a character without room leaves the letters around it together. -/
def isTransparent (c : Char) : Bool :=
  unseen.contains c && !partingMarks.contains c

/-- What a picture, a flag or a modifier adds before a joiner and a picture. -/
def beforeJoinedPicture (c : Char) : Option (Int × Follower) :=
  if c.toNat = 0x20E3 then some (0, .joinedKeycap)
  else if flagLetters.contains c then some (1, .joinedFlagLetter)
  else if modifiers.contains c then some (0, .modifier)
  else if c.toNat = 0xE007F then some (0, .joinedTags (.letters 0))
  else if pictureSigns.contains c then some (0, .picture)
  else none

/-- What a tag or the flag before the tags adds. -/
def beforeTags (c : Char) (run : TagRun) : Option (Int × Follower) :=
  if c.toNat = 0x1F3F4 then
    match run with
    | .letters count => if 3 ≤ count then some (0, .picture) else none
    | .digits count => if count = 3 then some (0, .picture) else none
  else if tagLetters.contains c then
    match run with
    | .letters count =>
        if count < 6 then some (0, .joinedTags (.letters (count + 1))) else none
    | .digits _ => none
  else if tagDigits.contains c then
    match run with
    | .letters count =>
        if count < 5 then some (0, .joinedTags (.digits 1)) else none
    | .digits count =>
        if count < 3 then some (0, .joinedTags (.digits (count + 1))) else none
  else
    none

/-- What a flag letter adds before other flag letters. -/
def beforeFlagLetters : Follower → Option (Int × Follower)
  | .flagLetter | .flagLetters => some (1, .flagLetters)
  | .joinedFlagLetter | .joinedFlagsAndLetter => some (-1, .joinedFlags)
  | .joinedFlags => some (3, .joinedFlagsAndLetter)
  | _ => none

/-- Whether a joiner ties what stands before it to what stands behind it. -/
def isTied : Follower → Bool
  | .picture | .flagLetters | .joinedFlags | .joinedFlagsAndLetter
  | .modifier => true
  | _ => false

/-- What a character adds that makes one sign with the letters behind it. -/
def beforeLetters (c : Char) : Follower → Option (Int × Follower)
  | .alef =>
      if lams.contains c then some (0, .plain)
      else if isTransparent c then some (0, .alef)
      else none
  | .lamed true => if c = '\u05d0' then some (0, .plain) else none
  | .subscribable => if c = '\u17d2' then some (-1, .plain) else none
  | .ya true => if c = '\u1a17' then some (0, .joinedVowelAndYa) else none
  | .joinedVowelAndYa => if c = '\u1a15' then some (0, .plain) else none
  | .tifinaghConsonant joined =>
      if c = '\u2d7f' then some (1, .joinerAndTifinaghConsonant)
      else if joined ∧ tifinaghConsonants.contains c then some (0, .plain)
      else none
  | .joinerAndTifinaghConsonant =>
      if tifinaghConsonants.contains c then some (-1, .plain) else none
  | .lowTone =>
      if 0xA4F8 ≤ c.toNat ∧ c.toNat ≤ 0xA4FB then some (0, .plain) else none
  | .orkhonI true => if c.toNat = 0x10C32 then some (0, .plain) else none
  | _ => none

/-- What a character adds before a follower that changes its width. -/
def together (c : Char) (follower : Follower) : Option (Int × Follower) :=
  if isJoiner c ∧ isTied follower then
    some (0, .joinedPicture)
  else
    match follower with
    | .joinedPicture => beforeJoinedPicture c
    | .joinedTags run => beforeTags c run
    | .modifier => if modifierBases.contains c then some (0, .picture) else none
    | follower =>
        if flagLetters.contains c then
          beforeFlagLetters follower
        else
          beforeLetters c follower

/--
What a character behind the first block of the code adds before a follower.
-/
def beforeFollower (c : Char) (follower : Follower) : Int × Context :=
  if follower.isPatient ∧ isJoiner c then
    (0, { follower := follower.afterJoiner })
  else if follower.isPatient ∧ transparentMarks.contains c then
    (0, { follower })
  else
    match together c follower with
    | some (cells, follower) => (cells, { follower })
    | none => alone c

/--
How many cells a character adds in a context, and the context of the character
before it.
-/
def before (c : Char) (context : Context) : Int × Context :=
  if context.asPicture ∧ pictureForms.contains c then
    (if context.follower.joinsPicture then 0 else 2, { follower := .picture })
  else
    let context := context.withoutPicture
    if c = '\r' ∧ context.follower = .lineFeed then (0, .plain)
    else if c.toNat ≤ 0xA0 ∨ context = .plain then alone c
    else if isPictureSelector c then (0, context.wantingPicture)
    else if isTextSelector c then (0, context.wantingText)
    else if context.asText ∧ hasNarrowForm c then (1, .plain)
    else beforeFollower c context.follower

end Width

/-- How many cells a text fills. -/
def width (text : List Char) : Nat :=
  let (cells, _) := text.foldr
    (fun c (cells, context) =>
      let (added, context) := Width.before c context
      (cells + added, context))
    ((0 : Int), Width.Context.plain)
  cells.toNat

end Storyboard.Text
