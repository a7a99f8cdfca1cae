import Storyboard.Pattern

namespace Storyboard.Log

/-!
# Log filters

A filter says for every source of log records how grave a record must be to be
shown.  It is written as directives with commas between them, each a level, the
beginning of a source, or both with an equals sign, and optionally a pattern
after a slash that must occur in the message of every record.  The directive
with the longest beginning that fits decides; a later one with the same
beginning replaces an earlier one.
-/

/-- How grave a record is, gravest first. -/
inductive Level where
  | error
  | warn
  | info
  | debug
  | trace
deriving Repr, DecidableEq

namespace Level

/-- The rank of a level; the gravest is one. -/
def rank : Level → Nat
  | error => 1
  | warn => 2
  | info => 3
  | debug => 4
  | trace => 5

/-- The word for a level. -/
def word : Level → String
  | error => "ERROR"
  | warn => "WARN"
  | info => "INFO"
  | debug => "DEBUG"
  | trace => "TRACE"

end Level

/-- The rank of the least grave level that is shown; with zero none is. -/
abbrev Threshold := Nat

/-- The threshold that shows everything. -/
def showAll : Threshold :=
  Level.trace.rank

/-- The threshold that a word names, whatever the case of its ASCII letters. -/
def threshold? (word : List Char) : Option Threshold :=
  ["off", "error", "warn", "info", "debug", "trace"].findIdx? fun name =>
    name.toList = Text.lowered word

/-- A threshold for the sources that begin with a text, or for all sources. -/
structure Directive where
  source : Option (List Char)
  threshold : Threshold
deriving Repr, DecidableEq

/-- Which records are shown. -/
structure Filter where
  directives : List Directive
  /-- What must occur in a message. -/
  required : Option Pattern := none
deriving Repr

/-- One directive, or the part of it that is not understood. -/
def readDirective (text : List Char) : Except (List Char) Directive :=
  match Text.pieces (· = '=') text with
  | [only] =>
      match threshold? only with
      | some threshold => .ok ⟨none, threshold⟩
      | none => .ok ⟨some only, showAll⟩
  | [source, level] =>
      let level := Text.trimChars level
      if level.isEmpty then
        .ok ⟨some source, showAll⟩
      else
        match threshold? level with
        | some threshold => .ok ⟨some source, threshold⟩
        | none => .error level
  | _ => .error text

/-- Add a directive, in place of an earlier one for the same sources. -/
def addDirective (directive : Directive) : List Directive → List Directive
  | [] => [directive]
  | earlier :: rest =>
      if earlier.source = directive.source then
        directive :: rest
      else
        earlier :: addDirective directive rest

/-- The warning about something that is not understood. -/
def warning (remark : String) : String :=
  s!"warning: {remark}, ignoring it\n"

/-- The warning about a part of a filter that is not understood. -/
def partWarning (part : List Char) : String :=
  warning s!"invalid logging spec '{String.ofList part}'"

/-- The warning about the pattern of a filter. -/
def patternWarning (text : String) (problem : Pattern.Problem) : String :=
  warning s!"invalid regex filter - {problem.message text}"

/--
Directives with commas between them, and the warnings about those not
understood.
-/
def readDirectives (text : List Char) : List Directive × List String :=
  let parts := ((Text.pieces (· = ',') text).map Text.trimChars).filter (· ≠ [])
  parts.foldl
    (fun (directives, warnings) part =>
      match readDirective part with
      | .ok directive => (addDirective directive directives, warnings)
      | .error unknown => (directives, warnings ++ [partWarning unknown]))
    ([], [])

/-- The directives of a filter; without any, errors are shown. -/
def orErrors (directives : List Directive) : List Directive :=
  if directives.isEmpty then [⟨none, Level.error.rank⟩] else directives

/--
The pattern that is written behind the directives, and the warning if it cannot
be used.
-/
def readRequired (text : String) : Option Pattern × List String :=
  match Pattern.read text with
  | .ok pattern => (some pattern, [])
  | .error problem => (none, [patternWarning text problem])

/--
The filter that a text describes, and the warnings about what is not understood.
-/
def Filter.read (text : String) : Filter × List String :=
  match Text.pieces (· = '/') text.toList with
  | [] => (⟨orErrors [], none⟩, [])
  | [directives] =>
      let (known, warnings) := readDirectives directives
      (⟨orErrors known, none⟩, warnings)
  | [directives, required] =>
      let (known, warnings) := readDirectives directives
      let (pattern, remarks) := readRequired (.ofList required)
      (⟨orErrors known, pattern⟩, warnings ++ remarks)
  | _ => (⟨orErrors [], none⟩,
      [warning s!"invalid logging spec '{text}' (too many '/'s)"])

/-- The beginning that the sources of a directive share. -/
def Directive.beginning (directive : Directive) : List Char :=
  directive.source.getD []

/--
The later of two directives unless the earlier one has the longer beginning.
-/
def closer
    (held : Option Directive)
    (directive : Directive) : Option Directive :=
  match held with
  | none => some directive
  | some earlier =>
      if earlier.beginning.length ≤ directive.beginning.length then
        some directive
      else
        held

/--
The threshold of the directive with the longest beginning that fits, the later
of two.
-/
def thresholdFor
    (source : List Char)
    (directives : List Directive) : Threshold :=
  let fitting :=
    directives.filter fun directive => directive.beginning.isPrefixOf source
  ((fitting.foldl closer none).map Directive.threshold).getD 0

/-- A line of the log before it is written. -/
structure Record where
  level : Level
  source : String
  message : String
deriving Repr, DecidableEq

/-- Whether a filter shows a record. -/
def Filter.shows (filter : Filter) (record : Record) : Bool :=
  decide
    (record.level.rank ≤ thresholdFor record.source.toList filter.directives) &&
    filter.required.all fun pattern => pattern.occursIn record.message

/--
The text of the filter that applies.

One that is asked for comes before that of the environment; with neither,
warnings and errors are shown.
-/
def effectiveFilter (requested environment : Option String) : String :=
  (requested.or environment).getD "warn"

end Storyboard.Log
