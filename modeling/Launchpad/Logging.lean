import Launchpad.Error
import Launchpad.Json.Read
import Launchpad.Text.Digits
import Launchpad.Text.Lowercase
import Launchpad.Text.Pattern

/-!
# The log

The two formats of the log, the levels at which it can be kept, and the rule that it is set up once.
-/

namespace Launchpad

inductive LogFormat where
  | pretty
  | json
  deriving DecidableEq, Repr

namespace LogFormat

instance : Inhabited LogFormat := ⟨.pretty⟩

def name : LogFormat → String
  | .pretty => "pretty"
  | .json => "json"

/-- The format that a name stands for, in capital or small letters. -/
def ofName (name : String) : Except ConfigFault LogFormat :=
  let small := Text.lowerAscii name
  if small = "pretty" ∨ small = "text" then .ok .pretty
  else if small = "json" then .ok .json
  else .error (.unknownLogFormat small)

def toJson (f : LogFormat) : Json := .text f.name

def read : Json.Reader LogFormat := Json.readVariant [("pretty", .pretty), ("json", .json)]

end LogFormat

namespace Logging

/-- Why a directive for the log cannot be understood. -/
inductive DirectiveFault where
  | shape
  | level
  /-- The pattern for a field cannot be compiled. -/
  | field (fault : Text.Pattern.Fault)
  deriving DecidableEq, Repr

def DirectiveFault.message : DirectiveFault → String
  | .shape => "invalid filter directive"
  | .level =>
    "error parsing level filter: expected one of \"off\", \"error\", \"warn\", \"info\", " ++
      "\"debug\", \"trace\", or a number 0-5"
  | .field .part => "invalid field filter: error building NFA"
  | .field .wordEdge =>
    "invalid field filter: unsupported regex feature for DFAs: cannot build DFAs for regexes " ++
      "with Unicode word boundaries; switch to ASCII word boundaries, or heuristically enable " ++
      "Unicode word boundaries or use a different regex engine"

/-! ## Levels and fields -/

def levelNames : List String := ["off", "error", "warn", "info", "debug", "trace"]

/-- Whether a text is a number of a level: digits, maybe behind a plus sign, of a value up to
five. -/
def isLevelNumber (text : List Char) : Bool :=
  let digits := if text.head? = some '+' then text.tail else text
  (Text.numeral? 10 digits).any (· ≤ 5)

/-- Whether a text is a level: nothing, a name in capital or small letters, or a number. -/
def isLevel (text : List Char) : Bool :=
  text.isEmpty || levelNames.contains (Text.lowerAscii (String.ofList text)) || isLevelNumber text

/-- Whether a text is a number with a sign before it and a point and an exponent in it, all of which
may be left out, or one of the names for numbers that are none. -/
def isNumber (text : List Char) : Bool :=
  let unsigned (cs : List Char) : List Char :=
    if cs.head? = some '+' || cs.head? = some '-' then cs.tail else cs
  let body := unsigned text
  let whole := body.takeWhile Char.isDigit
  let rest := body.drop whole.length
  let point := rest.head? == some '.'
  let places := if point then rest.tail.takeWhile Char.isDigit else []
  let rest := rest.drop (if point then places.length + 1 else 0)
  let exponent := unsigned rest.tail
  let isExponent := (rest.head? == some 'e' || rest.head? == some 'E') && !exponent.isEmpty &&
    exponent.all Char.isDigit
  ["inf", "infinity", "nan"].contains (Text.lowerAscii (String.ofList body)) ||
    (!(whole ++ places).isEmpty && (rest.isEmpty || isExponent))

/-- Checks a field: a name, maybe with a value that is a number or a pattern. A second equals sign
ends the value. -/
def checkField (field : List Char) : Option DirectiveFault :=
  match field with
  | [] => some .shape
  | _ =>
    match (Text.splitOn (· == '=') field).tail.head? with
    | none => none
    | some value => if isNumber value then none else (Text.Pattern.fault? value).map .field

/-! ## Directives -/

/-- Where in a directive the reading stands. -/
inductive Stage where
  | begin
  /-- In a level by itself, or in a target. -/
  | target
  | span
  /-- In a field that begins at a position. -/
  | field (start : Nat)
  | afterFields
  | afterSpan
  /-- In a level that begins at a position. -/
  | level (start : Nat)
  deriving DecidableEq, Repr

def beginsDirective (c : Char) : Bool :=
  c == '-' || c == ':' || c == '_' || Text.isAlphanumeric c

def piece (text : List Char) (start stop : Nat) : List Char := (text.drop start).take (stop - start)

def Stage.step (directive : List Char) (i : Nat) (c : Char) : Stage → Except DirectiveFault Stage
  | .begin =>
    if c == '[' then .ok .span else if beginsDirective c then .ok .target else .error .shape
  | .target =>
    .ok (if c == '=' then .level (i + 1) else if c == '[' then .span else .target)
  | .span =>
    .ok (if c == ']' then .afterSpan else if c == '\x7b' then .field (i + 1) else .span)
  | .field start =>
    if c == '\x7d' then
      match checkField (piece directive start i) with
      | some fault => .error fault
      | none => .ok .afterFields
    else .ok (.field start)
  | .afterFields => if c == ']' then .ok .afterSpan else .error .shape
  | .afterSpan => if c == '=' then .ok (.level (i + 1)) else .error .shape
  | .level start => .ok (.level start)

def Stage.fault? (directive : List Char) : Stage → Option DirectiveFault
  | .target | .afterSpan => none
  | .level start => if isLevel (directive.drop start) then none else some .level
  | _ => some .shape

def scan (directive : List Char) : Nat → Stage → List Char → Option DirectiveFault
  | _, stage, [] => stage.fault? directive
  | i, stage, c :: cs =>
    match stage.step directive i c with
    | .ok stage => scan directive (i + 1) stage cs
    | .error fault => some fault

/-- Checks one directive: a level, a target, a target with a level, or a span in brackets, maybe
with fields, with or without them. White space around it is passed over, but positions count from
the first character behind it while fields and levels are cut from the directive as it stands: a
level has to be written without white space on either side of the directive. -/
def checkDirective (directive : List Char) : Option DirectiveFault :=
  scan directive 0 .begin (Text.trim directive)

def checkDirectives (level : String) : Option DirectiveFault :=
  let directives := (Text.splitOn (· == ',') level.toList).filter fun d => !d.isEmpty
  directives.findSome? checkDirective

def setUp (active : Option LogFormat) (level : String) (format : LogFormat) :
    Except ConfigFault LogFormat :=
  match checkDirectives level with
  | some fault => .error (.badLogLevel level fault.message)
  | none => if active.isSome then .error .loggingActive else .ok format

end Logging

end Launchpad
