import Launchpad.Text.Pattern.Escape

/-!
# Classes in brackets

A class lists characters, ranges and classes between brackets. Two of its parts may be joined by
`&&`, `--` or `~~`, which take in all that stands before them.
-/

namespace Launchpad.Text.Pattern

/-! ## Members -/

/-- The names of classes. -/
def classNames : List String :=
  ["alnum", "alpha", "ascii", "blank", "cntrl", "digit", "graph", "lower", "print", "punct",
    "space", "upper", "word", "xdigit"]

def namedClass? : List Char → Option (CharClass × List Char)
  | ':' :: cs =>
    let negated := cs.head? == some '^'
    let body := if negated then cs.tail else cs
    let name := body.takeWhile (· != ':')
    match body.drop name.length with
    | ':' :: ']' :: rest =>
      if classNames.contains (String.ofList name) then some (.named negated, rest) else none
    | _ => none
  | _ => none

/-- The character behind a hyphen that tells whether the hyphen stands in a range. In verbose mode
white space and one number sign are not seen. -/
def Mode.peek? (mode : Mode) (cs : List Char) : Option Char :=
  if mode.verbose then
    let cs := cs.dropWhile isBlank
    if cs.head? == some '#' then (cs.tail.dropWhile isBlank).head? else cs.head?
  else cs.head?

def classAtom? (mode : Mode) : List Char → Option (Atom × List Char)
  | '\\' :: cs => escape? mode cs
  | c :: cs => some (.literal { char := c }, cs)
  | [] => none

/-- Reads what is behind the first character of a range, from the hyphen on. -/
def range? (mode : Mode) (first : Literal) (cs : List Char) : Option (CharClass × List Char) :=
  match classAtom? mode (mode.skip cs) with
  | some (.literal last, cs) =>
    if first.char ≤ last.char then some (.range first last, cs) else none
  | _ => none

/-- Reads a member of a class: a character, a shorthand, or a range. A hyphen before a bracket that
closes or before another hyphen does not write a range. -/
def member? (mode : Mode) (cs : List Char) : Option (CharClass × List Char) := do
  let (a, cs) ← classAtom? mode cs
  let cs := mode.skip cs
  let next := mode.peek? cs.tail
  let isRange := cs.head? == some '-' && next != some ']' && next != some '-'
  match a with
  | .literal l => if isRange then range? mode l cs.tail else some (.literal l, cs)
  | .shorthand negated => if isRange then none else some (.shorthand negated, cs)
  | _ => none

/-! ## Brackets -/

/-- A class that is being read. -/
structure OpenClass where
  negated : Bool
  /-- Whether there have been no members but hyphens, which stand for themselves here. -/
  fresh : Bool := true
  /-- What stands before the last operator. -/
  left : Option CharClass := none
  /-- What stands behind it, the last member first. -/
  members : List CharClass := []

def OpenClass.begin (mode : Mode) (cs : List Char) : OpenClass × List Char :=
  match mode.skip cs with
  | '^' :: cs => ({ negated := true }, cs)
  | cs => ({ negated := false }, cs)

def OpenClass.push (o : OpenClass) (member : CharClass) : OpenClass :=
  { o with members := member :: o.members }

def OpenClass.body (o : OpenClass) : CharClass :=
  let right := .union o.members.reverse
  match o.left with
  | some left => .operation left right
  | none => right

def OpenClass.operator (o : OpenClass) : OpenClass := { o with left := some o.body, members := [] }

def OpenClass.close (o : OpenClass) : CharClass := .bracketed o.negated o.body

/-- Reads the rest of a class that stands in others, the innermost one first, with fuel for every
character. -/
def closeClass? (mode : Mode) :
    Nat → OpenClass → List OpenClass → List Char → Option (CharClass × List Char)
  | 0, _, _, _ => none
  | fuel + 1, o, outer, cs =>
    match mode.skip cs with
    | [] => none
    | c :: cs =>
      let literal := CharClass.literal { char := c }
      let begun : OpenClass := { o with fresh := false }
      if o.fresh && c == '-' then closeClass? mode fuel (o.push literal) outer cs
      else if o.fresh && c == ']' && o.members.isEmpty then
        closeClass? mode fuel (begun.push literal) outer cs
      else if c == '[' then
        match namedClass? cs with
        | some (named, cs) => closeClass? mode fuel (begun.push named) outer cs
        | none =>
          let (inner, cs) := OpenClass.begin mode cs
          closeClass? mode fuel inner (begun :: outer) cs
      else if c == ']' then
        match outer with
        | [] => some (o.close, cs)
        | parent :: outer => closeClass? mode fuel (parent.push o.close) outer cs
      else if (c == '&' || c == '-' || c == '~') && cs.head? == some c then
        closeClass? mode fuel begun.operator outer cs.tail
      else
        match member? mode (c :: cs) with
        | some (member, cs) => closeClass? mode fuel (begun.push member) outer cs
        | none => none

def class? (mode : Mode) (cs : List Char) : Option (CharClass × List Char) :=
  let (o, cs) := OpenClass.begin mode cs
  closeClass? mode (cs.length + 1) o [] cs

end Launchpad.Text.Pattern
