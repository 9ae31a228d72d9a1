import Launchpad.Text.Pattern.Bracket
import Launchpad.Text.Pattern.Opening

/-!
# Reading patterns

`read?` reads a whole pattern. The dialect has groups, alternatives, repetitions by `*`, `+` and
`?`, bracketed classes and escapes. It has no counted repetitions.
-/

namespace Launchpad.Text.Pattern

/-- Alternatives that are being read, the last one and its last part first. -/
structure Frame where
  choices : List Pattern := []
  parts : List Pattern := []

def Frame.push (f : Frame) (part : Pattern) : Frame := { f with parts := part :: f.parts }

def Frame.next (f : Frame) : Frame := { choices := .sequence f.parts.reverse :: f.choices }

def Frame.close (f : Frame) : Pattern := .choice f.next.choices.reverse

def Frame.repeat? (f : Frame) : Option Frame :=
  match f.parts with
  | [] => none
  | .change :: _ => none
  | part :: parts => some { f with parts := .repeated part :: parts }

/-- What is known where a pattern has been read up to. -/
structure State where
  mode : Mode := {}
  frame : Frame := {}
  /-- The groups that are open, the innermost one first, as what stands around them. -/
  outer : List (Mode × Frame) := []
  names : List (List Char) := []

def State.push (s : State) (part : Pattern) : State := { s with frame := s.frame.push part }

def State.enter (s : State) : Opening → Option State
  | .change mode => some { s.push .change with mode }
  | .group name mode =>
    if name.any s.names.contains then none
    else some { mode, outer := (s.mode, s.frame) :: s.outer, names := name.toList ++ s.names }

def State.leave (s : State) : Option State :=
  match s.outer with
  | [] => none
  | (mode, frame) :: outer =>
    some { s with mode, frame := frame.push (.group s.frame.close), outer }

def plainAtom (c : Char) : Atom :=
  if c == '.' then .any else if c == '^' || c == '$' then .edge else .literal { char := c }

def State.step (s : State) (c : Char) (cs : List Char) : Option (State × List Char) :=
  if c == '(' then do
    let (opening, cs) ← opening? s.mode cs
    return (← s.enter opening, cs)
  else if c == ')' then s.leave.map fun s => (s, cs)
  else if c == '|' then some ({ s with frame := s.frame.next }, cs)
  else if c == '[' then
    (class? s.mode cs).map fun r => (s.push (.characters s.mode r.1), r.2)
  else if c == '\\' then (escape? s.mode cs).map fun r => (s.push (.atom s.mode r.1), r.2)
  else if c == '*' || c == '+' || c == '?' then
    s.frame.repeat?.map fun frame =>
      ({ s with frame }, if cs.head? == some '?' then cs.tail else cs)
  else if c == '\x7b' then none
  else
    some (s.push (.atom s.mode (plainAtom c)), cs)

def State.finish? : Nat → State → List Char → Option Pattern
  | 0, _, _ => none
  | fuel + 1, s, cs =>
    match s.mode.skip cs with
    | [] => if s.outer.isEmpty then some s.frame.close else none
    | c :: cs => (s.step c cs).bind fun r => State.finish? fuel r.1 r.2

def read? (cs : List Char) : Option Pattern := State.finish? (cs.length + 1) {} cs

end Launchpad.Text.Pattern
