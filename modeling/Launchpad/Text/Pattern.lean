import Launchpad.Text.Pattern.Read

/-!
# Patterns that can be compiled

A pattern is compiled into a machine that reads bytes. Its tables know the classes of ASCII alone:
where a pattern is about characters, it can have neither shorthands nor letters of both cases, and
where it is about bytes, it must match nothing but text. The machine has no memory of the character
before, so the edges of words can be found among ASCII characters alone.
-/

namespace Launchpad.Text

namespace Pattern

/-! ## Parts -/

def Literal.compiles (l : Literal) (mode : Mode) : Bool :=
  if mode.unicode then !mode.caseless else !l.isByte || l.char.toNat < 0x80

def Atom.compiles (mode : Mode) : Atom → Bool
  | .literal l => l.compiles mode
  | .shorthand negated => !mode.unicode && !negated
  | .any => mode.unicode
  | .edge | .wordEdge => true

def Literal.compilesInClass (l : Literal) (mode : Mode) : Bool :=
  if mode.unicode then !mode.caseless else l.char.toNat < 0x80

mutual

def CharClass.compiles (mode : Mode) : CharClass → Bool
  | .literal l => l.compilesInClass mode
  | .range first last => first.compilesInClass mode && last.compilesInClass mode
  | .shorthand negated => !mode.unicode && !negated
  | .named negated => if mode.unicode then !mode.caseless else !negated
  | .bracketed negated c => (mode.unicode || !negated) && c.compiles mode
  | .union cs => CharClass.allCompile mode cs
  | .operation c d => c.compiles mode && d.compiles mode

def CharClass.allCompile (mode : Mode) : List CharClass → Bool
  | [] => true
  | c :: cs => c.compiles mode && CharClass.allCompile mode cs

end

/-! ## Whole patterns -/

mutual

def compiles : Pattern → Bool
  | .atom mode a => a.compiles mode
  | .characters mode c => c.compiles mode
  | .change => true
  | .repeated p | .group p => p.compiles
  | .sequence ps | .choice ps => allCompile ps

def allCompile : List Pattern → Bool
  | [] => true
  | p :: ps => p.compiles && allCompile ps

end

mutual

def findsWords : Pattern → Bool
  | .atom mode a => mode.unicode && a == .wordEdge
  | .characters _ _ | .change => false
  | .repeated p | .group p => p.findsWords
  | .sequence ps | .choice ps => anyFindsWords ps

/-- Whether one of some patterns looks for the edge of a word beyond ASCII. -/
def anyFindsWords : List Pattern → Bool
  | [] => false
  | p :: ps => p.findsWords || anyFindsWords ps

end

def mostNested : Nat := 250

/-- Why a text is no pattern that can be compiled. -/
inductive Fault where
  /-- It cannot be read, or one of its parts cannot be compiled. -/
  | part
  /-- It looks for the edge of a word beyond ASCII. -/
  | wordEdge
  deriving DecidableEq, Repr

def fault? (cs : List Char) : Option Fault :=
  match read? cs with
  | none => some .part
  | some p =>
    if mostNested < p.depth || !p.compiles then some .part
    else if p.findsWords then some .wordEdge
    else none

end Pattern

end Launchpad.Text
