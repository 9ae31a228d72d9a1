/-!
# Patterns

A pattern matches texts. It is built from characters, classes of characters and places, by writing
patterns one after the other, by alternatives, by repetition and by groups. A mode says how the
parts of a pattern are meant, and every part knows its own.
-/

namespace Launchpad.Text

namespace Pattern

/-- How a part of a pattern is meant. -/
structure Mode where
  /-- White space and comments between the parts are passed over. -/
  verbose : Bool := false
  /-- Letters of both cases are the same. -/
  caseless : Bool := false
  /-- The pattern is about characters, and not about bytes. -/
  unicode : Bool := true
  deriving DecidableEq, Repr

/-- A character that stands for itself. -/
structure Literal where
  char : Char
  /-- Whether two digits of base sixteen write it, which give a byte where a pattern is about
  bytes. -/
  isByte : Bool := false
  deriving DecidableEq, Repr

/-- The part of a pattern that one character or one escape writes. -/
inductive Atom where
  | literal (l : Literal)
  /-- The digits, the white space or the characters of words, or all characters but these. -/
  | shorthand (negated : Bool)
  /-- Any character. -/
  | any
  /-- An end of the text or of a line. -/
  | edge
  /-- A place beside a word or not beside one. -/
  | wordEdge
  deriving DecidableEq, Repr

/-- A class of characters, or a part of one. -/
inductive CharClass where
  | literal (l : Literal)
  | range (first last : Literal)
  | shorthand (negated : Bool)
  /-- A class with a name, or all characters but those of the class. -/
  | named (negated : Bool)
  | bracketed (negated : Bool) (members : CharClass)
  | union (members : List CharClass)
  /-- What is common to two classes, or in one of them alone. -/
  | operation (left right : CharClass)
  deriving Repr

end Pattern

open Pattern

inductive Pattern where
  | atom (mode : Mode) (a : Atom)
  | characters (mode : Mode) (c : CharClass)
  /-- A change of the mode for what follows. -/
  | change
  | repeated (p : Pattern)
  | group (p : Pattern)
  | sequence (ps : List Pattern)
  | choice (ps : List Pattern)
  deriving Repr

namespace Pattern

/-! ## Depth -/

/-- How deep a list of parts is, if its deepest part is so deep: a list of one part is that part. -/
def listDepth (length deepest : Nat) : Nat := if 2 ≤ length then deepest + 1 else deepest

mutual

/-- How deep brackets, lists and operations are nested in a class. -/
def CharClass.depth : CharClass → Nat
  | .literal _ | .range _ _ | .shorthand _ | .named _ => 0
  | .bracketed _ c => c.depth + 1
  | .union cs => listDepth cs.length (CharClass.deepest cs)
  | .operation c d => max c.depth d.depth + 1

def CharClass.deepest : List CharClass → Nat
  | [] => 0
  | c :: cs => max c.depth (CharClass.deepest cs)

end

mutual

/-- How deep repetitions, groups, lists and classes are nested in a pattern. -/
def depth : Pattern → Nat
  | .atom _ _ | .change => 0
  | .characters _ c => c.depth
  | .repeated p | .group p => p.depth + 1
  | .sequence ps | .choice ps => listDepth ps.length (deepest ps)

def deepest : List Pattern → Nat
  | [] => 0
  | p :: ps => max p.depth (deepest ps)

end

end Pattern

end Launchpad.Text
