import Launchpad.Text.Blank

/-!
# Paths

A path is its text: joining adds one slash where there is none and normalizes nothing. Two paths are
the same to a reader of paths when they have the same components: repeated slashes, slashes at the
end and dots inside do not count, a dot in front and steps upwards do.
-/

namespace Launchpad

/-- A path of the file system, absolute or from the working directory. -/
structure Path where
  text : String
  deriving DecidableEq, Repr, Inhabited

namespace Path

def startsAtRoot (s : String) : Bool := s.toList.head? == some '/'

def isAbsolute (p : Path) : Bool := startsAtRoot p.text

/-- Follows a path with another one. An absolute right side replaces the left one. -/
def join (p : Path) (s : String) : Path :=
  if startsAtRoot s then ⟨s⟩
  else if p.text.isEmpty || p.text.toList.getLast? == some '/' then ⟨p.text ++ s⟩
  else ⟨p.text ++ "/" ++ s⟩

instance : HDiv Path String Path := ⟨join⟩

instance : HDiv Path Path Path := ⟨fun p q => p.join q.text⟩

/-- The pieces between the slashes, empty ones included. -/
def pieces (p : Path) : List String := (Text.splitOn (· == '/') p.text.toList).map String.ofList

def isStep (piece : String) : Bool := piece != "" && piece != "."

/-- The components of a path: the root as a slash, a dot in front, and the steps. -/
def components (p : Path) : List String :=
  let front :=
    if p.isAbsolute then ["/"] else if p.pieces.head? == some "." then ["."] else []
  front ++ p.pieces.filter isStep

def sameAs (p q : Path) : Bool := p.components == q.components

end Path

end Launchpad
