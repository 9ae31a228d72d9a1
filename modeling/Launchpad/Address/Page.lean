import Launchpad.Address.Authority
import Launchpad.Address.Escape

/-!
# Pages

A page has an address whose parts are written out in full. A path is a list of parts with a slash
before each. `enter` goes from the directories of a path through those of a text, in which one point
is the directory itself and two points are the one above it.
-/

namespace Launchpad.Address

/-- Whether a character separates the parts of a path. The backslash counts as a slash. -/
def isSlash (c : Char) : Bool := c == '/' || c == '\\'

/-! ## Paths -/

/-- A part in which the escape of a point is read as a point. -/
def readPoints : List Char → List Char
  | '%' :: '2' :: e :: cs =>
    if e == 'e' || e == 'E' then '.' :: readPoints cs else '%' :: '2' :: readPoints (e :: cs)
  | c :: cs => c :: readPoints cs
  | [] => []

/-- Goes on by one part, which is the last one or has a slash behind it, from the parts so far,
latest first. A directory at the end is written with a slash behind it. -/
def enterPart (last : Bool) (path : List (List Char)) (part : List Char) : List (List Char) :=
  let behind := if last then [[]] else []
  if readPoints part = "..".toList then behind ++ path.tail
  else if readPoints part = ".".toList then behind ++ path
  else escape isEscapedInPath part :: path

def enter (path : List (List Char)) (text : List Char) : List (List Char) :=
  let parts := Text.splitOn isSlash text
  let entered := parts.dropLast.foldl (enterPart false) path.reverse
  (enterPart true entered (parts.getLastD [])).reverse

/-! ## Addresses of pages -/

/-- A page, by the parts of its address. The question mark belongs to the query, and the hash sign
to the fragment. -/
structure Page where
  scheme : Scheme
  authority : List Char
  path : List (List Char)
  query : List Char
  fragment : List Char
  deriving DecidableEq, Repr

def Page.written (p : Page) : List Char :=
  p.scheme.name.toList ++ "://".toList ++ p.authority ++ p.path.flatMap ('/' :: ·) ++ p.query ++
    p.fragment

def endsPath (c : Char) : Bool := c == '?' || c == '#'

def Page.withTail (p : Page) (text : List Char) : Page :=
  let tail := text.dropWhile fun c => !endsPath c
  { p with
    query := escape isEscapedInQuery (tail.takeWhile (· != '#'))
    fragment := escape isEscapedInFragment (tail.dropWhile (· != '#')) }

def Page.ofHost? (scheme : Scheme) (text : List Char) : Option Page := do
  let endsHost := fun c : Char => isSlash c || endsPath c
  let authority ← authority? scheme (text.takeWhile fun c => !endsHost c)
  let path := (text.dropWhile fun c => !endsHost c).takeWhile fun c => !endsPath c
  let path := enter [] (path.drop 1)
  some (Page.withTail { scheme, authority, path, query := [], fragment := [] } text)

/-- The page that an address without a scheme leads to from another page. It may start at the host,
after two slashes or more, at the path, in the directory of the other page, or behind its path. More
slashes than two belong to the path, unless one of the first two is a backslash. -/
def Page.refer? (p : Page) (text : List Char) : Option Page :=
  let path := text.takeWhile fun c => !endsPath c
  match text with
  | '/' :: '/' :: rest => Page.ofHost? p.scheme rest
  | _ =>
    if 2 ≤ (path.takeWhile isSlash).length then Page.ofHost? p.scheme (text.dropWhile isSlash)
    else
      let p' := p.withTail text
      if path.head?.any isSlash then some { p' with path := enter [] (path.drop 1) }
      else if !path.isEmpty then some { p' with path := enter p.path.dropLast path }
      else if text.head? = some '?' then some p'
      else some { p' with query := p.query }

end Launchpad.Address
