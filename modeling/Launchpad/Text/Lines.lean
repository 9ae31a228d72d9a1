import Launchpad.Text.Blank

/-!
# Lines

A line ends at a line feed, which it does not hold, nor one carriage return right before it. What
follows the last line feed is a line only if it is not empty.
-/

namespace Launchpad.Text

def dropReturn (line : List Char) : List Char :=
  if line.getLast? = some '\r' then line.dropLast else line

def lines (cs : List Char) : List (List Char) :=
  let pieces := splitOn (· == '\n') cs
  pieces.dropLast.map dropReturn ++ (pieces.getLast?.filter fun l => !l.isEmpty).toList

end Launchpad.Text
