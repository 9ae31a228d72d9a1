import Launchpad.Text.Alphanumeric
import Launchpad.Text.Pattern.Escape

/-!
# Where groups begin

Behind its bracket, a group may have a name, or flags that change the mode. Flags that are closed at
once change the mode for what follows.
-/

namespace Launchpad.Text.Pattern

/-- What stands behind the bracket that opens a group. -/
inductive Opening where
  | group (name : Option (List Char)) (mode : Mode)
  /-- No group, but a mode for what follows. -/
  | change (mode : Mode)
  deriving DecidableEq, Repr

/-! ## Names -/

def isGroupName : List Char → Bool
  | [] => false
  | c :: cs =>
    (c == '_' || isAlphabetic c) &&
      cs.all fun c => c == '_' || c == '.' || c == '[' || c == ']' || isAlphanumeric c

def groupName? (mode : Mode) (cs : List Char) : Option (Opening × List Char) :=
  let name := cs.takeWhile (· != '>')
  match cs.drop name.length with
  | _ :: rest => if isGroupName name then some (.group (some name) mode, rest) else none
  | [] => none

/-! ## Flags -/

/-- Whether flags are all known, none twice, with at most one sign that takes flags away and some
flag behind it. -/
def areFlags (flags : List Char) : Bool :=
  flags.all (fun c => "imsUuRx-".toList.contains c) && decide flags.Nodup &&
    flags.getLast? != some '-'

def flagAfter (flags : List Char) (flag : Char) (before : Bool) : Bool :=
  if (flags.takeWhile (· != '-')).contains flag then true
  else if flags.contains flag then false
  else before

def Mode.after (mode : Mode) (flags : List Char) : Mode where
  verbose := flagAfter flags 'x' mode.verbose
  caseless := flagAfter flags 'i' mode.caseless
  unicode := flagAfter flags 'u' mode.unicode

/-- Reads what stands behind the bracket that opens a group. Groups that look ahead or back are not
known. -/
def opening? (mode : Mode) (cs : List Char) : Option (Opening × List Char) :=
  match mode.skip cs with
  | '?' :: '<' :: '=' :: _ => none
  | '?' :: '<' :: '!' :: _ => none
  | '?' :: '<' :: cs => groupName? mode cs
  | '?' :: 'P' :: '<' :: cs => groupName? mode cs
  | '?' :: cs =>
    let flags := cs.takeWhile fun c => c != ':' && c != ')'
    if !areFlags flags then none
    else match cs.drop flags.length with
      | ':' :: rest => some (.group none (mode.after flags), rest)
      | ')' :: rest => if flags.isEmpty then none else some (.change (mode.after flags), rest)
      | _ => none
  | cs => some (.group none mode, cs)

end Launchpad.Text.Pattern
