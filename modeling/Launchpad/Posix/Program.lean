import Launchpad.Error
import Launchpad.FileSystem

/-!
# Starting programs

A program is started by what it consists of. Instructions start by themselves. A script names an
interpreter in its first line, of which the system reads only the first bytes; the interpreter may
be a script in turn, so many times. `start` says whether a program can be started.
-/

namespace Launchpad.Posix

/-! ## Scripts -/

/-- How many bytes of a program the system looks at. -/
def headLimit : Nat := 256

/-- The first characters of a text, those that lie wholly within so many bytes. -/
def takeBytes : Nat → List Char → List Char
  | _, [] => []
  | limit, c :: cs => if c.utf8Size ≤ limit then c :: takeBytes (limit - c.utf8Size) cs else []

def isGap (c : Char) : Bool := c == ' ' || c == '\t'

/-- The name of the interpreter in the text of a script after its mark. `cutOff` tells whether
the text goes on where it is not looked at. A NUL, and the end of a text that is not cut off, end a
name that may be empty; a name that reaches the cut is none. -/
def interpreterIn? (rest : List Char) (cutOff : Bool) : Option String :=
  let line := rest.takeWhile fun c => c != '\n' && c != '\x00'
  let words := line.dropWhile isGap
  let name := words.takeWhile fun c => !isGap c
  let isWhole := match rest.drop line.length with
    | '\n' :: _ => !name.isEmpty
    | _ :: _ => true
    | [] => !cutOff || name.length < words.length
  if isWhole then some (String.ofList name) else none

/-- The name of the interpreter of a script, if the program is a script that names one. -/
def interpreter? (content : String) : Option String :=
  match takeBytes headLimit content.toList with
  | '#' :: '!' :: rest => interpreterIn? rest (headLimit ≤ content.utf8ByteSize)
  | _ => none

/-! ## Starting -/

def ofFault : FileSystem.Fault → SystemError
  | .missing => .notFound
  | .notDirectory => .notDirectory

/-- Opens the program that an interpreter's name leads to. An empty name is the working
directory. -/
def openProgram (fs : FileSystem) (name : String) : Except SystemError FileSystem.Image :=
  if name.isEmpty then .error .accessDenied
  else match fs.find ⟨name⟩ with
    | .ok (.program image) => .ok image
    | .ok _ => .error .accessDenied
    | .error fault => .error (ofFault fault)

/-- How often a program may give way to its interpreter. -/
def maxInterpreters : Nat := 5

/-- Starts a program that so many more may follow. -/
def startImage (fs : FileSystem) : Nat → FileSystem.Image → Except SystemError Unit
  | _, .native => .ok ()
  | more, .text content =>
    match interpreter? content with
    | none => .error .notExecutable
    | some name =>
      match openProgram fs name with
      | .error cause => .error cause
      | .ok image =>
        match more with
        | 0 => .error .tooManyLevels
        | more + 1 => startImage fs more image

def start (fs : FileSystem) (program : Path) : Except SystemError Unit :=
  match fs.program? program with
  | some image => startImage fs maxInterpreters image
  | none => .error .notFound

end Launchpad.Posix
