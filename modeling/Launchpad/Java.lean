import Launchpad.Error
import Launchpad.Text.Digits
import Launchpad.Text.Lines

/-!
# Finding and vetting java

`Java.resolve` locates the binary and `Java.majorVersion?` reads the major version from what java
says about itself, in the modern form `21.0.2` as well as in the older `"1.8.0_392"`.
-/

namespace Launchpad.Java

/-- The oldest release that the distributions run on. -/
def minVersion : Nat := 21

/-- The java binary: the one in the java home if that is set, else the first on the search path. -/
def resolve (disk : Disk) (home? : Option Path) : Except Error Path :=
  match home? with
  | some home =>
    let binary := home / "bin" / "java"
    if disk.files.isFile binary then .ok binary
    else .error (.configuration (.noJavaInHome home binary))
  | none =>
    match disk.find? "java" with
    | some binary => .ok binary
    | none => .error (.configuration .noJavaOnPath)

/-! ## The version -/

/-- The value of digits, of which there has to be one, as a 32 bit word. -/
def wordOfDigits? (digits : List Char) : Option Nat :=
  (Text.numeral? 10 digits).filter (· < UInt32.size)

/-- The first line that is not blank. -/
def firstLine? (text : List Char) : Option (List Char) :=
  (Text.lines text).find? fun l => !l.all Text.isBlank

/-- The first word of a line that starts with a digit, quotes around it left out. -/
def versionToken? (line : List Char) : Option (List Char) :=
  ((Text.words line).map (Text.strip (· == '"'))).find? fun w => w.head?.any Char.isDigit

/-- The major version that a token names. In the older form it is the second number. -/
def tokenMajor? (token : List Char) : Option Nat := do
  let numbers := Text.splitOn (fun c => !c.isDigit) token
  let first ← numbers.head?
  let major ← wordOfDigits? first
  if major = 1 then
    let second ← numbers[1]?
    wordOfDigits? second
  else some major

def majorVersion? (answer : String) : Option Nat := do
  let line ← firstLine? answer.toList
  let token ← versionToken? line
  tokenMajor? token

def checkVersion (answer : String) : Except Error Nat :=
  match majorVersion? answer with
  | none =>
    let line := (Text.lines answer.toList).headD []
    .error (.configuration (.unknownJavaVersion (String.ofList line)))
  | some found => if found < minVersion then .error (.oldJava found minVersion) else .ok found

end Launchpad.Java
