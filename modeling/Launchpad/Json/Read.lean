import Launchpad.Json
import Launchpad.Path

/-!
# Reading JSON values

A reader turns a JSON value into a value of its type or says what is wrong with it. Records are read
from objects, whose unknown keys are ignored, and from lists, which hold the fields in their order
and may leave out the last ones.
-/

namespace Launchpad.Json

/-- Why a JSON value is not what it should be. -/
inductive Fault where
  | wrongType (found : Json) (expected : String)
  | outOfRange (value : Int) (expected : String)
  /-- A variant in an object has to be its only key. -/
  | notOneKey
  | unknownVariant (name : String) (known : List String)
  | missing (key : String)
  | wrongLength (length : Nat) (expected : String)
  deriving Repr

namespace Fault

def alternatives : List String → String
  | [a, b] => "`" ++ a ++ "` or `" ++ b ++ "`"
  | names => "one of " ++ ", ".intercalate (names.map fun n => "`" ++ n ++ "`")

def message : Fault → String
  | .wrongType found expected => "invalid type: " ++ found.describe ++ ", expected " ++ expected
  | .outOfRange value expected =>
    "invalid value: " ++ (Json.int value).describe ++ ", expected " ++ expected
  | .notOneKey => "invalid value: map, expected map with a single key"
  | .unknownVariant name known =>
    "unknown variant `" ++ name ++ "`, expected " ++ alternatives known
  | .missing key => "missing field `" ++ key ++ "`"
  | .wrongLength length expected =>
    "invalid length " ++ toString length ++ ", expected " ++ expected

end Fault

abbrev Reader (α : Type) := Json → Except Fault α

/-! ## Single values -/

def readText : Reader String
  | .text s => .ok s
  | j => .error (.wrongType j "a string")

def readBool : Reader Bool
  | .bool b => .ok b
  | j => .error (.wrongType j "a boolean")

def readPath : Reader Path
  | .text s => .ok ⟨s⟩
  | j => .error (.wrongType j "path string")

/-- Reads an integer from `low` on and below `high`. -/
def readInt (low high : Int) (expected : String) : Reader Int
  | .int n => if low ≤ n ∧ n < high then .ok n else .error (.outOfRange n expected)
  | j => .error (.wrongType j expected)

def readUInt16 : Reader UInt16 := fun j =>
  (readInt 0 UInt16.size "u16" j).map fun n => UInt16.ofNat n.toNat

def readUInt32 : Reader UInt32 := fun j =>
  (readInt 0 UInt32.size "u32" j).map fun n => UInt32.ofNat n.toNat

def readUInt64 : Reader UInt64 := fun j =>
  (readInt 0 UInt64.size "u64" j).map fun n => UInt64.ofNat n.toNat

def readInt32 : Reader Int32 := fun j =>
  (readInt (-0x80000000) 0x80000000 "i32" j).map Int32.ofInt

def readOption {α : Type} (r : Reader α) : Reader (Option α)
  | .null => .ok none
  | j => (r j).map some

def readList {α : Type} (r : Reader α) : Reader (List α)
  | .list items => items.mapM r
  | j => .error (.wrongType j "a sequence")

/-! ## Variants without data -/

/-- Reads the name of a variant, by itself or as the only key of an object over null. -/
def readVariant {α : Type} (known : List (String × α)) : Reader α
  | .text name => named name
  | .object [(name, value)] => do
    let variant ← named name
    match value with
    | .null => return variant
    | j => throw (.wrongType j "unit")
  | .object _ => .error .notOneKey
  | j => .error (.wrongType j "string or map")
where
  /-- The variant of a name. -/
  named (name : String) : Except Fault α :=
    match known.lookup name with
    | some variant => .ok variant
    | none => .error (.unknownVariant name (known.map (·.1)))

/-! ## Records -/

/-- A field of a record that is built up in a `δ`. -/
structure Field (δ : Type) where
  key : String
  required : Bool := false
  /-- Reads the value of the field into the record. -/
  read : Json → δ → Except Fault δ

/-- A field whose value is read by a reader and put into the record. -/
def Field.of {α δ : Type} (key : String) (r : Reader α) (put : α → δ → δ) : Field δ :=
  { key, read := fun j d => (r j).map fun a => put a d }

/-- The fields of a record in their order, and what messages call the record. -/
structure Schema (δ : Type) where
  name : String
  fields : List (Field δ)

namespace Schema

variable {δ : Type}

/-- Reads one key of an object. Unknown keys are ignored. -/
def readKey (s : Schema δ) (d : δ) (entry : String × Json) : Except Fault δ :=
  match s.fields.find? (·.key == entry.1) with
  | some f => f.read entry.2 d
  | none => .ok d

/-- Reads the items of a list of `length` into the fields that are left. -/
def readItems (s : Schema δ) (length : Nat) : List (Field δ) → List Json → δ → Except Fault δ
  | _, [], d => .ok d
  | [], _ :: _, _ => .error (.wrongLength length "fewer elements in array")
  | f :: fs, j :: js, d => do s.readItems length fs js (← f.read j d)

def expected (s : Schema δ) : String :=
  s.name ++ " with " ++ toString s.fields.length ++ " elements"

def lacksRequired (s : Schema δ) (length : Nat) : Bool := (s.fields.drop length).any (·.required)

/-- Reads a record over the values in `start`. -/
def read (s : Schema δ) (start : δ) : Reader δ
  | .object fields => (sortFields fields).foldlM s.readKey start
  | .list items => do
    let d ← s.readItems items.length s.fields items start
    if s.lacksRequired items.length then throw (.wrongLength items.length s.expected)
    return d
  | j => .error (.wrongType j s.name)

end Schema

end Launchpad.Json
