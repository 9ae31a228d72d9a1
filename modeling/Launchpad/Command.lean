import Launchpad.Path

/-!
# Commands

A command names a program, its arguments, the directory to run in and the variables to set on top of
the environment. Variables are kept in ascending order of their names, each once.
-/

namespace Launchpad

/-- Variables to set, in ascending order of their names. -/
structure Environment where
  entries : List (String × String) := []
  deriving DecidableEq, Repr, Inhabited

namespace Environment

def get? (e : Environment) (name : String) : Option String := e.entries.lookup name

/-- Puts a variable in its place among sorted ones. -/
def insertSorted (name value : String) : List (String × String) → List (String × String)
  | [] => [(name, value)]
  | (n, v) :: rest =>
    if name = n then (name, value) :: rest
    else if name < n then (name, value) :: (n, v) :: rest
    else (n, v) :: insertSorted name value rest

/-- Sets a variable; a later value for the same name wins. -/
def set (e : Environment) (name value : String) : Environment :=
  ⟨insertSorted name value e.entries⟩

theorem lookup_cons_eq (n v other : String) (entries : List (String × String)) :
    ((n, v) :: entries).lookup other = if other = n then some v else entries.lookup other := by
  rw [List.lookup_cons]
  by_cases h : other = n
  · rw [if_pos h, beq_iff_eq.mpr h]
  · rw [if_neg h, beq_false_of_ne h]

theorem lookup_insertSorted (name value other : String) (entries : List (String × String)) :
    (insertSorted name value entries).lookup other =
      if other = name then some value else entries.lookup other := by
  induction entries with
  | nil => rw [insertSorted, lookup_cons_eq]
  | cons e entries ih =>
    obtain ⟨n, v⟩ := e
    simp only [insertSorted]
    by_cases hn : name = n
    · subst hn
      rw [if_pos rfl, lookup_cons_eq, lookup_cons_eq]
      split <;> rfl
    · rw [if_neg hn]
      split
      · rw [lookup_cons_eq]
      · rw [lookup_cons_eq, lookup_cons_eq, ih]
        by_cases ho : other = n
        · have : ¬ n = name := fun h => hn h.symm
          simp [ho, this]
        · simp [ho]

@[simp] theorem get?_set (e : Environment) (name value other : String) :
    (e.set name value).get? other = if other = name then some value else e.get? other :=
  lookup_insertSorted name value other e.entries

end Environment

/-- A command that has not been started. -/
structure Command where
  program : Path
  args : List String := []
  directory : Option Path := none
  environment : Environment := {}
  deriving DecidableEq, Repr, Inhabited

namespace Command

def arg (c : Command) (a : String) : Command := { c with args := c.args ++ [a] }

def withArgs (c : Command) (more : List String) : Command := { c with args := c.args ++ more }

def inDirectory (c : Command) (dir : Path) : Command := { c with directory := some dir }

def withVariable (c : Command) (name value : String) : Command :=
  { c with environment := c.environment.set name value }

def line (c : Command) : String := " ".intercalate (c.program.text :: c.args)

/-- Whether the system can be given a text: a NUL would end it early. -/
def canPass (text : String) : Bool := !text.toList.contains '\x00'

/-- What the system is given for a text: the text, or a stand-in for one that has a NUL. -/
def passed (text : String) : String := if canPass text then text else "<string-with-nul>"

/-- The command as the system is given it. Variables are kept as they are. -/
def handedOver (c : Command) : Command :=
  { c with program := ⟨passed c.program.text⟩, args := c.args.map passed,
           directory := c.directory.map fun d => ⟨passed d.text⟩ }

/-- Whether two commands are the same, their paths compared by components. -/
def sameAs (c d : Command) : Bool :=
  c.program.sameAs d.program && c.args == d.args && c.environment == d.environment &&
    match c.directory, d.directory with
    | none, none => true
    | some p, some q => p.sameAs q
    | _, _ => false

end Command

end Launchpad
