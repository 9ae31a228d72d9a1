import Launchpad.Duration
import Launchpad.Progress

/-!
# Calls beside each other on a clock that waits

A schedule carries one call in the foreground and any number of calls in the background. Calls go on
in turn as long as any of them can; only when all of them wait for a moment does the clock move, to
the first of these moments. What waits for that moment in the background goes on before the call in
the foreground does.
-/

namespace Launchpad.Scripted

/-- What a schedule has to know of its calls `κ`, with results `ρ`, on a system `S`. -/
structure Rules (S κ ρ : Type) where
  now : S → Instant
  moveTo : Instant → S → S
  /-- When a call can go on. -/
  wakeAt : S → κ → Instant
  step : κ → S → Progress κ ρ × S

/-- A system, with the calls in the background and the results of those that have ended, in the
order in which they did. -/
structure Schedule (S κ ρ : Type) where
  system : S
  background : List (String × κ) := []
  finished : List (String × ρ) := []

/-- How many steps a call may take before it is given up. -/
def patience : Nat := 1000000000

namespace Schedule

variable {S κ ρ : Type}

def isDue (rules : Rules S κ ρ) (s : S) (call : κ) : Bool := rules.wakeAt s call ≤ rules.now s

/-- Goes on with a call until it has ended or waits for a moment to come. -/
def settle (rules : Rules S κ ρ) : Nat → κ → S → Progress κ ρ × S
  | 0, call, s => (.again call, s)
  | fuel + 1, call, s =>
    if isDue rules s call then
      match rules.step call s with
      | (.again call, s) => settle rules fuel call s
      | (.done r, s) => (.done r, s)
    else (.again call, s)

def keep (name : String) (p : Progress κ ρ) (x : Schedule S κ ρ) : Schedule S κ ρ :=
  match p with
  | .again call => { x with background := x.background ++ [(name, call)] }
  | .done r => { x with finished := x.finished ++ [(name, r)] }

def settleBackground (rules : Rules S κ ρ) (x : Schedule S κ ρ) : Schedule S κ ρ :=
  x.background.foldl
    (fun x (name, call) =>
      let (p, system) := settle rules patience call x.system
      { x with system }.keep name p)
    { x with background := [] }

def nextWake (rules : Rules S κ ρ) (x : Schedule S κ ρ) (first : Instant) : Instant :=
  x.background.foldl (fun t (_, call) => min t (rules.wakeAt x.system call)) first

def moveTo (rules : Rules S κ ρ) (t : Instant) (x : Schedule S κ ρ) : Schedule S κ ρ :=
  { x with system := rules.moveTo t x.system }

/-- Lets time pass up to a moment, at which the calls in the background go first. -/
def pass (rules : Rules S κ ρ) (t : Instant) (x : Schedule S κ ρ) : Schedule S κ ρ :=
  settleBackground rules (x.moveTo rules t)

/-- Goes on with a call in the foreground until it has ended, or up to a moment. -/
def drive (rules : Rules S κ ρ) (limit? : Option Instant) :
    Nat → κ → Schedule S κ ρ → Progress κ ρ × Schedule S κ ρ
  | 0, call, x => (.again call, x)
  | fuel + 1, call, x =>
    match settle rules patience call x.system with
    | (.done r, system) => (.done r, { x with system })
    | (.again call, system) =>
      let x := settleBackground rules { x with system }
      let next := x.nextWake rules (rules.wakeAt x.system call)
      if next ≤ rules.now x.system then drive rules limit? fuel call x
      else if limit?.any (· < next) then
        (.again call, x.moveTo rules (limit?.getD next))
      else drive rules limit? fuel call (x.pass rules next)

def run (rules : Rules S κ ρ) (call : κ) (x : Schedule S κ ρ) : Option ρ × Schedule S κ ρ :=
  let (p, x) := drive rules none patience call x
  (p.result?, x)

def spawn (rules : Rules S κ ρ) (name : String) (call : κ) (x : Schedule S κ ρ) :
    Schedule S κ ρ :=
  let (p, system) := settle rules patience call x.system
  { x with system }.keep name p

def join (rules : Rules S κ ρ) (name : String) (x : Schedule S κ ρ) :
    Option ρ × Schedule S κ ρ :=
  match x.background.lookup name with
  | some call => run rules call { x with background := x.background.filter (·.1 != name) }
  | none => (x.finished.lookup name, x)

def mapBackground (f : κ → κ) (x : Schedule S κ ρ) : Schedule S κ ρ :=
  { x with background := x.background.map fun (name, call) => (name, f call) }

def abort (name : String) (x : Schedule S κ ρ) : Schedule S κ ρ :=
  { x with background := x.background.filter (·.1 != name) }

end Schedule

end Launchpad.Scripted
