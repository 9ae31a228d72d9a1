import Launchpad.Pid
import Launchpad.Sorting

/-!
# Process trees

A snapshot of a process and all of its descendants, in the order in which they can be ended: every
process after the processes that it started, the root last. It is built from the links of a process
table, which may hold cycles when identifiers have been used again.
-/

namespace Launchpad

/-- An entry of a process table: a process and the one that started it. -/
structure ParentLink where
  pid : Pid
  parent : Pid
  deriving DecidableEq, Repr

/-- A process and its descendants. -/
structure ProcessTree where
  root : Pid
  /-- All members but the root, in the order in which they can be ended. -/
  descendants : List Pid
  deriving DecidableEq, Repr

namespace ProcessTree

def rootOnly (root : Pid) : ProcessTree := ⟨root, []⟩

/-- The processes that one process started, in ascending order. -/
def childrenOf (links : List ParentLink) (parent : Pid) : List Pid :=
  sortBy Pid.le ((links.filter fun l => l.parent == parent && l.pid != l.parent).map (·.pid))

/-- A walk over a process table: what it has seen, and the members it has left for good. -/
structure Walk where
  seen : List Pid
  done : List Pid
  deriving Repr

/-- Visits the processes that are waiting and all their descendants, children before parents. Each
descent meets a process for the first time, so their number bounds the depth. -/
def visit (links : List ParentLink) : Nat → List Pid → Walk → Walk
  | _, [], w => w
  | 0, _ :: _, w => w
  | depth + 1, p :: ps, w =>
    if w.seen.contains p then visit links (depth + 1) ps w
    else
      let inner := visit links depth (childrenOf links p) { w with seen := p :: w.seen }
      visit links (depth + 1) ps { inner with done := inner.done ++ [p] }
termination_by depth ps => (depth, ps.length)

def ofLinks (root : Pid) (links : List ParentLink) : ProcessTree :=
  ⟨root, (visit links (links.length + 1) (childrenOf links root) ⟨[root], []⟩).done⟩

/-- All members in the order in which they can be ended, the root last. -/
def members (t : ProcessTree) : List Pid := t.descendants ++ [t.root]

def contains (t : ProcessTree) (p : Pid) : Bool := t.members.contains p

def size (t : ProcessTree) : Nat := t.members.length

def isEmpty (t : ProcessTree) : Bool := t.members.isEmpty

/-- Whether every child among the members comes before its parent. -/
def childrenFirst (t : ProcessTree) (links : List ParentLink) : Bool :=
  links.all fun l =>
    !(t.contains l.pid && t.contains l.parent) ||
      t.members.idxOf l.pid < t.members.idxOf l.parent

theorem root_mem_members (t : ProcessTree) : t.root ∈ t.members := by simp [members]

end ProcessTree

end Launchpad
