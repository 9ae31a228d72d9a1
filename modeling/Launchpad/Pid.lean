/-!
# Process identifiers
-/

namespace Launchpad

/-- A process identifier of the operating system, a 32 bit word. -/
structure Pid where
  val : UInt32
  deriving DecidableEq, Repr, Inhabited

namespace Pid

def ofNat (n : Nat) : Pid := ⟨UInt32.ofNat n⟩

def toNat (p : Pid) : Nat := p.val.toNat

def text (p : Pid) : String := toString p.toNat

/-- Identifiers are ordered by number. -/
def le (p q : Pid) : Bool := p.toNat ≤ q.toNat

theorem toNat_injective {p q : Pid} (h : p.toNat = q.toNat) : p = q := by
  cases p; cases q
  exact congrArg Pid.mk (UInt32.toNat_inj.1 h)

end Pid

end Launchpad
