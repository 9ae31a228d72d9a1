import Launchpad.Duration

/-!
# Timers

A timer places the moments at which sleeps and time limits end. The exact one adds up; others have
their own way where a moment lies farther ahead than they can count. None ends anything before it
has begun.
-/

namespace Launchpad

structure Timer where
  /-- When a sleep ends that begins at a moment. -/
  wake : Instant → Duration → Instant
  /-- When a time limit is over that begins at a moment. -/
  expiry : Instant → Duration → Instant
  le_wake : ∀ now d, now ≤ wake now d
  le_expiry : ∀ now d, now ≤ expiry now d

namespace Timer

def exact : Timer where
  wake now d := now + d
  expiry now d := now + d
  le_wake := Nat.le_add_right
  le_expiry := Nat.le_add_right

def sleepingAtMost (longest : Duration) : Timer where
  wake now d := now + min d longest
  expiry now d := now + d
  le_wake _ _ := Nat.le_add_right _ _
  le_expiry := Nat.le_add_right

end Timer

end Launchpad
