import Launchpad.Scripted.SessionCall

/-!
# A trial of a foreground run

A run in the foreground, with things that are done to its session at moments beside it, up to its
end or up to a limit.
-/

namespace Launchpad.Scripted

variable {σ : Type}

structure ForegroundTrial (σ : Type) where
  run : Foreground σ
  /-- When the shutdown is requested, if it is. -/
  shutdownAt : Option Instant := none
  limit : Instant
  deeds : List (Instant × Deed σ) := []

structure ForegroundTrial.Findings (σ : Type) where
  /-- How the run ended, if it did. -/
  ending : Option RunEnding
  /-- The deeds that were finished, by their number, in the order in which they were. -/
  log : List (Nat × SessionResult)
  session : Session σ

namespace ForegroundTrial

def background (t : ForegroundTrial σ) : List (String × SessionCall σ) :=
  t.deeds.zipIdx.map fun ((moment, deed), k) => (toString k, .later moment deed)

def play (host : Host σ) (t : ForegroundTrial σ) (s : Session σ) : Findings σ :=
  let start : Schedule (Session σ) (SessionCall σ) SessionResult :=
    { system := s, background := t.background }
  let (p, x) := start.drive (SessionCall.rules host) (some t.limit) patience
    (.foreground t.run t.shutdownAt)
  { ending := match p with
      | .done (.ran ending) => some ending
      | _ => none,
    log := x.finished.filterMap fun (name, r) => name.toNat?.map fun k => (k, r),
    session := x.system }

end ForegroundTrial

end Launchpad.Scripted
