import Launchpad.Host.Unsupported
import Launchpad.Posix.Host
import Launchpad.Scripted.Host

/-!
# What is relied on of hosts

A host is arbitrary, but some results hold only if it keeps a promise. Each promise is one that the
operations of a host make by what they are for:

* `TreesHoldRoots`: the tree of a process holds the process itself.
* `TellsChildren`: how a child stands can be told. A system refuses this only of a process that is
  not a child, or that was one and has been waited for.
* `KeepsErrors`: what a host refuses is not taken for a decision of the session.

All hosts of this library keep all of them.
-/

namespace Launchpad

/-- Whether an error is one of those that a session makes itself. -/
def Error.IsOwn : Error → Prop
  | .cancelled => True
  | .phaseConflict _ _ => True
  | _ => False

namespace Host

variable {σ : Type} {host : Host σ} {e : Error}

/-- The tree of a process holds the process itself. -/
def TreesHoldRoots (host : Host σ) : Prop :=
  ∀ now p world tree, host.processTree now p world = .ok tree → p ∈ tree.members

/-- How a child stands can always be told. -/
def TellsChildren (host : Host σ) : Prop :=
  ∀ now p world reason, host.childState now p world ≠ .unknown reason

/-- Whether the host gives an error when it is asked for a command or to prepare one. -/
def Gives (host : Host σ) (e : Error) : Prop :=
  (∃ request world, host.command request world = .error e) ∨
    ∃ role command world, host.prepare role command world = .error e

/-- The host gives no error that is a session's own. -/
def KeepsErrors (host : Host σ) : Prop := ∀ e, host.Gives e → ¬ e.IsOwn

theorem not_own_of_build {layout : Layout} {fs : FileSystem} {request : Distribution.Request}
    (h : (Distribution.build layout fs request).mapError .invalidCommand = .error e) :
    ¬ e.IsOwn := by
  cases hbuild : Distribution.build layout fs request with
  | ok command =>
    rw [hbuild] at h
    cases h
  | error fault =>
    rw [hbuild] at h
    cases h
    exact id

/-! ## Hosts that refuse everything -/

section Refusing

variable {disk : σ → Disk} {platform : String} {reason : String → String}

theorem treesHoldRoots_refusing : (refusing disk platform reason).TreesHoldRoots := nofun

theorem tellsChildren_refusing : (refusing disk platform reason).TellsChildren := nofun

theorem keepsErrors_refusing : (refusing disk platform reason).KeepsErrors := by
  rintro e (⟨_, _, h⟩ | ⟨_, _, _, h⟩)
  all_goals
    cases h
    exact id

end Refusing

end Host

/-! ## The host with process groups -/

namespace Posix

theorem treesHoldRoots : host.TreesHoldRoots := by
  intro now p m tree h
  obtain rfl := Except.ok.inj h
  split
  · exact ProcessTree.root_mem_members _
  · exact ProcessTree.root_mem_members (.rootOnly p)

theorem tellsChildren : host.TellsChildren := by
  intro now p m reason
  unfold host
  dsimp only
  split <;> exact nofun

theorem keepsErrors : host.KeepsErrors := by
  rintro e (⟨_, _, h⟩ | ⟨_, _, _, h⟩)
  · exact Host.not_own_of_build h
  · cases h

end Posix

/-! ## The scripted host -/

namespace Scripted

theorem treesHoldRoots : host.TreesHoldRoots := by
  intro now p w tree h
  unfold host at h
  dsimp only at h
  split at h
  · next q hq =>
    have hp : q.pid = p := by
      simpa using List.find?_some hq
    split at h
    · cases h
    · cases h
      rw [← hp]
      exact ProcessTree.root_mem_members _
  · cases h
    exact ProcessTree.root_mem_members (.rootOnly p)

theorem state_ne_unknown (q : Process) (now : Instant) (reason : String) :
    q.state now ≠ .unknown reason := by
  unfold Process.state
  split
  · split
    · exact nofun
    · exact nofun
  · exact nofun

theorem tellsChildren : host.TellsChildren := by
  intro now p w reason
  change w.childState now p ≠ _
  unfold World.childState
  split
  · exact state_ne_unknown _ now reason
  · exact nofun

theorem not_own_of_prepare {e : Error} {role : Role} {w : World}
    (h : w.prepare role = .error e) : ¬ e.IsOwn := by
  unfold World.prepare at h
  split at h
  · split at h
    · cases h
      exact id
    · cases h
  · cases h

theorem keepsErrors : host.KeepsErrors := by
  rintro e (⟨_, _, h⟩ | ⟨_, _, _, h⟩)
  · exact Host.not_own_of_build h
  · exact not_own_of_prepare h

end Scripted

end Launchpad
