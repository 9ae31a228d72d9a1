import Launchpad.Scripted.World

/-!
# The host of the scripted machine
-/

namespace Launchpad.Scripted

def hostName : String := "sim"

/-- Nothing sleeps longer than thirty years on the scripted machine. -/
def timer : Timer := .sleepingAtMost (.ofSecs (86400 * 365 * 30))

/-- The tree of a process: the links of its plan whose processes are running bystanders. -/
def World.treeOf (w : World) (now : Instant) (q : Process) : ProcessTree :=
  let links := q.plan.tree.filter fun l => w.bystanderAlive now l.pid
  .ofLinks q.pid (links.map fun l => ⟨l.pid, l.parent.getD q.pid⟩)

def World.spawn (w : World) (c : Component) : Except SystemError Pid × World :=
  let plan := w.script.plans.get c
  match plan.refusal with
  | some .missing => (.error .notFound, w)
  | some .denied => (.error .accessDenied, w)
  | _ =>
    let pid := Pid.ofNat (World.firstPid + w.processes.length)
    (.ok pid, { w with processes := { component := c, pid, plan } :: w.processes })

def World.prepare (w : World) : Role → Except Error Unit
  | .component c =>
    if (w.script.plans.get c).refusal = some .unsupported then
      .error (.unsupported hostName "launch")
    else .ok ()
  | .tool => .ok ()

def host : Host World where
  name := hostName
  timer
  disk w := w.disk
  command r w := (Distribution.build w.script.layout w.disk.files r).mapError .invalidCommand
  prepare role _ w := w.prepare role
  spawn _ c _ w := w.spawn c
  childState now p w := w.childState now p
  runTool _ _ w := (if w.script.tool.missing then .error .notFound else .ok w.script.tool.run, w)
  openUrl url w :=
    (match w.script.openFails with
      | some reason => .error (.browser url reason)
      | none => .ok (), w)
  processTree now p w :=
    match w.process? p with
    | some q =>
      if q.plan.treeFails then .error (.unsupported hostName "process_tree")
      else .ok (w.treeOf now q)
    | none => .ok (.rootOnly p)
  groupMembers now p w :=
    match w.process? p with
    | some q =>
      if q.plan.groupFails then .error (.unsupported hostName "process_group")
      else .ok (q.plan.group.filter (w.bystanderAlive now))
    | none => .ok []
  terminate now p w := w.signal now p Plan.terminate Bystander.terminate
  kill now p w := w.signal now p Plan.kill Bystander.kill
  isAlive now p w := w.isAlive now p
  killChild now p w := w.modifyProcess p fun q => q.endWith (some ⟨now, none⟩)

end Launchpad.Scripted
