import RenderCore.Action
import RenderCore.Device.Event
namespace RenderCore

inductive AcquireScript where
  | acquired
  | suboptimal
  | outOfDate
  | fail (f : DeviceFailure)
deriving Inhabited

inductive SubmitStatus where
  | ok
  | suboptimal
  | outOfDate
deriving DecidableEq, Inhabited

structure Gauge where
  value : UInt64 := 0
  history : List UInt64 := []
deriving Inhabited

def Gauge.advance (g : Gauge) (value : UInt64) : Gauge :=
  if g.value < value then { value, history := g.history ++ [value] } else g

structure Device where
  next : UInt64 := 0x1000
  live : List Handle := []
  poolSets : List (Handle × List Handle) := []
  failNext : Option (HandleKind × DeviceFailure) := none
  frameScript : List (Option DeviceFailure) := []
  log : Array Event := #[]
  gauges : List (Handle × Gauge) := []
  queued : List SyncPoint := []
  busy : List Handle := []
  autoComplete : Bool := true
  acquireScript : List AcquireScript := []
  submitScript : List (Except DeviceFailure SubmitStatus) := []
  fastLinksOptimized : Bool := false
  panicNextOptimized : Bool := false
  holdOptimized : Bool := false
deriving Inhabited

namespace Device

def record (e : Event) : Act Device Unit :=
  modify fun d => { d with log := d.log.push e }

def fresh (kind : HandleKind) : Act Device Handle :=
  modifyGet fun d => (⟨kind, d.next⟩, { d with next := d.next + 1 })

def track (kind : HandleKind) : Act Device Handle := do
  let h ← fresh kind
  modify fun d => { d with live := d.live ++ [h] }
  record (.create h)
  return h

def gauge (d : Device) (sem : Handle) : Gauge :=
  (d.gauges.lookup sem).getD {}

def value (d : Device) (sem : Handle) : UInt64 :=
  (d.gauge sem).value

def advance (sem : Handle) (value : UInt64) : Act Device Unit :=
  modify fun d =>
    let g := (d.gauge sem).advance value
    { d with gauges := (sem, g) :: d.gauges.filter (·.1 != sem) }

def completeAll : Act Device Unit := do
  let d ← get
  set { d with queued := [], busy := [] }
  for s in d.queued do advance s.semaphore s.value

-- Creates an object of `kind`, from `pool` when it is a set. An armed failure for the kind is used
-- up instead and takes no number.
def create (kind : HandleKind) (pool : Option Handle := none) :
    Act Device (Except DeviceFailure Handle) := do
  let d ← get
  match d.failNext with
  | some (k, f) =>
    if k = kind then
      set { d with failNext := none }
      return .error f
    else made
  | none => made
where
  made : Act Device (Except DeviceFailure Handle) := do
    let h ← track kind
    if let some p := pool then
      modify fun d =>
        let sets := ((d.poolSets.lookup p).getD []) ++ [h]
        { d with poolSets := (p, sets) :: d.poolSets.filter (·.1 != p) }
    return .ok h

-- Creates a frame. A backend may refuse any creation, also one after others in the same call: the
-- script says how the next frames go, and an empty script leaves it to the armed failure.
def createFrame : Act Device (Except DeviceFailure Handle) := do
  let d ← get
  match d.frameScript with
  | [] => create .frame
  | next :: rest =>
    set { d with frameScript := rest }
    match next with
    | some f => return .error f
    | none => create .frame

def destroy (h : Handle) : Act Device Unit := do
  let d ← get
  unless d.live.contains h do
    throw (.assertion s!"MockBackend: destroy of {h.describe} which is not alive (double destroy?)")
  let sets := (d.poolSets.lookup h).getD []
  set { d with
    live := (d.live.erase h).filter (fun s => !sets.contains s)
    poolSets := d.poolSets.filter (·.1 != h) }
  record (.destroy h)

def takeLinkPanic : Act Device Bool :=
  modifyGet fun d => (d.panicNextOptimized, { d with panicNextOptimized := false })

def link (mode : LinkMode) : Act Device (Handle × Bool) := do
  let h ← track .pipeline
  record (.link h mode)
  let d ← get
  return (h, mode == .optimized || d.fastLinksOptimized)

def acquire (frame : Handle) : Act Device (Except DeviceFailure (Option Handle)) := do
  record (.acquire frame)
  let d ← get
  let script := d.acquireScript.headD .acquired
  set { d with acquireScript := d.acquireScript.tail }
  match script with
  | .acquired | .suboptimal => return .ok (some (← fresh .surfaceImage))
  | .outOfDate => return .ok none
  | .fail f => return .error f

-- Submits a frame's work. Its signals reach their semaphores at once when completion is automatic;
-- otherwise they wait, and the frame is busy, until `completeAll`.
def submit (frame : Handle) (commandBuffers : Nat) (waits signals : List SyncPoint)
    (present : Bool) : Act Device (Except DeviceFailure SubmitStatus) := do
  record (.submit frame commandBuffers waits signals present)
  let d ← get
  let status := d.submitScript.headD (.ok .ok)
  set { d with submitScript := d.submitScript.tail }
  if d.autoComplete then
    for s in signals do advance s.semaphore s.value
  else
    modify fun d => { d with queued := d.queued ++ signals, busy := d.busy ++ [frame] }
  return status

def wait (target : WaitTarget) : Act Device Unit := do
  record (.wait target)
  let d ← get
  match target with
  | .semaphore sem v =>
    unless v ≤ d.value sem do
      throw (.assertion
        s!"MockBackend: timed out waiting for SemaphoreHandle({sem.text}) to reach {v}")
  | .frame f =>
    if d.busy.contains f then
      throw (.assertion s!"MockBackend: timed out waiting for FrameHandle({f.text}) to complete")

def signal (sem : Handle) (value : UInt64) : Act Device Unit := do
  record (.signal sem value)
  advance sem value

def waitIdle : Act Device Unit := do
  record .waitIdle
  completeAll

def liveKinds (d : Device) : List (HandleKind × Nat) :=
  (HandleKind.all.map fun k => (k, (d.live.filter (·.kind == k)).length)).filter (·.2 != 0)

end Device

end RenderCore
