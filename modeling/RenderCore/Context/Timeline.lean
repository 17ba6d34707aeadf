import RenderCore.Context.Basic
namespace RenderCore.Context

def newTimeline (name : String) : Act Context (Except Error Nat) := do
  match ← device! (Device.create .semaphore) with
  | .error f => return .error (.device s!"creating timeline semaphore '{name}'" f)
  | .ok h =>
    let c ← get
    set { c with timelines := c.timelines.push { handle := h, name } }
    return .ok c.timelines.size

def waitFor (i : Nat) (value : UInt64) : Act Context Unit := do
  let t := (← get).timeline i
  unless value ≤ t.observed do
    device! (Device.wait (.semaphore t.handle value))
    modifyTimeline i (·.observe value)

def query (i : Nat) : Act Context UInt64 := do
  let c ← get
  let t := c.timeline i
  modifyTimeline i (·.observe (c.device.value t.handle))
  return ((← get).timeline i).observed

def issue (i : Nat) : Act Context UInt64 := do
  let (value, t) := ((← get).timeline i).issue
  modifyTimeline i fun _ => t
  return value

def hold (i : Nat) : Act Context Unit :=
  modifyTimeline i fun t => { t with holders := t.holders + 1 }

-- One holder of a timeline goes away; after the last one, submitted tickets are waited for and the
-- semaphore is destroyed.
def letGo (i : Nat) : Act Context Unit := do
  modifyTimeline i fun t => { t with holders := t.holders - 1 }
  let t := (← get).timeline i
  if t.holders = 0 then
    waitFor i t.gpuPending
    device! (Device.destroy t.handle)

def promise (i : Nat) : Act Context Promise := do
  let value ← issue i
  modifyTimeline i fun t => { t with cpuPending := max t.cpuPending value }
  hold i
  return ⟨i, value⟩

def signal (p : Promise) : Act Context Unit := do
  let body : Act Context Unit := do
    waitFor p.timeline (p.value - 1)
    let t := (← get).timeline p.timeline
    if p.value ≤ t.observed then
      Act.fail (.misuse (.promiseReached t.name p.value t.observed))
    device! (Device.signal t.handle p.value)
    modifyTimeline p.timeline (·.observe p.value)
  Act.onFault body (letGo p.timeline)
  letGo p.timeline

def signalInfo (i : Nat) (stage : UInt64) : Act Context Ticket := do
  let value ← issue i
  hold i
  return ⟨i, ⟨((← get).timeline i).handle, value, stage⟩⟩

def submitted (t : Ticket) : Act Context Unit := do
  modifyTimeline t.timeline fun s => { s with gpuPending := max s.gpuPending t.point.value }
  letGo t.timeline

def waitInfo (i : Nat) (stage : UInt64) : Act Context SyncPoint := do
  let t := (← get).timeline i
  return ⟨t.handle, t.pending, stage⟩

def waiterPending (i : Nat) : Act Context Waiter := do
  let value := ((← get).timeline i).pending
  hold i
  return ⟨i, value⟩

def waiterCurrent (i : Nat) : Act Context Waiter := do
  let value ← query i
  hold i
  return ⟨i, value⟩

def poll (w : Waiter) : Act Context Bool := do
  if w.value ≤ ((← get).timeline w.timeline).observed then return true
  return w.value ≤ (← query w.timeline)

def waiterInfo (w : Waiter) (stage : UInt64) : Act Context SyncPoint := do
  return ⟨((← get).timeline w.timeline).handle, w.value, stage⟩

end RenderCore.Context
