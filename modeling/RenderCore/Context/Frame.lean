import RenderCore.Context.Timeline
namespace RenderCore.Context

def modifyRing (f : Ring → Ring) : Act Context Unit :=
  modify fun c => { c with ring := f c.ring }

def modifyFrame (f : Frame → Frame) : Act Context Unit :=
  modifyRing fun r => { r with recording := r.recording.map f }

def modifySlot (i : Nat) (f : Slot → Slot) : Act Context Unit :=
  modifyRing fun r => { r with slots := r.slots.modify i f }

def slot (c : Context) (i : Nat) : Slot :=
  c.ring.slots[i]?.getD default

def runDestroyer : Destroyer → Act Context Unit
  | .release s => modify fun c => { c with pools := c.pools.release s }
  | .destroy h => device! (Device.destroy h)
  | .note id => device! (Device.record (.note id))

def runDestroyers (ds : List Destroyer) : Act Context Nat := do
  for d in ds do runDestroyer d
  return ds.length

-- The waiter is held while it is waited for, so a fault in the wait lets it go while unwinding.
def awaitSlot (s : Slot) : Act Context Unit :=
  match s.waiter with
  | some w => do
    Act.onFault (waitFor w.timeline w.value) (letGo w.timeline)
    letGo w.timeline
  | none => device! (Device.wait (.frame s.handle))

def destroyTransient (hs : List Handle) : Act Context Unit := do
  for h in hs do device! (Device.destroy h)

def reclaim (s : Slot) : Act Context Nat := do
  awaitSlot s
  destroyTransient s.transient
  runDestroyers s.deferred

-- The waiter is taken out first and the objects and destroyers each as their turn comes, so a fault
-- leaves the rest in the slot.
def waitSlot (i : Nat) : Act Context Nat := do
  let s := slot (← get) i
  modifySlot i fun s => { s with waiter := none }
  awaitSlot s
  modifySlot i fun s => { s with transient := [] }
  destroyTransient s.transient
  modifySlot i fun s => { s with deferred := [] }
  runDestroyers s.deferred

def destroySlot (s : Slot) : Act Context Nat := do
  let n ← reclaim s
  device! (Device.destroy s.handle)
  return n

def dropSlots (slots : List Slot) : Act Context Unit := do
  for s in slots do
    if let some w := s.waiter then letGo w.timeline

-- Destroys slots taken out of the ring in order; when one faults, the slots after it are dropped.
def destroySlots : List Slot → Act Context Nat
  | [] => return 0
  | s :: rest => do
    let n ← Act.onFault (destroySlot s) (dropSlots rest)
    return n + (← destroySlots rest)

def beginFrame : Act Context Frame := do
  if (← get).ring.recording.isSome then Act.fail (.misuse .beginWhileRecording)
  let i := (← get).ring.index
  discard <| waitSlot i
  let name := s!"frame_{i}"
  device! (Device.record (.beginFrame (slot (← get) i).handle))
  let f : Frame := { index := i, name }
  modifyRing fun r => { r with recording := some f }
  return f

def frameHandle (c : Context) (f : Frame) : Handle :=
  (slot c f.index).handle

-- The surface image of the frame, acquired on first use; none while the ring sleeps, and an
-- out-of-date surface puts the ring to sleep.
def surface (f : Frame) : Act Context (Option Handle) := do
  if (← get).ring.sleeping then return none
  if f.surface.isSome then return f.surface
  let h := frameHandle (← get) f
  device! (Device.wait (.frame h))
  match ← device! (Device.acquire h) with
  | .error e => Act.fail (.device s!"acquiring the surface for {f.name}" e)
  | .ok none =>
    modifyRing fun r => { r with sleeping := true }
    return none
  | .ok (some image) =>
    modifyFrame fun f => { f with surface := some image, cancelable := false }
    return some image

def scratch (f : Frame) (name : String) (size : UInt64) (usage : BufferUsage) :
    Act Context Scratch := do
  let name := s!"{f.name}_{name}"
  match ← device! (Device.create .scratch) with
  | .error e =>
    Act.fail (.device s!"creating scratch buffer {name} ({size} bytes, {usage.debugText})" e)
  | .ok h =>
    modifySlot f.index fun s => { s with transient := s.transient ++ [h] }
    modifyFrame fun f => { f with cancelable := false }
    return { handle := h, name, size, usage }

def writeScratch (b : Scratch) (offset : UInt64) (len : Nat) : Act Context (Except Error Unit) := do
  if b.size.toNat < offset.toNat + len then
    return .error (.invalid (.scratchOverflow len offset b.name b.size))
  device! (Device.record (.writeBuffer b.handle offset len))
  return .ok ()

def commandBuffer (f : Frame) (name : String) : Act Context Handle := do
  let name := s!"{f.name}_{name}"
  match ← device! (Device.create .commandBuffer) with
  | .error e => Act.fail (.device s!"creating command buffer {name}" e)
  | .ok h =>
    modifySlot f.index fun s => { s with transient := s.transient ++ [h] }
    modifyFrame fun f =>
      { f with cancelable := false, commandBuffers := f.commandBuffers ++ [h] }
    return h

def waitPoint (p : SyncPoint) : Act Context Unit :=
  modifyFrame fun f => { f with waits := f.waits ++ [p] }

def signalTicket (t : Ticket) : Act Context Unit :=
  modifyFrame fun f =>
    { f with signals := f.signals ++ [t.point], tickets := f.tickets ++ [t], cancelable := false }

def deferDestroy (f : Frame) (d : Destroyer) : Act Context Unit :=
  modifySlot f.index fun s => { s with deferred := s.deferred ++ [d] }

def closeUnsubmitted (f : Frame) : Act Context Unit := do
  device! (Device.record (.endFrame (frameHandle (← get) f)))
  let w := (slot (← get) f.index).waiter
  modifySlot f.index fun s => { s with waiter := none }
  if let some w := w then letGo w.timeline

def dropTickets (f : Frame) : Act Context Unit := do
  modifyRing fun r => { r with recording := none }
  for t in f.tickets do letGo t.timeline

def abandon (f : Frame) : Act Context Unit := do
  if f.cancelable then closeUnsubmitted f
  else device! (Device.record (.endFrame (frameHandle (← get) f)))
  dropTickets f

def cancel (f : Frame) : Act Context Unit := do
  if !f.cancelable then
    Act.onFault (Act.fail (.misuse (.cancelAfterResources f.name))) (abandon f)
  closeUnsubmitted f
  dropTickets f

def endFrame (f : Frame) (waiter : Option Waiter) (destroyers : List Destroyer) :
    Act Context Unit := do
  let unwind : Act Context Unit := do
    if let some w := waiter then letGo w.timeline
    abandon f
  Act.onFault (do
    if f.surface.isNone ∧ waiter.isNone then
      Act.fail (.misuse (.endWithoutSurfaceOrWaiter f.name))
    let h := frameHandle (← get) f
    if f.surface.isSome ∨ !f.commandBuffers.isEmpty ∨ !f.signals.isEmpty then
      match ← device! (Device.submit h f.commandBuffers.length f.waits f.signals
          f.surface.isSome) with
      | .error e => Act.fail (.device s!"submitting {f.name}" e)
      | .ok status =>
        modifyRing fun r => { r with recording := r.recording.map ({ · with tickets := [] }) }
        for t in f.tickets do submitted t
        if status ≠ .ok then modifyRing fun r => { r with sleeping := true }) unwind
  let h := frameHandle (← get) f
  device! (Device.record (.endFrame h))
  let mailbox := (← get).ring.mailbox
  modifyRing fun r => { r with mailbox := [], recording := none }
  modifySlot f.index fun s =>
    { s with deferred := s.deferred ++ mailbox ++ destroyers, waiter := waiter }
  modifyRing fun r =>
    { r with index := (f.index + 1) % r.slots.length, absolute := r.absolute + 1 }

def dropFrame (f : Frame) : Act Context Unit := do
  if f.cancelable then
    closeUnsubmitted f
    dropTickets f
  else
    Act.onFault (Act.fail (.misuse (.droppedUnended f.name))) (dropTickets f)

def queueDestroy (d : Destroyer) : Act Context Unit :=
  modifyRing fun r => { r with mailbox := r.mailbox ++ [d] }

def waitAll : Act Context (Except Error Nat) := do
  if (← get).ring.recording.isSome then return .error (.misuse .waitWhileRecording)
  let mut n := 0
  for i in List.range (← get).ring.slots.length do
    n := n + (← waitSlot i)
  let mailbox := (← get).ring.mailbox
  modifyRing fun r => { r with mailbox := [] }
  return .ok (n + (← runDestroyers mailbox))

-- Gives the ring `n` slots: every slot is waited for, extra slots are taken off the end and destroyed
-- one at a time, and missing ones made; the ring then starts again at its first slot.
def resizeRing (n : Nat) : Act Context (Except Error Unit) := do
  if n = 0 then return .error (.invalid .ringEmpty)
  if (← get).ring.recording.isSome then return .error (.misuse .resizeWhileRecording)
  for i in List.range (← get).ring.slots.length do
    discard <| waitSlot i
  let slots := (← get).ring.slots
  for s in (slots.drop n).reverse do
    modifyRing fun r => { r with slots := r.slots.dropLast }
    discard <| destroySlot s
  for i in List.range' slots.length (n - slots.length) do
    match ← newSlot i with
    | .ok s => modifyRing fun r => { r with slots := r.slots ++ [s] }
    | .error e => return .error e
  modifyRing fun r => { r with index := 0, len := n }
  return .ok ()

def destroyRing : Act Context Nat := do
  let slots := (← get).ring.slots
  modifyRing fun r => { r with slots := [] }
  let n ← destroySlots slots
  modifyRing fun r => { r with len := 0 }
  let mailbox := (← get).ring.mailbox
  modifyRing fun r => { r with mailbox := [] }
  return n + (← runDestroyers mailbox)

end RenderCore.Context
