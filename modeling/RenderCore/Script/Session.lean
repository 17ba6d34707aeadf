import RenderCore.Script.Step
import RenderCore.Script.Encode
import RenderCore.Context.Layout
import RenderCore.Context.Renderer
namespace RenderCore.Script

structure Session where
  context : Context
  layouts : Array PipelineLayout := #[]
  sets : Array (Option DescriptorSet) := #[]
  pipelines : Array Pipeline := #[]
  semaphores : Array (Nat × Bool) := #[]
  promises : Array (Option Promise) := #[]
  tickets : Array (Option Ticket) := #[]
  waiters : Array (Option Waiter) := #[]
  scratch : Array Scratch := #[]
deriving Inhabited

abbrev StepM := ExceptT String (Act Session)

abbrev Result := Except Error Document

namespace Session

def ctx {α : Type} (x : Act Context α) : StepM α :=
  liftM (Act.focus (·.context) (fun s c => { s with context := c }) x : Act Session α)

def change (f : Session → Session) : StepM Unit :=
  liftM (modify f : Act Session Unit)

def read : StepM Session :=
  liftM (get : Act Session Session)

def renderer : StepM Unit := do
  if (← read).context.shutDown then throw "runtime is shut down"

def recording : StepM Frame := do
  match (← read).context.ring.recording with
  | some f => return f
  | none => throw "no frame is recording"

def found {α : Type} (v : Option α) (missing : String) : StepM α :=
  match v with
  | some a => pure a
  | none => throw missing

def layout (i : Nat) : StepM PipelineLayout := do
  found (← read).layouts[i]? s!"no layout {i}"

def setLayout (i s : Nat) : StepM SetLayout := do
  found (← layout i).sets[s]? s!"no set {s} in layout {i}"

def liveSet (i : Nat) : StepM DescriptorSet := do
  found ((← read).sets[i]?.join) s!"no live descriptor set {i}"

def takeSet (i : Nat) : StepM DescriptorSet := do
  let s ← liveSet i
  change fun x => { x with sets := x.sets.setIfInBounds i none }
  return s

def pipeline (i : Nat) : StepM Pipeline := do
  found (← read).pipelines[i]? s!"no pipeline {i}"

def semaphore (i : Nat) : StepM Nat := do
  match (← read).semaphores[i]? with
  | some (t, true) => return t
  | _ => throw s!"no live semaphore {i}"

def semaphoreHandle (i : Nat) : StepM Handle := do
  let s ← read
  let (t, _) ← found s.semaphores[i]? s!"no semaphore {i}"
  return (s.context.timeline t).handle

def promise (i : Nat) : StepM Promise := do
  found ((← read).promises[i]?.join) s!"no live promise {i}"

def takePromise (i : Nat) : StepM Promise := do
  let p ← promise i
  change fun x => { x with promises := x.promises.setIfInBounds i none }
  return p

def ticket (i : Nat) : StepM Ticket := do
  found ((← read).tickets[i]?.join) s!"no live ticket {i}"

def takeTicket (i : Nat) : StepM Ticket := do
  let t ← ticket i
  change fun x => { x with tickets := x.tickets.setIfInBounds i none }
  return t

def waiter (i : Nat) : StepM Waiter := do
  found ((← read).waiters[i]?.join) s!"no live waiter {i}"

def takeWaiter (i : Nat) : StepM Waiter := do
  let w ← waiter i
  change fun x => { x with waiters := x.waiters.setIfInBounds i none }
  return w

def scratchBuffer (i : Nat) : StepM Scratch := do
  found (← read).scratch[i]? s!"no scratch buffer {i}"

def destroyer : DestroyerSpec → StepM Destroyer
  | .set i => return .release (← takeSet i)
  | .marker n => return .note n

def destroyers (items : List (Decode DestroyerSpec)) : StepM (List Destroyer) :=
  items.mapM fun
    | .ok d => destroyer d
    | .error e => throw e

def device (f : Device → Device) : StepM Result := do
  ctx (modify fun c => { c with device := f c.device })
  return .ok .null

def unit : Except Error Unit → Result
  | .ok () => .ok .null
  | .error e => .error e

def poolSizeDoc (p : PoolSize) : Document :=
  .obj [("type", .str p.type.name), ("count", .nat p.count.toNat)]

def performCache : CacheStep → StepM Result
  | .pipelineLayout stages => do
    renderer
    match ← ctx (Context.pipelineLayout stages) with
    | .error e => return .error e
    | .ok l =>
      let id := (← read).layouts.size
      change fun s => { s with layouts := s.layouts.push l }
      return .ok (pipelineLayoutDoc id l)
  | .validatePush i offset size => do
    return unit (((← layout i).validatePush offset size).mapError .invalid)
  | .validateBind i first sets => do
    let l ← layout i
    let sets ← sets.mapM fun (li, si) => setLayout li si
    return unit ((l.validateBind first sets).mapError .invalid)
  | .poolSizes i s bank => do
    match (← setLayout i s).poolSizes bank with
    | .ok sizes => return .ok (.arr (sizes.map poolSizeDoc))
    | .error v => return .error (.invalid v)
  | .allocSet i s => do
    renderer
    let l ← setLayout i s
    match ← ctx (Context.allocate l) with
    | .error e => return .error e
    | .ok set =>
      let id := (← read).sets.size
      change fun x => { x with sets := x.sets.push (some set) }
      return .ok (.obj [("id", .nat id), ("handle", handleDoc set.handle), ("bank", .nat set.bank)])
  | .releaseSet i => do
    let s ← takeSet i
    ctx (Context.runDestroyer (.release s))
    return .ok .null
  | .writeSet i binding first resources => do
    let s ← liveSet i
    return unit (← ctx (Context.write s binding first resources))
  | .bankUsage i s => do
    renderer
    let l ← setLayout i s
    let usage := (← read).context.pools.usage l.key
    return .ok (.arr (usage.map fun (len, cap, free) =>
      .arr [.nat len.toNat, .nat cap.toNat, .nat free]))
  | .bankCount i s => do
    renderer
    let l ← setLayout i s
    return .ok (.nat ((← read).context.pools.banks l.key).length)
  | .destroyPools => do
    renderer
    return .ok (.nat (← ctx Context.destroyPools))
  | .createPipeline shader entry stage i spec => do
    renderer
    let layout ← layout i
    let p ← ctx (Context.createPipeline { shader, entry, stage, layout, spec })
    let id := (← read).pipelines.size
    change fun s => { s with pipelines := s.pipelines.push p }
    return .ok (.obj [("id", .nat id), ("key", .str p.key.text), ("handle", handleDoc p.handle)])
  | .link i libs => do
    renderer
    let layout ← layout i
    let libs ← libs.mapM pipeline
    let p ← ctx (Context.link layout libs)
    unless (← read).context.device.holdOptimized do ctx Context.flushRelinks
    let id := (← read).pipelines.size
    change fun s => { s with pipelines := s.pipelines.push p }
    return .ok (.obj [("id", .nat id), ("key", .str p.key.text), ("handle", handleDoc p.handle)])
  | .current i => do
    renderer
    let p ← pipeline i
    return .ok (optionHandleDoc (← ctx (Context.current p)))
  | .evict fragment => do
    renderer
    return .ok (.nat (← ctx (Context.evict fragment)))
  | .flushRelinks => do
    renderer
    ctx Context.flushRelinks
    return .ok .null

def performTimeline : TimelineStep → StepM Result
  | .semaphore name => do
    renderer
    let t ← ctx (do Act.orFail (← Context.newTimeline name))
    let id := (← read).semaphores.size
    change fun s => { s with semaphores := s.semaphores.push (t, true) }
    return .ok (.obj [("id", .nat id), ("handle", handleDoc ((← read).context.timeline t).handle)])
  | .promise i => do
    let p ← ctx (Context.promise (← semaphore i))
    let id := (← read).promises.size
    change fun s => { s with promises := s.promises.push (some p) }
    return .ok (.obj [("id", .nat id), ("value", wordDoc p.value)])
  | .signal i => do
    ctx (Context.signal (← takePromise i))
    return .ok .null
  | .dropPromise i => do
    ctx (Context.letGo (← takePromise i).timeline)
    return .ok .null
  | .signalInfo i stage => do
    let t ← ctx (Context.signalInfo (← semaphore i) stage)
    let id := (← read).tickets.size
    change fun s => { s with tickets := s.tickets.push (some t) }
    return .ok (.obj [("id", .nat id), ("value", wordDoc t.point.value), ("info", pointDoc t.point)])
  | .ticketSubmitted i => do
    ctx (Context.submitted (← takeTicket i))
    return .ok .null
  | .dropTicket i => do
    ctx (Context.letGo (← takeTicket i).timeline)
    return .ok .null
  | .waiterPending i => do newWaiter (Context.waiterPending (← semaphore i))
  | .waiterCurrent i => do newWaiter (Context.waiterCurrent (← semaphore i))
  | .poll i => do
    return .ok (.bool (← ctx (Context.poll (← waiter i))))
  | .waitWaiter i => do
    let w ← waiter i
    ctx (Context.waitFor w.timeline w.value)
    return .ok .null
  | .waiterInfo i stage => do
    return .ok (pointDoc (← ctx (Context.waiterInfo (← waiter i) stage)))
  | .dropWaiter i => do
    ctx (Context.letGo (← takeWaiter i).timeline)
    return .ok .null
  | .semState i => do
    let t := (← read).context.timeline (← semaphore i)
    return .ok (.obj [("name", .str t.name), ("observed", wordDoc t.observed),
      ("pending", wordDoc t.pending)])
  | .semValue i => do
    return .ok (wordDoc (← ctx (Context.query (← semaphore i))))
  | .semWait i => do
    let t ← semaphore i
    ctx (Context.waitFor t ((← read).context.timeline t).pending)
    return .ok .null
  | .semWaitInfo i stage => do
    return .ok (pointDoc (← ctx (Context.waitInfo (← semaphore i) stage)))
  | .dropSemaphore i => do
    let t ← semaphore i
    change fun s => { s with semaphores := s.semaphores.setIfInBounds i (t, false) }
    ctx (Context.letGo t)
    return .ok .null
where
  newWaiter (make : Act Context Waiter) : StepM Result := do
    let w ← ctx make
    let id := (← read).waiters.size
    change fun s => { s with waiters := s.waiters.push (some w) }
    return .ok (.obj [("id", .nat id), ("value", wordDoc w.value)])

def performFrame : FrameStep → StepM Result
  | .beginFrame => do
    renderer
    let f ← ctx Context.beginFrame
    return .ok (frameDoc (← read).context f)
  | .frameInfo => do
    let f ← recording
    return .ok (frameDoc (← read).context f)
  | .surface => do
    return .ok (optionHandleDoc (← ctx (Context.surface (← recording))))
  | .scratch name size usage => do
    let b ← ctx (Context.scratch (← recording) name size usage)
    let id := (← read).scratch.size
    change fun s => { s with scratch := s.scratch.push b }
    return .ok (.obj [("id", .nat id), ("handle", handleDoc b.handle), ("size", wordDoc b.size),
      ("usage", .nat b.usage.bits.toNat)])
  | .scratchWrite i offset len => do
    return unit (← ctx (Context.writeScratch (← scratchBuffer i) offset len))
  | .commandBuffer name => do
    return .ok (handleDoc (← ctx (Context.commandBuffer (← recording) name)))
  | .frameWait source stage => do
    let _ ← recording
    let p ← match source with
      | .semaphore i => do ctx (Context.waitInfo (← semaphore i) stage)
      | .waiter i => do ctx (Context.waiterInfo (← waiter i) stage)
    ctx (Context.waitPoint p)
    return .ok (pointDoc p)
  | .frameSignal i => do
    let _ ← recording
    ctx (Context.signalTicket (← takeTicket i))
    return .ok .null
  | .frameQueueDestroy d => do
    let f ← recording
    ctx (Context.deferDestroy f (← destroyer d))
    return .ok .null
  | .frameCancel => do
    ctx (Context.cancel (← recording))
    return .ok .null
  | .frameEnd w ds => do
    let f ← recording
    let w ← match w with
      | some i => some <$> waiter i
      | none => pure none
    let ds ← destroyers ds
    ctx do
      if let some w := w then Context.hold w.timeline
      Context.endFrame f w ds
    return .ok .null
  | .frameDrop => do
    ctx (Context.dropFrame (← recording))
    return .ok .null

def performRenderer : RendererStep → StepM Result
  | .queueDestroy d => do
    renderer
    ctx (Context.queueDestroy (← destroyer d))
    return .ok .null
  | .resize width height => do
    renderer
    ctx (Context.resize width height)
    return .ok .null
  | .setFramesInFlight n => do
    renderer
    return unit (← ctx (Context.setFramesInFlight n))
  | .waitAll => do
    renderer
    return (← ctx Context.waitAll).map (.nat ·)
  | .state => do
    renderer
    return .ok (stateDoc (← read).context)
  | .snapshot => do
    renderer
    return .ok (snapshotDoc (← read).context)
  | .shutdown => do
    renderer
    if (← read).context.ring.recording.isSome then
      throw "cannot shut down while a frame is recording"
    ctx Context.teardown
    return .ok .null

def performDevice : DeviceStep → StepM Result
  | .autoComplete on => device fun d => { d with autoComplete := on }
  | .completeAll => do
    ctx (Context.device! Device.completeAll)
    return .ok .null
  | .failNext kind f => device fun d => { d with failNext := some (kind, f) }
  | .scriptAcquire s => device fun d => { d with acquireScript := d.acquireScript ++ [s] }
  | .scriptSubmit s => device fun d => { d with submitScript := d.submitScript ++ [s] }
  | .fastLinksOptimized on => device fun d => { d with fastLinksOptimized := on }
  | .panicNextOptimized => device fun d => { d with panicNextOptimized := true }
  | .holdLinks => device fun d => { d with holdOptimized := true }
  | .releaseLinks => do
    renderer
    discard <| device fun d => { d with holdOptimized := false }
    ctx Context.flushRelinks
    return .ok .null
  | .setSemaphore i value => do
    let h ← semaphoreHandle i
    ctx (Context.device! (Device.advance h value))
    return .ok .null
  | .history i => do
    let g := (← read).context.device.gauge (← semaphoreHandle i)
    return .ok (.obj [("value", wordDoc g.value), ("history", .arr (g.history.map wordDoc))])
  | .live => do
    return .ok (liveDoc (← read).context.device)

def perform : Step → StepM Result
  | .cache s => performCache s
  | .timeline s => performTimeline s
  | .frame s => performFrame s
  | .renderer s => performRenderer s
  | .device s => performDevice s

end Session

end RenderCore.Script
