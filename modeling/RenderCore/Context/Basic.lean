import RenderCore.Device.Basic
import RenderCore.Cache.Object
import RenderCore.Pipeline.Basic
import RenderCore.Frame.Basic
import RenderCore.Settings.Basic
namespace RenderCore

inductive CacheRole where
  | setLayouts
  | pipelineLayouts
  | pipelines
deriving DecidableEq, Inhabited

def CacheRole.name : CacheRole → String
  | .setLayouts => "descriptor_set_layouts"
  | .pipelineLayouts => "pipeline_layouts"
  | .pipelines => "pipelines"

structure Context where
  device : Device
  settings : Settings
  timelines : Array Timeline := #[]
  setLayouts : ObjectCache := { name := CacheRole.setLayouts.name }
  pipelineLayouts : ObjectCache := { name := CacheRole.pipelineLayouts.name }
  pipelines : ObjectCache := { name := CacheRole.pipelines.name }
  pools : Pools
  relinks : Relinks
  ring : Ring
  extent : UInt32 × UInt32 := (0, 0)
  shutDown : Bool := false
deriving Inhabited

namespace Context

def device! {α : Type} (x : Act Device α) : Act Context α :=
  Act.focus (·.device) (fun c d => { c with device := d }) x

def cache (c : Context) : CacheRole → ObjectCache
  | .setLayouts => c.setLayouts
  | .pipelineLayouts => c.pipelineLayouts
  | .pipelines => c.pipelines

def setCache (c : Context) : CacheRole → ObjectCache → Context
  | .setLayouts, o => { c with setLayouts := o }
  | .pipelineLayouts, o => { c with pipelineLayouts := o }
  | .pipelines, o => { c with pipelines := o }

def modifyCache (role : CacheRole) (f : ObjectCache → ObjectCache) : Act Context Unit :=
  modify fun c => c.setCache role (f (c.cache role))

def resolve (role : CacheRole) (k : Key) (context : String)
    (make : Act Context (Except DeviceFailure Handle)) : Act Context (Handle × Outcome) := do
  match (← get).cache role |>.find? k with
  | some h =>
    modifyCache role fun o => { o with hits := o.hits + 1 }
    return (h, .hit)
  | none =>
    modifyCache role fun o => { o with misses := o.misses + 1 }
    match ← make with
    | .ok h =>
      -- the key may have been filled while `make` ran: the first object stays, this one goes
      match (← get).cache role |>.find? k with
      | some winner =>
        modifyCache role fun o => { o with discarded := o.discarded + 1 }
        device! (Device.destroy h)
        return (winner, .discarded)
      | none =>
        modifyCache role (·.insert k h)
        return (h, .created)
    | .error f => Act.fail (.device s!"{context} [{role.name} {k.text}]" f)

def cached (role : CacheRole) (k : Key) (context : String)
    (make : Act Context (Except DeviceFailure Handle)) : Act Context Handle :=
  Prod.fst <$> resolve role k context make

def destroyCache (role : CacheRole) : Act Context Nat := do
  let (entries, o) := ((← get).cache role).drain
  modify (·.setCache role o)
  for (_, h) in entries do device! (Device.destroy h)
  return entries.length

def timeline (c : Context) (i : Nat) : Timeline :=
  c.timelines[i]?.getD default

def modifyTimeline (i : Nat) (f : Timeline → Timeline) : Act Context Unit :=
  modify fun c => { c with timelines := c.timelines.modify i f }

def newSlot (index : Nat) : Act Context (Except Error Slot) := do
  match ← device! Device.createFrame with
  | .ok h => return .ok { handle := h }
  | .error f => return .error (.device s!"creating frame slot {index}" f)

def start (device : Device) (settings : Settings) : Act Context (Except Error Unit) := do
  set ({ device, settings, pools := { bankSize := settings.bankSize },
         relinks := { workers := max 1 settings.relinkWorkers.toNat },
         ring := { slots := [], len := settings.framesInFlight.toNat } } : Context)
  for i in List.range settings.framesInFlight.toNat do
    match ← newSlot i with
    | .ok s => modify fun c => { c with ring.slots := c.ring.slots ++ [s] }
    | .error e => return .error e
  return .ok ()

end Context

end RenderCore
