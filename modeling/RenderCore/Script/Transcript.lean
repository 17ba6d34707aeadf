import RenderCore.Script.Session
import RenderCore.Settings.Value
namespace RenderCore.Script

def Fault.kind : Fault → String
  | .fatal e =>
    match e with
    | .settingsParse _ => "Panic"
    | e => Error.kind e
  | .assertion _ => "Panic"

def faultFields (f : Fault) : List (String × Document) :=
  [("error", .str (Fault.kind f)), ("message", .str f.message), ("fatal", .bool true)]

def replyFields : Except String Result → List (String × Document)
  | .ok (.ok v) => [("ok", v)]
  | .ok (.error e) => [("error", .str (Error.kind e)), ("message", .str e.message)]
  | .error text => [("error", .str "DriverError"), ("message", .str text)]

namespace Session

def logSince (start : Nat) : Act Session (List Event) := do
  return ((← get).context.device.log.toList.drop start)

def step (d : Document) : Act Session (Document × Bool) := do
  let start := (← get).context.device.log.size
  let r ← Act.attempt ((Step.decode d |> liftExcept) >>= perform).run
  let events := eventsDoc (← logSince start)
  match r with
  | .ok reply => return (.obj (replyFields reply ++ [("events", events)]), false)
  | .error f => return (.obj (faultFields f ++ [("events", events)]), true)
where
  liftExcept {α : Type} : Decode α → StepM α
    | .ok a => pure a
    | .error e => throw e

def steps : List Document → Act Session (List Document × Bool)
  | [] => return ([], false)
  | d :: rest => do
    let (a, fatal) ← step d
    if fatal then return ([a], true)
    let (more, aborted) ← steps rest
    return (a :: more, aborted)

def settle (x : Act Context Unit) : Act Session (List Fault) := do
  match ← Act.attempt (Act.focus (·.context) (fun s c => { s with context := c }) x) with
  | .ok () => return []
  | .error f => return [f]

def settleAll (timelines : List Nat) : Act Session (List Fault) := do
  let mut faults := []
  for t in timelines do
    faults := faults ++ (← settle (Context.letGo t))
  return faults

def cleanup : Act Session (List Fault) := do
  modify fun s => { s with context.device.holdOptimized := false }
  let mut faults ← settle (Context.device! Device.completeAll)
  if let some f := (← get).context.ring.recording then
    faults := faults ++ (← settle (Context.dropFrame f))
  let s ← get
  faults := faults ++ (← settleAll (s.tickets.toList.filterMap (·.map (·.timeline))))
  faults := faults ++ (← settleAll (s.promises.toList.filterMap (·.map (·.timeline))))
  faults := faults ++ (← settleAll (s.waiters.toList.filterMap (·.map (·.timeline))))
  faults := faults ++
    (← settleAll (s.semaphores.toList.filterMap fun (t, held) => if held then some t else none))
  if !(← get).context.shutDown then
    faults := faults ++ (← settle Context.teardown)
  return faults

end Session

def transcript (request : Document) : Decode Document := do
  let settings : Except Error Settings := match field request "settings" with
    | none => .ok {}
    | some d => Settings.ofDocument d
  match settings with
  | .error e => return failed e
  | .ok settings =>
    let some (.arr items) := field request "steps" | throw "missing field 'steps'"
    let run : Act Session (Except Error Document) := do
      let started ← Act.focus (·.context) (fun s c => { s with context := c })
        (Context.start {} settings)
      if let .error e := started then return .error e
      let init := eventsDoc (← Session.logSince 0)
      let (answers, aborted) ← Session.steps items
      let start := (← get).context.device.log.size
      let faults ← Session.cleanup
      let final := [("events", eventsDoc (← Session.logSince start)),
        ("live", liveDoc (← get).context.device)] ++
        (if faults.isEmpty then [] else [("errors", .arr (faults.map (.obj ∘ faultFields)))])
      return .ok (.obj [("init_events", init), ("steps", .arr answers),
        ("aborted", .bool aborted), ("final", .obj final)])
    match run.run default with
    | .ok (.ok d) _ => return ok d
    | .ok (.error e) _ => return failed e
    | .error f _ => return .obj (faultFields f)

end RenderCore.Script
