import RenderCore.Script.Basic
import RenderCore.Gpu.Shader
import RenderCore.Device.Basic
namespace RenderCore.Script

inductive DestroyerSpec where
  | set (id : Nat)
  | marker (n : UInt64)
deriving Inhabited

inductive WaitSource where
  | semaphore (id : Nat)
  | waiter (id : Nat)
deriving Inhabited

inductive CacheStep where
  | pipelineLayout (stages : List StageInterface)
  | validatePush (layout : Nat) (offset size : UInt32)
  | validateBind (layout : Nat) (first : UInt32) (sets : List (Nat × Nat))
  | poolSizes (layout set : Nat) (bank : UInt32)
  | allocSet (layout set : Nat)
  | releaseSet (set : Nat)
  | writeSet (set : Nat) (binding first : UInt32) (resources : List Resource)
  | bankUsage (layout set : Nat)
  | bankCount (layout set : Nat)
  | destroyPools
  | createPipeline (shader entry : String) (stage : Stage) (layout : Nat) (spec : List UInt32)
  | link (layout : Nat) (libs : List Nat)
  | current (pipeline : Nat)
  | evict (fragment : String)
  | flushRelinks
deriving Inhabited

inductive TimelineStep where
  | semaphore (name : String)
  | promise (sem : Nat)
  | signal (promise : Nat)
  | dropPromise (promise : Nat)
  | signalInfo (sem : Nat) (stage : UInt64)
  | ticketSubmitted (ticket : Nat)
  | dropTicket (ticket : Nat)
  | waiterPending (sem : Nat)
  | waiterCurrent (sem : Nat)
  | poll (waiter : Nat)
  | waitWaiter (waiter : Nat)
  | waiterInfo (waiter : Nat) (stage : UInt64)
  | dropWaiter (waiter : Nat)
  | semState (sem : Nat)
  | semValue (sem : Nat)
  | semWait (sem : Nat)
  | semWaitInfo (sem : Nat) (stage : UInt64)
  | dropSemaphore (sem : Nat)
deriving Inhabited

inductive FrameStep where
  | beginFrame
  | frameInfo
  | surface
  | scratch (name : String) (size : UInt64) (usage : BufferUsage)
  | scratchWrite (scratch : Nat) (offset : UInt64) (len : Nat)
  | commandBuffer (name : String)
  | frameWait (source : WaitSource) (stage : UInt64)
  | frameSignal (ticket : Nat)
  | frameQueueDestroy (d : DestroyerSpec)
  | frameCancel
  | frameEnd (waiter : Option Nat) (destroy : List (Decode DestroyerSpec))
  | frameDrop
deriving Inhabited

inductive RendererStep where
  | queueDestroy (d : DestroyerSpec)
  | resize (width height : UInt32)
  | setFramesInFlight (n : UInt32)
  | waitAll
  | state
  | snapshot
  | shutdown
deriving Inhabited

inductive DeviceStep where
  | autoComplete (on : Bool)
  | completeAll
  | failNext (kind : HandleKind) (f : DeviceFailure)
  | scriptAcquire (s : AcquireScript)
  | scriptSubmit (s : Except DeviceFailure SubmitStatus)
  | fastLinksOptimized (on : Bool)
  | panicNextOptimized
  | holdLinks
  | releaseLinks
  | setSemaphore (sem : Nat) (value : UInt64)
  | history (sem : Nat)
  | live
deriving Inhabited

inductive Step where
  | cache (s : CacheStep)
  | timeline (s : TimelineStep)
  | frame (s : FrameStep)
  | renderer (s : RendererStep)
  | device (s : DeviceStep)
deriving Inhabited

def maxWrite : Nat := 65536

def deviceFailure (d : Document) : Decode DeviceFailure :=
  match d with
  | .str "OutOfHostMemory" => .ok .outOfHostMemory
  | .str "OutOfDeviceMemory" => .ok .outOfDeviceMemory
  | .str "DeviceLost" => .ok .deviceLost
  | .str s => .error s!"unknown backend error '{s}'"
  | _ =>
    match field d "Unsupported", field d "Other" with
    | some (.str s), _ => .ok (.unsupported s)
    | _, some (.str s) => .ok (.other s)
    | _, _ => .error "bad backend error"

def acquireScript (d : Document) : Decode AcquireScript :=
  match d with
  | .str "Acquired" => .ok .acquired
  | .str "Suboptimal" => .ok .suboptimal
  | .str "OutOfDate" => .ok .outOfDate
  | _ => do return .fail (← deviceFailure (← required d "fail"))

def submitScript (d : Document) : Decode (Except DeviceFailure SubmitStatus) :=
  match d with
  | .str "Ok" => .ok (.ok .ok)
  | .str "Suboptimal" => .ok (.ok .suboptimal)
  | .str "OutOfDate" => .ok (.ok .outOfDate)
  | _ => do return .error (← deviceFailure (← required d "fail"))

def destroyerSpec (d : Document) : Decode DestroyerSpec := do
  match field d "set", field d "marker" with
  | some v, _ => return .set (← natOf "set" v)
  | none, some v => return .marker (← natOf "marker" v).toUInt64
  | none, none => .error "destroyer must be \x7bset\x7d or \x7bmarker\x7d"

def Step.decode (d : Document) : Decode Step := do
  let kind ← stringField d "do"
  let id := natField d
  match kind with
  | "pipeline_layout" => return .cache <| .pipelineLayout (← (← arrayField d "stages").mapM stageInterface)
  | "validate_push" =>
    return .cache <| .validatePush (← id "layout") (← word32Field d "offset") (← word32Field d "size")
  | "validate_bind" =>
    return .cache <| .validateBind (← id "layout") (← word32Field d "first_set")
      (← (← arrayField d "sets").mapM (natPair "sets"))
  | "pool_sizes" => return .cache <| .poolSizes (← id "layout") (← id "set") (← word32Field d "bank_size")
  | "alloc_set" => return .cache <| .allocSet (← id "layout") (← id "set")
  | "release_set" => return .cache <| .releaseSet (← id "set")
  | "write_set" =>
    return .cache <| .writeSet (← id "set") (← word32Field d "binding")
      (← word32FieldOr d "first" 0) (← (← arrayField d "resources").mapM resource)
  | "bank_usage" => return .cache <| .bankUsage (← id "layout") (← id "set")
  | "bank_count" => return .cache <| .bankCount (← id "layout") (← id "set")
  | "destroy_pools" => return .cache <| .destroyPools
  | "create_pipeline" =>
    return .cache <| .createPipeline (← stringField d "shader") (← stringField d "entry")
      ⟨← word32Field d "stage"⟩ (← id "layout") (← words32 "spec" (← arrayFieldOr d "spec"))
  | "link" => return .cache <| .link (← id "layout") (← (← arrayField d "libs").mapM (natOf "libs"))
  | "current" => return .cache <| .current (← id "pipeline")
  | "evict" => return .cache <| .evict (← stringField d "fragment")
  | "flush_relinks" => return .cache <| .flushRelinks
  | "semaphore" => return .timeline <| .semaphore (← stringField d "name")
  | "promise" => return .timeline <| .promise (← id "sem")
  | "signal" => return .timeline <| .signal (← id "promise")
  | "drop_promise" => return .timeline <| .dropPromise (← id "promise")
  | "signal_info" => return .timeline <| .signalInfo (← id "sem") (← word64Field d "stage")
  | "ticket_submitted" => return .timeline <| .ticketSubmitted (← id "ticket")
  | "drop_ticket" => return .timeline <| .dropTicket (← id "ticket")
  | "waiter_pending" => return .timeline <| .waiterPending (← id "sem")
  | "waiter_current" => return .timeline <| .waiterCurrent (← id "sem")
  | "poll" => return .timeline <| .poll (← id "waiter")
  | "wait_waiter" => return .timeline <| .waitWaiter (← id "waiter")
  | "waiter_info" => return .timeline <| .waiterInfo (← id "waiter") (← word64Field d "stage")
  | "drop_waiter" => return .timeline <| .dropWaiter (← id "waiter")
  | "sem_state" => return .timeline <| .semState (← id "sem")
  | "sem_value" => return .timeline <| .semValue (← id "sem")
  | "sem_wait" => return .timeline <| .semWait (← id "sem")
  | "sem_wait_info" => return .timeline <| .semWaitInfo (← id "sem") (← word64Field d "stage")
  | "drop_semaphore" => return .timeline <| .dropSemaphore (← id "sem")
  | "begin_frame" => return .frame <| .beginFrame
  | "frame_info" => return .frame <| .frameInfo
  | "surface" => return .frame <| .surface
  | "scratch" =>
    return .frame <| .scratch (← stringField d "name") (← word64Field d "size") ⟨← word32Field d "usage"⟩
  | "scratch_write" =>
    let len ← natField d "len"
    if maxWrite < len then throw "len too large"
    return .frame <| .scratchWrite (← id "scratch") (← word64Field d "offset") len
  | "command_buffer" => return .frame <| .commandBuffer (← stringField d "name")
  | "frame_wait" =>
    let source ← match field d "waiter" with
      | some v => pure (.waiter (← natOf "waiter" v))
      | none => pure (.semaphore (← id "sem"))
    return .frame <| .frameWait source (← word64Field d "stage")
  | "frame_signal" => return .frame <| .frameSignal (← id "ticket")
  | "frame_queue_destroy" => return .frame <| .frameQueueDestroy (← destroyerSpec d)
  | "frame_cancel" => return .frame <| .frameCancel
  | "frame_end" => return .frame <| .frameEnd none ((← arrayFieldOr d "destroy").map destroyerSpec)
  | "frame_end_with_waiter" =>
    let waiter ← match field d "waiter" with
      | none | some .null => pure none
      | some v => pure (some (← natOf "waiter" v))
    return .frame <| .frameEnd waiter ((← arrayFieldOr d "destroy").map destroyerSpec)
  | "frame_drop" => return .frame <| .frameDrop
  | "queue_destroy" => return .renderer <| .queueDestroy (← destroyerSpec d)
  | "resize" => return .renderer <| .resize (← word32Field d "width") (← word32Field d "height")
  | "set_frames_in_flight" => return .renderer <| .setFramesInFlight (← word32Field d "n")
  | "wait_all" => return .renderer <| .waitAll
  | "state" => return .renderer <| .state
  | "snapshot" => return .renderer <| .snapshot
  | "shutdown" => return .renderer <| .shutdown
  | "mock_auto_complete" => return .device <| .autoComplete (← boolField d "on")
  | "mock_complete_all" => return .device <| .completeAll
  | "mock_fail_next" =>
    let name ← stringField d "kind"
    let some kind := HandleKind.ofName? name | throw s!"unknown handle kind '{name}'"
    return .device <| .failNext kind (← deviceFailure (← required d "error"))
  | "mock_acquire" => return .device <| .scriptAcquire (← acquireScript (← required d "script"))
  | "mock_submit" => return .device <| .scriptSubmit (← submitScript (← required d "status"))
  | "mock_fast_links_optimized" => return .device <| .fastLinksOptimized (← boolField d "on")
  | "mock_panic_next_optimized" => return .device <| .panicNextOptimized
  | "mock_hold" => return .device <| .holdLinks
  | "mock_release" => return .device <| .releaseLinks
  | "mock_set_semaphore" => return .device <| .setSemaphore (← id "sem") (← word64Field d "value")
  | "mock_history" => return .device <| .history (← id "sem")
  | "mock_live" => return .device <| .live
  | other => throw s!"unknown step '{other}'"

end RenderCore.Script
