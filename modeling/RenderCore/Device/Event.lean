import RenderCore.Device.Handle
namespace RenderCore

inductive LinkMode where
  | fast
  | optimized
deriving DecidableEq, Inhabited

def LinkMode.name : LinkMode → String
  | .fast => "Fast"
  | .optimized => "Optimized"

structure SyncPoint where
  semaphore : Handle
  value : UInt64
  stage : UInt64
deriving DecidableEq, Inhabited

inductive WaitTarget where
  | semaphore (h : Handle) (value : UInt64)
  | frame (h : Handle)
deriving DecidableEq, Inhabited

inductive Event where
  | create (h : Handle)
  | destroy (h : Handle)
  | link (h : Handle) (mode : LinkMode)
  | updateSet (set : Handle) (binding first : UInt32) (count : Nat)
  | writeBuffer (buffer : Handle) (offset : UInt64) (len : Nat)
  | beginFrame (frame : Handle)
  | endFrame (frame : Handle)
  | acquire (frame : Handle)
  | submit (frame : Handle) (commandBuffers : Nat) (waits signals : List SyncPoint)
      (present : Bool)
  | wait (target : WaitTarget)
  | signal (semaphore : Handle) (value : UInt64)
  | waitIdle
  | note (id : UInt64)
deriving DecidableEq, Inhabited

end RenderCore
