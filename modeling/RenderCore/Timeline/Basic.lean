import RenderCore.Device.Event
namespace RenderCore

structure Timeline where
  handle : Handle
  name : String
  pending : UInt64 := 0
  cpuPending : UInt64 := 0
  gpuPending : UInt64 := 0
  observed : UInt64 := 0
  holders : Nat := 1
deriving Inhabited

namespace Timeline

def observe (t : Timeline) (value : UInt64) : Timeline :=
  { t with observed := max t.observed value }

def issue (t : Timeline) : UInt64 × Timeline :=
  let value := t.pending + 1
  (value, { t with pending := value })

end Timeline

structure Promise where
  timeline : Nat
  value : UInt64
deriving Inhabited

structure Ticket where
  timeline : Nat
  point : SyncPoint
deriving Inhabited

structure Waiter where
  timeline : Nat
  value : UInt64
deriving Inhabited

end RenderCore
