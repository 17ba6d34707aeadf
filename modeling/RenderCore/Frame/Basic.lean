import RenderCore.Pool.Basic
import RenderCore.Timeline.Basic
namespace RenderCore

inductive Destroyer where
  | release (set : DescriptorSet)
  | destroy (h : Handle)
  | note (id : UInt64)
deriving Inhabited

structure Slot where
  handle : Handle
  waiter : Option Waiter := none
  deferred : List Destroyer := []
  transient : List Handle := []
deriving Inhabited

structure Frame where
  index : Nat
  name : String
  surface : Option Handle := none
  cancelable : Bool := true
  commandBuffers : List Handle := []
  waits : List SyncPoint := []
  signals : List SyncPoint := []
  tickets : List Ticket := []
deriving Inhabited

structure Scratch where
  handle : Handle
  name : String
  size : UInt64
  usage : BufferUsage
deriving Inhabited

structure Ring where
  slots : List Slot
  mailbox : List Destroyer := []
  index : Nat := 0
  absolute : Nat := 0
  len : Nat
  sleeping : Bool := false
  recording : Option Frame := none
deriving Inhabited

end RenderCore
