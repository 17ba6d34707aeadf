import RenderCore.Key.Basic
import RenderCore.Device.Handle
namespace RenderCore

inductive Outcome where
  | hit
  | created
  | discarded
deriving DecidableEq, Repr

structure ObjectCache where
  name : String
  entries : List (Key × Handle) := []
  hits : Nat := 0
  misses : Nat := 0
  discarded : Nat := 0
deriving Inhabited

namespace ObjectCache

def find? (c : ObjectCache) (k : Key) : Option Handle :=
  c.entries.lookup k

def size (c : ObjectCache) : Nat := c.entries.length

def insert (c : ObjectCache) (k : Key) (h : Handle) : ObjectCache :=
  { c with entries := c.entries ++ [(k, h)] }

def replaceIf (c : ObjectCache) (k : Key) (expected new : Handle) : Bool × ObjectCache :=
  if c.find? k = some expected then
    (true, { c with entries := c.entries.map fun e => if e.1 = k then (k, new) else e })
  else (false, c)

def remove (c : ObjectCache) (k : Key) : Option Handle × ObjectCache :=
  (c.find? k, { c with entries := c.entries.filter (·.1 != k) })

def removeMatching (c : ObjectCache) (p : Key → Bool) : List (Key × Handle) × ObjectCache :=
  (c.entries.filter (p ·.1), { c with entries := c.entries.filter (!p ·.1) })

def drain (c : ObjectCache) : List (Key × Handle) × ObjectCache :=
  (c.entries, { c with entries := [] })

def sortedEntries (c : ObjectCache) : List (Key × Handle) :=
  c.entries.mergeSort fun a b => Key.compareText a.1 b.1 != .gt

end ObjectCache

end RenderCore
