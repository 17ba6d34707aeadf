import RenderCore.Layout.Basic
namespace RenderCore

structure Bank where
  id : Nat
  name : String
  handle : Handle
  len : UInt32
  cap : UInt32
  free : List Handle := []
deriving Inhabited

def Bank.available (b : Bank) : Bool :=
  !b.free.isEmpty || b.len < b.cap

structure Pools where
  bankSize : UInt32
  nextBankId : Nat := 1
  pools : List (Key × List Bank) := []
deriving Inhabited

structure DescriptorSet where
  layout : SetLayout
  handle : Handle
  bank : Nat
  bankId : Nat
deriving Inhabited

namespace Pools

def banks (p : Pools) (k : Key) : List Bank :=
  (p.pools.lookup k).getD []

def setBanks (p : Pools) (k : Key) (banks : List Bank) : Pools :=
  if (p.pools.lookup k).isSome then
    { p with pools := p.pools.map fun e => if e.1 = k then (k, banks) else e }
  else { p with pools := p.pools ++ [(k, banks)] }

def release (p : Pools) (s : DescriptorSet) : Pools :=
  match p.pools.lookup s.layout.key with
  | none => p
  | some banks =>
    match banks[s.bank]? with
    | some b =>
      if b.id = s.bankId then
        p.setBanks s.layout.key (banks.set s.bank { b with free := b.free ++ [s.handle] })
      else p
    | none => p

def usage (p : Pools) (k : Key) : List (UInt32 × UInt32 × Nat) :=
  (p.banks k).map fun b => (b.len, b.cap, b.free.length)

end Pools

end RenderCore
