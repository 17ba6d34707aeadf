import RenderCore.Context.Basic
namespace RenderCore.Context

def modifyPools (f : Pools → Pools) : Act Context Unit :=
  modify fun c => { c with pools := f c.pools }

def newBank (layout : SetLayout) (index : Nat) : Act Context (Except Error Bank) := do
  let p := (← get).pools
  match layout.poolSizes p.bankSize with
  | .error v => return .error (.invalid v)
  | .ok sizes =>
    let name := s!"{layout.name}_bank_{index}_maxSets_{p.bankSize}"
    match ← device! (Device.create .pool) with
    | .error f =>
      return .error (.device s!"creating descriptor pool {name} ({PoolSize.listText sizes})" f)
    | .ok h =>
      let id := (← get).pools.nextBankId
      modifyPools fun p => { p with nextBankId := id + 1 }
      return .ok { id, name := s!"bank_{index}", handle := h, len := 0, cap := p.bankSize }

def bankFor (layout : SetLayout) : Act Context (Except Error Nat) := do
  modifyPools fun p => p.setBanks layout.key (p.banks layout.key)
  let banks := (← get).pools.banks layout.key
  match banks.findIdx? (·.available) with
  | some i => return .ok i
  | none =>
    match ← newBank layout banks.length with
    | .error e => return .error e
    | .ok b =>
      modifyPools fun p => p.setBanks layout.key (banks ++ [b])
      return .ok banks.length

def allocate (layout : SetLayout) : Act Context (Except Error DescriptorSet) := do
  let index ← bankFor layout
  match index with
  | .error e => return .error e
  | .ok i =>
    let banks := (← get).pools.banks layout.key
    let b := banks[i]?.getD default
    match b.free.getLast? with
    | some h =>
      modifyPools fun p => p.setBanks layout.key (banks.set i { b with free := b.free.dropLast })
      return .ok { layout, handle := h, bank := i, bankId := b.id }
    | none =>
      let name := s!"{layout.name}_{b.name}_set_{b.len}"
      match ← device! (Device.create .set (some b.handle)) with
      | .error f => return .error (.device s!"allocating descriptor set {name}" f)
      | .ok h =>
        modifyPools fun p => p.setBanks layout.key (banks.set i { b with len := b.len + 1 })
        return .ok { layout, handle := h, bank := i, bankId := b.id }

def checkWrite (s : DescriptorSet) (binding first : UInt32) (resources : List Resource) :
    Except Invalid DescriptorType := do
  let slots := s.layout.slots.length
  if slots ≤ binding.toNat then throw (.writeBindingPastEnd binding s.layout.name slots)
  let some b := s.layout.binding? binding.toNat
    | throw (.writeBindingEmpty binding s.layout.name)
  if resources.isEmpty then throw .writeNothing
  if b.count.toNat < first.toNat + resources.length then
    throw (.writeOverflow resources.length first binding b.count)
  if let some bad := resources.find? (!·.fits b.type) then throw (.writeMismatch bad b.type)
  return b.type

def write (s : DescriptorSet) (binding first : UInt32) (resources : List Resource) :
    Act Context (Except Error Unit) := do
  match checkWrite s binding first resources with
  | .error v => return .error (.invalid v)
  | .ok _ =>
    device! (Device.record (.updateSet s.handle binding first resources.length))
    return .ok ()

def destroyPools : Act Context Nat := do
  let pools := (← get).pools.pools
  modifyPools fun p => { p with pools := [] }
  let banks := pools.flatMap (·.2)
  for b in banks do device! (Device.destroy b.handle)
  return banks.length

end RenderCore.Context
