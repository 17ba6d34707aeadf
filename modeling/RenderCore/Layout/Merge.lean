import RenderCore.Layout.Basic
namespace RenderCore

structure MergedLayout where
  push : Option PushBlock := none
  sets : List (List (Option LayoutBinding)) := []
deriving Inhabited

def padTo {α : Type} (n : Nat) (fill : α) (xs : List α) : List α :=
  xs ++ List.replicate (n - xs.length) fill

def mergePush (info : StageInterface) (push : Option PushBlock) :
    Except Invalid (Option PushBlock) :=
  let pc := info.layout.push
  if pc.size = 0 then .ok push
  else match push with
    | none => .ok (some ⟨info.stage, pc.offset, pc.size⟩)
    | some b =>
      if b.offset ≠ pc.offset ∨ b.size ≠ pc.size then
        .error (.pushInconsistent b.stages b.offset b.size info.stage pc.offset pc.size)
      else .ok (some { b with stages := b.stages ||| info.stage })

def mergeSlots (info : StageInterface) (set : Nat) :
    Nat → List ShaderBinding → List (Option LayoutBinding) →
      Except Invalid (List (Option LayoutBinding))
  | _, [], slots => .ok slots
  | binding, r :: rest, slots => do
    let count ← match r.count.resolve info.specConstants with
      | .ok c => pure c
      | .error e => throw (.bindingUnresolved set binding e)
    if count = 0 then mergeSlots info set (binding + 1) rest slots
    else
      let current := (slots[binding]?).join
      let stages := match current with
        | some c => c.stages ||| info.stage
        | none => info.stage
      if let some c := current then
        if c.type ≠ r.type ∨ c.count ≠ count then
          throw (.bindingInconsistent set binding c.type c.count c.stages r.type count info.stage)
      mergeSlots info set (binding + 1) rest (slots.set binding (some ⟨stages, r.type, count⟩))

def mergeSets (info : StageInterface) :
    Nat → List (List ShaderBinding) → List (List (Option LayoutBinding)) →
      Except Invalid (List (List (Option LayoutBinding)))
  | _, [], sets => .ok sets
  | set, bindings :: rest, sets => do
    let slots := padTo bindings.length none (sets[set]?.getD [])
    let slots ← mergeSlots info set 0 bindings slots
    mergeSets info (set + 1) rest (sets.set set slots)

def mergeStage (merged : MergedLayout) (index : Nat) (info : StageInterface) :
    Except Invalid MergedLayout := do
  match info.layout.push.check with
  | .ok () => pure ()
  | .error e => throw (.stageInvalid index info.stage e)
  let push ← mergePush info merged.push
  let sets := padTo info.layout.sets.length [] merged.sets
  let sets ← mergeSets info 0 info.layout.sets sets
  return { push, sets }

def merge (stages : List StageInterface) : Except Invalid MergedLayout :=
  stages.zipIdx.foldlM (fun merged (info, index) => mergeStage merged index info) {}

end RenderCore
