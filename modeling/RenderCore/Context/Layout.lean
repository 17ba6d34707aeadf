import RenderCore.Context.Basic
import RenderCore.Layout.Merge
namespace RenderCore.Context

def setLayout (slots : List (Option LayoutBinding)) : Act Context SetLayout := do
  let key := slotsKey slots
  let name := slotsName slots
  let handle ← cached .setLayouts key s!"creating descriptor set layout {name}"
    (device! (Device.create .setLayout))
  return { key, name, handle, slots }

def pipelineLayout (stages : List StageInterface) : Act Context (Except Error PipelineLayout) := do
  match merge stages with
  | .error v => return .error (.invalid v)
  | .ok merged =>
    let sets ← merged.sets.mapM setLayout
    let key : Key := ⟨pushKey merged.push ++ String.join (sets.map (·.key.text))⟩
    let name := pushName merged.push ++ String.join (sets.map (·.name))
    let handle ← cached .pipelineLayouts key s!"creating pipeline layout {name}"
      (device! (Device.create .pipelineLayout))
    return .ok { key, name, handle, push := merged.push, sets }

end RenderCore.Context
