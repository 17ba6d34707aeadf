import RenderCore.Pipeline.Basic
import RenderCore.Proofs.Keys.Layouts
namespace RenderCore

open Key

def MadeLayout (l : PipelineLayout) : Prop :=
  ∃ (stages : List StageInterface) (c c' : Context), (Context.pipelineLayout stages).run c = .ok (.ok l) c'

-- The keys the pipeline cache makes from names that write no separator: those of descriptions on
-- layouts the cache made, and those of links of such keys under such layouts.
inductive PlainKey : Key → Prop
  | pipeline {d : PipelineDesc} (shader : Plain d.shader) (entry : Plain d.entry) (layout : MadeLayout d.layout) :
      PlainKey d.key
  | link {layout : PipelineLayout} {libs : List Pipeline} (made : MadeLayout layout)
      (plain : ∀ p ∈ libs, PlainKey p.key) : PlainKey (linkKey layout libs)

theorem MadeLayout.balanced {l : PipelineLayout} (made : MadeLayout l) : Balanced comma l.key.text.toList := by
  obtain ⟨stages, c, c', run⟩ := made
  exact balanced_pipelineLayout_key run

theorem balanced_spec (spec : List UInt32) : ∀ f ∈ spec.map Field.count, Balanced comma f.render.toList := by
  intro f member
  obtain ⟨v, -, rfl⟩ := List.mem_map.mp member
  exact balanced_count v

theorem balanced_descFields {d : PipelineDesc} (shader : Plain d.shader) (entry : Plain d.entry)
    (layout : MadeLayout d.layout) :
    ∀ f ∈ [.text d.shader, .text d.entry, .hex d.stage.bits.toUInt64, .nested d.layout.key,
      .nested (ofFields (d.spec.map .count))], Balanced comma (Field.render f).toList := by
  simp only [List.mem_cons, List.mem_nil_iff, or_false]
  rintro f (rfl | rfl | rfl | rfl | rfl)
  · exact balanced_text shader
  · exact balanced_text entry
  · exact balanced_hex _
  · exact layout.balanced
  · exact balanced_nested (balanced_spec _)

theorem balanced_linkFields {layout : PipelineLayout} {libs : List Pipeline} (made : MadeLayout layout)
    (whole : ∀ p ∈ libs, Balanced comma p.key.text.toList) :
    ∀ f ∈ (.nested layout.key :: libs.map (.nested ·.key)), Balanced comma (Field.render f).toList := by
  rintro f member
  rcases List.mem_cons.mp member with rfl | later
  · exact made.balanced
  · obtain ⟨p, lib, rfl⟩ := List.mem_map.mp later
    exact whole p lib

theorem PlainKey.balanced {k : Key} (plain : PlainKey k) : Balanced comma k.text.toList := by
  induction plain with
  | pipeline shader entry layout => exact balanced_ofFields (balanced_descFields shader entry layout) rfl
  | link made plain ih => exact balanced_ofFields (balanced_linkFields made ih) rfl

theorem count_written (v : UInt32) : (Field.count v).render.toList ≠ [] := by
  rw [toList_render_count]
  exact Nat.toDigits_ne_nil

theorem spec_of_key {spec spec' : List UInt32} (same : ofFields (spec.map .count) = ofFields (spec'.map .count)) :
    spec = spec' := by
  cases spec with
  | nil =>
    cases spec' with
    | nil => rfl
    | cons v rest => exact absurd same (ofFields_nil_ne (balanced_count v) (count_written v))
  | cons v rest =>
    cases spec' with
    | nil => exact absurd same.symm (ofFields_nil_ne (balanced_count v) (count_written v))
    | cons v' rest' =>
      have rendered := ofFields_inj (balanced_spec _) (balanced_spec _) (by simp) (by simp) same
      rw [List.map_map, List.map_map] at rendered
      exact (List.map_inj_right fun a b same => count_inj same).mp rendered

theorem pipelineKey_determines {d d' : PipelineDesc} (shader : Plain d.shader) (entry : Plain d.entry)
    (layout : MadeLayout d.layout) (shader' : Plain d'.shader) (entry' : Plain d'.entry)
    (layout' : MadeLayout d'.layout) (same : d.key = d'.key) :
    d.shader = d'.shader ∧ d.entry = d'.entry ∧ d.stage = d'.stage ∧ d.layout.key = d'.layout.key ∧
      d.spec = d'.spec := by
  have rendered := ofFields_inj (balanced_descFields shader entry layout)
    (balanced_descFields shader' entry' layout') (by simp) (by simp) same
  simp only [List.map_cons, List.map_nil, List.cons.injEq, and_true] at rendered
  obtain ⟨shaders, entries, stages, layouts, specs⟩ := rendered
  have bits : d.stage.bits = d'.stage.bits :=
    UInt32.toNat_inj.mp (by simpa using congrArg UInt64.toNat (hex_inj stages))
  -- The stage, the layout key and the constants' key are structures of one field, so the equal
  -- fields give them back whole.
  exact ⟨shaders, entries, congrArg Stage.mk bits, congrArg Key.mk layouts, spec_of_key (congrArg Key.mk specs)⟩

theorem linkKey_determines {layout layout' : PipelineLayout} {libs libs' : List Pipeline}
    (made : MadeLayout layout) (made' : MadeLayout layout') (whole : ∀ p ∈ libs, Balanced comma p.key.text.toList)
    (whole' : ∀ p ∈ libs', Balanced comma p.key.text.toList) (same : linkKey layout libs = linkKey layout' libs') :
    layout.key = layout'.key ∧ libs.map (·.key) = libs'.map (·.key) := by
  have rendered := ofFields_inj (balanced_linkFields made whole) (balanced_linkFields made' whole')
    (by simp) (by simp) same
  simp only [List.map_cons, List.cons.injEq] at rendered
  obtain ⟨layouts, libraries⟩ := rendered
  have keys : (libs.map (·.key)).map (fun k => (Field.nested k).render) =
      (libs'.map (·.key)).map (fun k => (Field.nested k).render) := by
    simpa only [List.map_map, Function.comp_def] using libraries
  exact ⟨congrArg Key.mk layouts, (List.map_inj_right fun k k' same => congrArg Key.mk same).mp keys⟩

-- A pipeline's key gives back its description up to its layout's key, and a link's key gives back
-- its layout's key and its libraries' keys.
theorem plainKeys_identify_requests (d d' : PipelineDesc) (layout layout' : PipelineLayout)
    (libs libs' : List Pipeline) :
    (Plain d.shader → Plain d.entry → MadeLayout d.layout →
      Plain d'.shader → Plain d'.entry → MadeLayout d'.layout → d.key = d'.key →
      d.shader = d'.shader ∧ d.entry = d'.entry ∧ d.stage.bits = d'.stage.bits ∧
        d.layout.key = d'.layout.key ∧ d.spec = d'.spec) ∧
    (MadeLayout layout → MadeLayout layout' → (∀ p ∈ libs, PlainKey p.key) → (∀ p ∈ libs', PlainKey p.key) →
      linkKey layout libs = linkKey layout' libs' →
      layout.key = layout'.key ∧ libs.map (·.key) = libs'.map (·.key)) := by
  constructor
  · intro shader entry layout shader' entry' layout' same
    obtain ⟨shaders, entries, stages, layouts, specs⟩ :=
      pipelineKey_determines shader entry layout shader' entry' layout' same
    exact ⟨shaders, entries, congrArg Stage.bits stages, layouts, specs⟩
  · intro made made' plain plain' same
    exact linkKey_determines made made' (fun p lib => (plain p lib).balanced)
      (fun p lib => (plain' p lib).balanced) same

-- One vertex entry point asked for on two layouts the cache made on different devices: the two
-- layouts are different objects with one key, and so are the two descriptions.
theorem plainKeys_identify_vertex_requests :
    MadeLayout ⟨⟨"[0x0,0,0]"⟩, "[None,0,0]", ⟨.pipelineLayout, 0x1000⟩, none, []⟩ ∧
      MadeLayout ⟨⟨"[0x0,0,0]"⟩, "[None,0,0]", ⟨.pipelineLayout, 0x1001⟩, none, []⟩ ∧
      (({ shader := "main", entry := "vs", stage := .vertex, spec := [7],
          layout := ⟨⟨"[0x0,0,0]"⟩, "[None,0,0]", ⟨.pipelineLayout, 0x1000⟩, none, []⟩ } : PipelineDesc).layout.key =
      ({ shader := "main", entry := "vs", stage := .vertex, spec := [7],
         layout := ⟨⟨"[0x0,0,0]"⟩, "[None,0,0]", ⟨.pipelineLayout, 0x1001⟩, none, []⟩ } : PipelineDesc).layout.key) :=
  have made : MadeLayout ⟨⟨"[0x0,0,0]"⟩, "[None,0,0]", ⟨.pipelineLayout, 0x1000⟩, none, []⟩ :=
    ⟨[], { (default : Context) with device := {} }, _, rfl⟩
  have made' : MadeLayout ⟨⟨"[0x0,0,0]"⟩, "[None,0,0]", ⟨.pipelineLayout, 0x1001⟩, none, []⟩ :=
    ⟨[], { (default : Context) with device := { next := 0x1001 } }, _, rfl⟩
  ⟨made, made', ((plainKeys_identify_requests _ _ default default [] []).1
    (by decide) (by decide) made (by decide) (by decide) made' (by decide)).2.2.2.1⟩

-- Names are written as they are, so a comma moved from the shader's name into the entry point's
-- leaves the key unchanged.
theorem pipelineKey_joins_names :
    ({ shader := "a,b", entry := "c", stage := .vertex, layout := default } : PipelineDesc).key =
        ({ shader := "a", entry := "b,c", stage := .vertex, layout := default } : PipelineDesc).key ∧
      ({ shader := "a,b", entry := "c", stage := .vertex, layout := default } : PipelineDesc).shader ≠
        ({ shader := "a", entry := "b,c", stage := .vertex, layout := default } : PipelineDesc).shader := by
  decide

end RenderCore
