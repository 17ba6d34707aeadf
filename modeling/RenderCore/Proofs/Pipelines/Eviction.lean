import RenderCore.Proofs.Keys.Scan
import RenderCore.Proofs.Keys.Pipelines
import RenderCore.Proofs.Pipelines.Actions
namespace RenderCore

open Key

section Scannable

theorem scannable_slotsKey (slots : List (Option LayoutBinding)) : Scannable (slotsKey slots).text.toList := by
  rw [slotsKey_eq]
  exact scannable_ofFields_map slotField plain_slotField _

theorem scannable_pushKey (push : Option PushBlock) : Scannable (pushKey push).toList := by
  rw [pushKey_eq]
  refine scannable_ofFields fun f member => ?_
  -- a block, or its absence, is written as a word and two counts
  have numbers : ∃ bits offset size, pushFields push = [.hex bits, .count offset, .count size] := by
    cases push with
    | none => exact ⟨_, _, _, rfl⟩
    | some p => exact ⟨_, _, _, rfl⟩
  obtain ⟨bits, offset, size, written⟩ := numbers
  rw [written] at member
  simp only [List.mem_cons, List.not_mem_nil, or_false] at member
  rcases member with rfl | rfl | rfl
  · exact (plain_hex bits).scannable
  · exact (plain_count offset).scannable
  · exact (plain_count size).scannable

theorem scannable_specKey (spec : List UInt32) : Scannable (ofFields (spec.map .count)).text.toList :=
  scannable_ofFields_map Field.count plain_count spec

theorem MadeLayout.scannable {l : PipelineLayout} (made : MadeLayout l) : Scannable l.key.text.toList := by
  obtain ⟨stages, c, c', run⟩ := made
  obtain ⟨m, -, -, -, named, key, -⟩ := Context.run_pipelineLayout run
  have sets : ∀ s ∈ l.sets, Scannable s.key.text.toList := by
    intro s member
    rw [(named s member).1]
    exact scannable_slotsKey s.slots
  rw [key, String.toList_append, String.toList_join, List.flatMap_map]
  exact (scans_append (scannable_pushKey m.push) (scans_flatMap sets)).scannable

theorem scannable_pipelineFields {d : PipelineDesc} (shader : Plain d.shader) (entry : Plain d.entry)
    (layout : MadeLayout d.layout) :
    ∀ f ∈ [.text d.shader, .text d.entry, .hex d.stage.bits.toUInt64, .nested d.layout.key,
      .nested (ofFields (d.spec.map .count))], Scannable (Field.render f).toList := by
  simp only [List.mem_cons, List.not_mem_nil, or_false]
  rintro f (rfl | rfl | rfl | rfl | rfl)
  · exact shader.scannable
  · exact entry.scannable
  · exact (plain_hex _).scannable
  · exact layout.scannable
  · exact scannable_specKey d.spec

theorem scannable_linkFields {layout : PipelineLayout} {libs : List Pipeline} (made : MadeLayout layout)
    (libraries : ∀ q ∈ libs, Scannable q.key.text.toList) :
    ∀ f ∈ (.nested layout.key :: libs.map (.nested ·.key)), Scannable (Field.render f).toList := by
  intro f member
  rcases List.mem_cons.mp member with rfl | later
  · exact made.scannable
  · obtain ⟨q, lib, rfl⟩ := List.mem_map.mp later
    exact libraries q lib

theorem PlainKey.scannable {k : Key} (plain : PlainKey k) : Scannable k.text.toList := by
  induction plain with
  | pipeline shader entry layout => exact scannable_ofFields (scannable_pipelineFields shader entry layout)
  | link made _ libraries => exact scannable_ofFields (scannable_linkFields made libraries)

end Scannable

theorem hasField_pipelineKey {d : PipelineDesc} (shader : Plain d.shader) (entry : Plain d.entry)
    (layout : MadeLayout d.layout) (s : String) :
    d.key.hasField s ↔ d.key.text = s ∨ (s ≠ "" ∧ (d.shader = s ∨ d.entry = s ∨
      (Field.hex d.stage.bits.toUInt64).render = s ∨ d.layout.key.hasField s ∨
        (ofFields (d.spec.map .count)).hasField s)) := by
  have shaderField : Key.hasField ⟨(Field.text d.shader).render⟩ s ↔ d.shader = s := hasField_plain shader s
  have entryField : Key.hasField ⟨(Field.text d.entry).render⟩ s ↔ d.entry = s := hasField_plain entry s
  have stageField := hasField_plain (plain_hex d.stage.bits.toUInt64) s
  have nested : ∀ k : Key, Key.hasField ⟨(Field.nested k).render⟩ s ↔ k.hasField s := fun _ => Iff.rfl
  unfold PipelineDesc.key
  rw [hasField_ofFields (scannable_pipelineFields shader entry layout)]
  simp only [List.mem_cons, List.not_mem_nil, or_false, or_and_right, exists_or, exists_eq_left, shaderField,
    entryField, stageField, nested]

theorem hasField_linkKey {layout : PipelineLayout} {libs : List Pipeline} (made : MadeLayout layout)
    (plain : ∀ q ∈ libs, PlainKey q.key) (s : String) :
    (linkKey layout libs).hasField s ↔ (linkKey layout libs).text = s ∨
      (s ≠ "" ∧ (layout.key.hasField s ∨ ∃ q ∈ libs, q.key.hasField s)) := by
  unfold linkKey
  have libraries : (∃ f ∈ libs.map (Field.nested ·.key), Key.hasField ⟨f.render⟩ s) ↔ ∃ q ∈ libs, q.key.hasField s := by
    constructor
    · rintro ⟨f, member, found⟩
      obtain ⟨q, lib, rfl⟩ := List.mem_map.mp member
      exact ⟨q, lib, found⟩
    · rintro ⟨q, lib, found⟩
      exact ⟨_, List.mem_map_of_mem lib, found⟩
  rw [hasField_ofFields (scannable_linkFields made fun q lib => (plain q lib).scannable)]
  simp only [List.mem_cons, or_and_right, exists_or, exists_eq_left, libraries]
  rfl

structure Evicted (fragment : String) (c c' : Context) : Prop where
  run : (Context.evict fragment).run c = .ok (c.pipelines.entries.filter (·.1.hasField fragment)).length c'
  kept : c'.pipelines.entries = c.pipelines.entries.filter (!·.1.hasField fragment)
  found : ∀ k, c'.pipelines.find? k = if k.hasField fragment then none else c.pipelines.find? k
  posted : c'.ring.mailbox = c.ring.mailbox ++ (c.pipelines.entries.filter (·.1.hasField fragment)).map (.destroy ·.2)

theorem evicted (fragment : String) (c : Context) : ∃ c', Evicted fragment c c' :=
  ⟨_, Context.run_evict c fragment, rfl, ObjectCache.find?_removeMatching c.pipelines (·.hasField fragment), rfl⟩

-- The fields of a link's key are those of its parts, so evicting a library's key, or its shader when
-- that is named, removes every link built on it.
theorem evict_takes_links_with_their_libraries {d : PipelineDesc} {layout : PipelineLayout}
    {libs : List Pipeline} {library : Pipeline} (shader : Plain d.shader) (entry : Plain d.entry)
    (madeDesc : MadeLayout d.layout) (madeLink : MadeLayout layout) (plain : ∀ q ∈ libs, PlainKey q.key)
    (made : library.key = d.key) (linked : library ∈ libs) (c : Context) (fragment : String) :
    ∃ c', Evicted fragment c c' ∧
      (library.key.hasField fragment ↔ library.key.text = fragment ∨ (fragment ≠ "" ∧ (d.shader = fragment ∨
        d.entry = fragment ∨ (Field.hex d.stage.bits.toUInt64).render = fragment ∨
          d.layout.key.hasField fragment ∨ (ofFields (d.spec.map .count)).hasField fragment))) ∧
      ((linkKey layout libs).hasField fragment ↔ (linkKey layout libs).text = fragment ∨
        (fragment ≠ "" ∧ (layout.key.hasField fragment ∨ ∃ q ∈ libs, q.key.hasField fragment))) ∧
      (fragment = library.key.text ∨ (fragment = d.shader ∧ fragment ≠ "") →
        c'.pipelines.find? library.key = none ∧ c'.pipelines.find? (linkKey layout libs) = none) := by
  obtain ⟨c', evicts⟩ := evicted fragment c
  have libraryField := hasField_pipelineKey shader entry madeDesc fragment
  rw [← made] at libraryField
  have linkField := hasField_linkKey madeLink plain fragment
  refine ⟨c', evicts, libraryField, linkField, fun named => ?_⟩
  have inLibrary : library.key.hasField fragment := by
    rw [libraryField]
    rcases named with rfl | ⟨rfl, named⟩
    · exact .inl rfl
    · exact .inr ⟨named, .inl rfl⟩
  have written : fragment ≠ "" := ne_empty_of_hasField (made ▸ text_ofFields_ne_empty _) inLibrary
  have inLink : (linkKey layout libs).hasField fragment := by
    rw [linkField]
    exact .inr ⟨written, .inr ⟨library, linked, inLibrary⟩⟩
  rw [evicts.found, evicts.found, if_pos inLibrary, if_pos inLink]
  exact ⟨rfl, rfl⟩

-- A library made from the shader "quad" and the link made from it alone are both cached, and evicting
-- "quad" removes both.
theorem evicting_a_shader_takes_its_links :
    let layout : PipelineLayout := ⟨⟨"[0x0,0,0]"⟩, "[None,0,0]", ⟨.pipelineLayout, 0x1002⟩, none, []⟩
    let quad : PipelineDesc := { shader := "quad", entry := "main", stage := .vertex, layout }
    let libs : List Pipeline := [⟨quad.key, ⟨.pipeline, 0x1003⟩⟩]
    ∃ c', Evicted "quad"
        { (default : Context) with
          pipelines := { (default : Context).pipelines with
            entries := [(quad.key, ⟨.pipeline, 0x1003⟩), (linkKey layout libs, ⟨.pipeline, 0x1004⟩)] } } c' ∧
      c'.pipelines.find? quad.key = none ∧ c'.pipelines.find? (linkKey layout libs) = none := by
  intro layout quad libs
  have made : MadeLayout layout := ⟨[], { (default : Context) with device := { next := 0x1002 } }, _, rfl⟩
  have named : Plain quad.shader := show Plain "quad" by decide
  have entry : Plain quad.entry := show Plain "main" by decide
  have plain : ∀ q ∈ libs, PlainKey q.key := by
    intro q member
    rw [List.mem_singleton.mp member]
    exact .pipeline named entry made
  obtain ⟨c', evicts, -, -, removes⟩ :=
    @evict_takes_links_with_their_libraries quad layout libs ⟨quad.key, ⟨.pipeline, 0x1003⟩⟩ named entry made made
      plain rfl List.mem_cons_self _ "quad"
  exact ⟨c', evicts, removes (.inr ⟨rfl, by decide⟩)⟩

-- An empty shader name is no field, and a shader named `]` hides the next library's key inside the
-- link's key.
theorem unnamed_shader_and_hidden_library_are_no_fields :
    let layout : PipelineLayout := ⟨⟨"[0x0,0,0]"⟩, "[None,0,0]", ⟨.pipelineLayout, 0x1002⟩, none, []⟩
    let unnamed : PipelineDesc := { shader := "", entry := "main", stage := .vertex, layout }
    let bracket : PipelineDesc := { shader := "]", entry := "main", stage := .fragment, layout }
    let quad : PipelineDesc := { shader := "quad", entry := "main", stage := .vertex, layout }
    unnamed.key.hasField unnamed.shader = false ∧
      (linkKey layout [⟨unnamed.key, ⟨.pipeline, 0x1003⟩⟩]).hasField unnamed.shader = false ∧
      (linkKey layout [⟨bracket.key, ⟨.pipeline, 0x1003⟩⟩, ⟨quad.key, ⟨.pipeline, 0x1004⟩⟩]).hasField
        quad.key.text = false := by
  dsimp only
  decide

end RenderCore
