import Mathlib
import RenderCore.Context.Layout
import RenderCore.Proofs.Action
import RenderCore.Proofs.Keys.Fields
namespace RenderCore

open Key

def slotField : Option LayoutBinding → Field
  | none => .text "null"
  | some b => .text s!"{Hex.word b.stages.bits.toNat}:{Hex.word b.type.raw.toNat}:{b.count}"

def slotLabel : Option LayoutBinding → Field
  | none => .text "null"
  | some b => .text s!"{b.stages.display}:{b.type.name}:{b.count}"

def padded (slots : List (Option LayoutBinding)) : List (Option LayoutBinding) :=
  if slots = [] then [none] else slots

def presentBindings (slots : List (Option LayoutBinding)) : List (Nat × LayoutBinding) :=
  slots.zipIdx.filterMap fun (slot, i) => slot.map (i, ·)

theorem slotsKey_eq (slots : List (Option LayoutBinding)) :
    slotsKey slots = ofFields ((padded slots).map slotField) := by
  cases slots with
  | nil => decide
  | cons slot rest => rfl

theorem slotsName_eq (slots : List (Option LayoutBinding)) :
    slotsName slots = (ofFields ((padded slots).map slotLabel)).text := by
  cases slots with
  | nil => decide
  | cons slot rest => rfl

theorem presentBindings_padded (slots : List (Option LayoutBinding)) :
    presentBindings (padded slots) = presentBindings slots := by
  cases slots <;> rfl

def colon (c : Char) : Bool := c == ':'

theorem balanced_upperDigits (n : Nat) : Balanced colon (upperDigits n) := by
  refine balanced_of_plain fun c member => ?_
  have plain := plain_of_mem_upperDigits member
  exact ⟨plain.1, plain.2.1, by simpa only [colon, beq_eq_false_iff_ne] using plain.2.2.2⟩

theorem toList_slotField_some (b : LayoutBinding) :
    (slotField (some b)).render.toList = '0' :: 'x' :: (upperDigits b.stages.bits.toNat ++
      ':' :: '0' :: 'x' :: (upperDigits b.type.raw.toNat ++ ':' :: Nat.toDigits 10 b.count.toNat)) := by
  simp [slotField, Field.render, Hex.word, Hex.upper, upperDigits, toString, Nat.toList_repr]

theorem raw_inj {t t' : DescriptorType} (same : t.raw = t'.raw) : t = t' := by
  cases t <;> cases t' <;> simp_all [DescriptorType.raw]

theorem slotField_inj {o o' : Option LayoutBinding} (same : (slotField o).render = (slotField o').render) :
    o = o' := by
  have text := congrArg String.toList same
  cases o with
  | none =>
    cases o' with
    | none => rfl
    | some b' =>
      rw [toList_slotField_some] at text
      simp [slotField, Field.render] at text
  | some b =>
    cases o' with
    | none =>
      rw [toList_slotField_some] at text
      simp [slotField, Field.render] at text
    | some b' =>
      rw [toList_slotField_some, toList_slotField_some] at text
      simp only [List.cons.injEq, true_and] at text
      have separates : Ends colon ':' := .inr rfl
      obtain ⟨stages, -, text⟩ := cut_unique (balanced_upperDigits _) (balanced_upperDigits _) separates separates text
      simp only [List.cons.injEq, true_and] at text
      obtain ⟨kind, -, count⟩ := cut_unique (balanced_upperDigits _) (balanced_upperDigits _) separates separates text
      have stages' := upperDigits_inj stages
      have kind' := upperDigits_inj kind
      have count' := toDigits_ten_inj count
      obtain ⟨⟨bits⟩, t, n⟩ := b
      obtain ⟨⟨bits'⟩, t', n'⟩ := b'
      simp only at stages' kind' count'
      have : bits = bits' := UInt32.toNat_inj.mp stages'
      have : t = t' := raw_inj (UInt32.toNat_inj.mp kind')
      have : n = n' := UInt32.toNat_inj.mp count'
      subst_vars
      rfl

theorem plain_slotField (o : Option LayoutBinding) : Plain (slotField o).render := by
  cases o with
  | none => decide
  | some b =>
    intro c member
    rw [toList_slotField_some] at member
    -- the text holds digits, the `0x` marks and colons
    simp only [List.mem_cons, List.mem_append] at member
    rcases member with rfl | rfl | digit | rfl | rfl | rfl | digit | rfl | digit
    · decide
    · decide
    · exact (plain_of_mem_upperDigits digit).elim fun opens rest => ⟨rest.2.1, opens, rest.1⟩
    · decide
    · decide
    · decide
    · exact (plain_of_mem_upperDigits digit).elim fun opens rest => ⟨rest.2.1, opens, rest.1⟩
    · decide
    · exact (plain_of_mem_toDigits (by decide) (by decide) digit).elim fun opens rest => ⟨rest.2.1, opens, rest.1⟩

theorem balanced_slotField (o : Option LayoutBinding) : Balanced comma (slotField o).render.toList := by
  cases o with
  | none => decide
  | some b => exact balanced_text (plain_slotField (some b))

theorem padded_ne_nil (slots : List (Option LayoutBinding)) : padded slots ≠ [] := by
  unfold padded
  split <;> simp_all

theorem balanced_slotFields (slots : List (Option LayoutBinding)) :
    ∀ f ∈ (padded slots).map slotField, Balanced comma f.render.toList := by
  intro f member
  obtain ⟨o, -, rfl⟩ := List.mem_map.mp member
  exact balanced_slotField o

theorem listed_slotsKey (slots : List (Option LayoutBinding)) : Listed (slotsKey slots) :=
  ⟨(padded slots).map slotField, by simpa using padded_ne_nil slots, balanced_slotFields slots, slotsKey_eq slots⟩

theorem padded_of_slotsKey {slots slots' : List (Option LayoutBinding)} (same : slotsKey slots = slotsKey slots') :
    padded slots = padded slots' := by
  rw [slotsKey_eq, slotsKey_eq] at same
  have rendered := ofFields_inj (balanced_slotFields slots) (balanced_slotFields slots')
    (by simpa using padded_ne_nil slots) (by simpa using padded_ne_nil slots') same
  rw [List.map_map, List.map_map] at rendered
  exact (List.map_inj_right fun o o' same => slotField_inj same).mp rendered

def PushSized (push : Option PushBlock) : Prop :=
  ∀ p, push = some p → p.size ≠ 0

theorem pushSized_mergePush {info : StageInterface} {push push' : Option PushBlock} (sized : PushSized push)
    (merged : mergePush info push = .ok push') : PushSized push' := by
  by_cases undeclared : info.layout.push.size = 0
  · simp only [mergePush, undeclared, if_true, Except.ok.injEq] at merged
    rw [← merged]
    exact sized
  · cases push with
    | none =>
      simp only [mergePush, undeclared, if_false, Except.ok.injEq] at merged
      rw [← merged]
      intro p made
      cases made
      exact undeclared
    | some b =>
      simp only [mergePush, undeclared, if_false] at merged
      split at merged
      · cases merged
      · rw [Except.ok.injEq] at merged
        rw [← merged]
        intro p made
        cases made
        exact sized b rfl

theorem pushSized_mergeStage {m m' : MergedLayout} {index : Nat} {info : StageInterface} (sized : PushSized m.push)
    (merged : mergeStage m index info = .ok m') : PushSized m'.push := by
  cases checked : info.layout.push.check with
  | error e => simp [mergeStage, checked, throw, throwThe, MonadExceptOf.throw, bind, Except.bind] at merged
  | ok u =>
    cases pushed : mergePush info m.push with
    | error e => simp [mergeStage, checked, pushed, bind, Except.bind] at merged
    | ok push =>
      cases slotted : mergeSets info 0 info.layout.sets (padTo info.layout.sets.length [] m.sets) with
      | error e => simp [mergeStage, checked, pushed, slotted, bind, Except.bind] at merged
      | ok sets =>
        simp only [mergeStage, checked, pushed, slotted, bind, Except.bind, pure, Except.pure, Except.ok.injEq] at merged
        rw [← merged]
        exact pushSized_mergePush sized pushed

theorem pushSized_merge {stages : List StageInterface} {m : MergedLayout} (merged : merge stages = .ok m) :
    PushSized m.push := by
  -- the merge folds the stages in from an empty layout, one stage at a time
  unfold merge at merged
  have empty : PushSized ({} : MergedLayout).push := fun p none => by cases none
  revert empty merged
  generalize ({} : MergedLayout) = start
  generalize stages.zipIdx = items
  induction items generalizing start with
  | nil =>
    intro folded sized
    cases folded
    exact sized
  | cons item rest ih =>
    intro folded sized
    obtain ⟨info, index⟩ := item
    rw [List.foldlM_cons] at folded
    cases stepped : mergeStage start index info with
    | error e => simp [stepped, bind, Except.bind] at folded
    | ok next =>
      simp only [stepped, bind, Except.bind] at folded
      exact ih next folded (pushSized_mergeStage sized stepped)

def pushFields : Option PushBlock → List Field
  | some p => [.hex p.stages.bits.toUInt64, .count p.offset, .count p.size]
  | none => [.hex 0, .count 0, .count 0]

theorem pushKey_eq (push : Option PushBlock) : pushKey push = (ofFields (pushFields push)).text := by
  cases push with
  | none => decide
  | some p => rfl

theorem pushFields_ne_nil (push : Option PushBlock) : pushFields push ≠ [] := by
  cases push <;> simp [pushFields]

theorem balanced_pushFields (push : Option PushBlock) : ∀ f ∈ pushFields push, Balanced comma f.render.toList := by
  cases push <;> simp [pushFields, balanced_hex, balanced_count]

theorem pushFields_inj {push push' : Option PushBlock} (sized : PushSized push) (sized' : PushSized push')
    (same : (pushFields push).map (·.render) = (pushFields push').map (·.render)) : push = push' := by
  cases push with
  | none =>
    cases push' with
    | none => rfl
    | some p' =>
      simp only [pushFields, List.map_cons, List.map_nil, List.cons.injEq, and_true] at same
      exact absurd (count_inj same.2.2).symm (sized' p' rfl)
  | some p =>
    cases push' with
    | none =>
      simp only [pushFields, List.map_cons, List.map_nil, List.cons.injEq, and_true] at same
      exact absurd (count_inj same.2.2) (sized p rfl)
    | some p' =>
      simp only [pushFields, List.map_cons, List.map_nil, List.cons.injEq, and_true] at same
      obtain ⟨stages, offset, size⟩ := same
      have bits : p.stages.bits = p'.stages.bits :=
        UInt32.toNat_inj.mp (by simpa using congrArg UInt64.toNat (hex_inj stages))
      have offsets := count_inj offset
      have sizes := count_inj size
      obtain ⟨⟨_⟩, _, _⟩ := p
      obtain ⟨⟨_⟩, _, _⟩ := p'
      simp_all

end RenderCore

namespace RenderCore.Context

theorem run_setLayout {slots : List (Option LayoutBinding)} {c c' : Context} {l : SetLayout}
    (run : (setLayout slots).run c = .ok l c') : l.slots = slots ∧ l.key = slotsKey slots ∧ l.name = slotsName slots := by
  obtain ⟨h, c₁, -, run⟩ := Act.run_bind_ok run
  rw [EStateM.run_pure, EStateM.Result.ok.injEq] at run
  obtain ⟨rfl, -⟩ := run
  exact ⟨rfl, rfl, rfl⟩

theorem run_mapM_setLayout :
    ∀ (slots : List (List (Option LayoutBinding))) {c c' : Context} {sets : List SetLayout},
      (slots.mapM setLayout).run c = .ok sets c' →
        sets.map (·.slots) = slots ∧ ∀ s ∈ sets, s.key = slotsKey s.slots ∧ s.name = slotsName s.slots := by
  intro slots
  induction slots with
  | nil =>
    intro c c' sets run
    rw [List.mapM_nil, EStateM.run_pure, EStateM.Result.ok.injEq] at run
    obtain ⟨rfl, -⟩ := run
    simp
  | cons first rest ih =>
    intro c c' sets run
    rw [List.mapM_cons] at run
    obtain ⟨l, c₁, made, run⟩ := Act.run_bind_ok run
    obtain ⟨ls, c₂, madeRest, run⟩ := Act.run_bind_ok run
    rw [EStateM.run_pure, EStateM.Result.ok.injEq] at run
    obtain ⟨rfl, -⟩ := run
    obtain ⟨slots, key, name⟩ := run_setLayout made
    obtain ⟨slotsRest, named⟩ := ih madeRest
    refine ⟨by simp [slots, slotsRest], ?_⟩
    intro s member
    rcases List.mem_cons.mp member with rfl | later
    · exact ⟨key.trans (congrArg slotsKey slots.symm), name.trans (congrArg slotsName slots.symm)⟩
    · exact named s later

theorem run_pipelineLayout {stages : List StageInterface} {c c' : Context} {l : PipelineLayout}
    (run : (pipelineLayout stages).run c = .ok (.ok l) c') :
    ∃ m, merge stages = .ok m ∧ l.push = m.push ∧ l.sets.map (·.slots) = m.sets ∧
      (∀ s ∈ l.sets, s.key = slotsKey s.slots ∧ s.name = slotsName s.slots) ∧
      l.key.text = pushKey m.push ++ String.join (l.sets.map (·.key.text)) ∧
      l.name = pushName m.push ++ String.join (l.sets.map (·.name)) := by
  unfold pipelineLayout at run
  split at run
  · simp at run
  · rename_i m merged
    obtain ⟨sets, c₁, made, run⟩ := Act.run_bind_ok run
    obtain ⟨h, c₂, -, run⟩ := Act.run_bind_ok run
    rw [EStateM.run_pure, EStateM.Result.ok.injEq, Except.ok.injEq] at run
    obtain ⟨rfl, -⟩ := run
    obtain ⟨slots, named⟩ := run_mapM_setLayout _ made
    exact ⟨m, merged, rfl, slots, named, rfl, rfl⟩

end RenderCore.Context

namespace RenderCore

open Key

theorem slotsKey_determines {slots slots' : List (Option LayoutBinding)} (same : slotsKey slots = slotsKey slots') :
    slotsName slots = slotsName slots' ∧ presentBindings slots = presentBindings slots' := by
  have padding := padded_of_slotsKey same
  refine ⟨by rw [slotsName_eq, slotsName_eq, padding], ?_⟩
  rw [← presentBindings_padded, padding, presentBindings_padded]

theorem map_eq_of_determines {α β γ : Type} {f : α → β} {g : α → γ} (determines : ∀ a b, f a = f b → g a = g b)
    {l l' : List α} (same : l.map f = l'.map f) : l.map g = l'.map g := by
  induction l generalizing l' with
  | nil => cases l' <;> simp_all
  | cons a rest ih =>
    cases l' with
    | nil => simp at same
    | cons b rest' =>
      simp only [List.map_cons, List.cons.injEq] at same ⊢
      exact ⟨determines a b same.1, ih same.2⟩

theorem pipelineLayout_key_determines {stages stages' : List StageInterface} {c c₁ c' c₁' : Context}
    {l l' : PipelineLayout} (run : (Context.pipelineLayout stages).run c = .ok (.ok l) c₁)
    (run' : (Context.pipelineLayout stages').run c' = .ok (.ok l') c₁') (same : l.key = l'.key) :
    l.push = l'.push ∧ l.sets.map (·.key) = l'.sets.map (·.key) := by
  obtain ⟨m, merged, push, -, named, key, -⟩ := Context.run_pipelineLayout run
  obtain ⟨m', merged', push', -, named', key', -⟩ := Context.run_pipelineLayout run'
  have text := congrArg (·.text.toList) same
  simp only [key, key', String.toList_append, pushKey_eq, String.toList_join] at text
  have pushes := pushFields_inj (pushSized_merge merged) (pushSized_merge merged')
  obtain ⟨rendered, sets⟩ := ofFields_cancel (balanced_pushFields m.push) (balanced_pushFields m'.push)
    (pushFields_ne_nil _) (pushFields_ne_nil _) text
  refine ⟨by rw [push, push', pushes rendered], ?_⟩
  refine listed_flatMap_inj (by simpa using fun s member => (named s member).1 ▸ listed_slotsKey s.slots)
    (by simpa using fun s member => (named' s member).1 ▸ listed_slotsKey s.slots) ?_
  simpa [List.flatMap_map] using sets

theorem layoutKeys_identify_requests :
    (∀ slots slots' : List (Option LayoutBinding), slotsKey slots = slotsKey slots' →
      slotsName slots = slotsName slots' ∧ presentBindings slots = presentBindings slots') ∧
    (∀ (stages stages' : List StageInterface) (c c₁ c' c₁' : Context) (l l' : PipelineLayout),
      (Context.pipelineLayout stages).run c = .ok (.ok l) c₁ →
      (Context.pipelineLayout stages').run c' = .ok (.ok l') c₁' → l.key = l'.key →
      l.push = l'.push ∧ l.name = l'.name ∧ l.sets.map (·.key) = l'.sets.map (·.key) ∧
      l.sets.map (·.name) = l'.sets.map (·.name) ∧
      l.sets.map (presentBindings ·.slots) = l'.sets.map (presentBindings ·.slots)) := by
  refine ⟨fun slots slots' same => slotsKey_determines same, ?_⟩
  intro stages stages' c c₁ c' c₁' l l' run run' same
  obtain ⟨push, keys⟩ := pipelineLayout_key_determines run run' same
  obtain ⟨m, -, pushed, -, named, -, name⟩ := Context.run_pipelineLayout run
  obtain ⟨m', -, pushed', -, named', -, name'⟩ := Context.run_pipelineLayout run'
  -- each set's key, name and bindings are those of its slots
  have bySlots : ∀ sets : List SetLayout, (∀ s ∈ sets, s.key = slotsKey s.slots ∧ s.name = slotsName s.slots) →
      sets.map (·.key) = (sets.map (·.slots)).map slotsKey ∧ sets.map (·.name) = (sets.map (·.slots)).map slotsName := by
    intro sets named
    simp only [List.map_map]
    exact ⟨List.map_congr_left fun s member => (named s member).1,
      List.map_congr_left fun s member => (named s member).2⟩
  obtain ⟨keyed, labelled⟩ := bySlots l.sets named
  obtain ⟨keyed', labelled'⟩ := bySlots l'.sets named'
  rw [keyed, keyed'] at keys
  have names : l.sets.map (·.name) = l'.sets.map (·.name) := by
    rw [labelled, labelled']
    exact map_eq_of_determines (fun a b same => (slotsKey_determines same).1) keys
  have bindings := map_eq_of_determines (fun a b same => (slotsKey_determines same).2) keys
  simp only [List.map_map] at bindings
  refine ⟨push, ?_, by rw [keyed, keyed', keys], names, bindings⟩
  rw [name, name', ← pushed, ← pushed', push, names]

theorem balanced_pipelineLayout_key {stages : List StageInterface} {c c' : Context} {l : PipelineLayout}
    (run : (Context.pipelineLayout stages).run c = .ok (.ok l) c') : Balanced comma l.key.text.toList := by
  obtain ⟨m, -, -, -, named, key, -⟩ := Context.run_pipelineLayout run
  have sets : ∀ s ∈ l.sets, Balanced comma s.key.text.toList := fun s member =>
    (named s member).1 ▸ (listed_slotsKey s.slots).balanced rfl
  rw [key, String.toList_append, pushKey_eq, String.toList_join, List.flatMap_map]
  exact balanced_append (balanced_ofFields (balanced_pushFields m.push) rfl) (balanced_flatMap sets)

-- A count given by a number or by a specialization constant of the same value makes one key.
theorem emptySet_matches_emptySlot :
    (slotsKey [] = slotsKey [none] ∧ slotsName [] = slotsName [none] ∧
      presentBindings [] = presentBindings [none]) ∧
    let fixed : List StageInterface := [{ layout := { sets := [[⟨.uniformBuffer, .fixed 1⟩]] }, stage := .vertex }]
    let bySpec : List StageInterface :=
      [{ layout := { sets := [[⟨.uniformBuffer, .specConstant 0⟩]] }, stage := .vertex, specConstants := [1] }]
    ∃ l l' c₁ c₁', (Context.pipelineLayout fixed).run default = .ok (.ok l) c₁ ∧
      (Context.pipelineLayout bySpec).run default = .ok (.ok l') c₁' ∧ l.key = l'.key ∧ l.name = l'.name ∧
      l.sets.map (presentBindings ·.slots) = l'.sets.map (presentBindings ·.slots) := by
  refine ⟨⟨by decide, layoutKeys_identify_requests.1 [] [none] (by decide)⟩, ?_⟩
  intro fixed bySpec
  have ran : Act.answers ((Context.pipelineLayout fixed).run default) (fun l _ =>
      Act.answers ((Context.pipelineLayout bySpec).run default) fun l' _ => decide (l.key = l'.key)) = true := by
    cbv
  obtain ⟨l, c₁, made, ran⟩ := Act.answers_eq_true.mp ran
  obtain ⟨l', c₁', made', ran⟩ := Act.answers_eq_true.mp ran
  have same := of_decide_eq_true ran
  obtain ⟨-, named, -, -, bindings⟩ :=
    layoutKeys_identify_requests.2 fixed bySpec default c₁ default c₁' l l' made made' same
  exact ⟨l, l', c₁, c₁', made, made', same, named, bindings⟩

end RenderCore
