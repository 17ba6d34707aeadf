import RenderCore.Proofs.Layouts.Pointwise
import RenderCore.Context.Layout
namespace RenderCore

theorem Stage.or_comm (a b : Stage) : a ||| b = b ||| a := by
  show Stage.mk (a.bits ||| b.bits) = Stage.mk (b.bits ||| a.bits)
  rw [UInt32.or_comm]

theorem Stage.or_right_comm (a b c : Stage) : a ||| b ||| c = a ||| c ||| b := by
  show Stage.mk (a.bits ||| b.bits ||| c.bits) = Stage.mk (a.bits ||| c.bits ||| b.bits)
  rw [UInt32.or_assoc, UInt32.or_comm b.bits, ← UInt32.or_assoc]

theorem Stage.or_self (a : Stage) : a ||| a = a := by
  show Stage.mk (a.bits ||| a.bits) = a
  rw [UInt32.or_self]

theorem Stage.or_self_right (a b : Stage) : a ||| b ||| b = a ||| b := by
  show Stage.mk (a.bits ||| b.bits ||| b.bits) = Stage.mk (a.bits ||| b.bits)
  rw [UInt32.or_assoc, UInt32.or_self]

section Tagged

variable {β κ : Type} [DecidableEq κ] (tag : β → κ) (stages : β → Stage) (make : Stage → κ → β)

def joinTagged (stage : Stage) (k : κ) : Option β → Option (Option β)
  | none => some (some (make stage k))
  | some c => if tag c = k then some (some (make (stages c ||| stage) k)) else none

theorem joinTagged_comm (tag_make : ∀ s k, tag (make s k) = k) (stages_make : ∀ s k, stages (make s k) = s)
    (s s' : Stage) (k k' : κ) (current : Option β) :
    (joinTagged tag stages make s k current).bind (joinTagged tag stages make s' k') =
      (joinTagged tag stages make s' k' current).bind (joinTagged tag stages make s k) := by
  by_cases same : k = k'
  · subst same
    cases current with
    | none => simp [joinTagged, tag_make, stages_make, Stage.or_comm]
    | some c =>
      by_cases agree : tag c = k
      · simp [joinTagged, agree, tag_make, stages_make, Stage.or_right_comm]
      · simp [joinTagged, agree]
  · -- a place takes no two entries of different tags, whichever comes first
    cases current with
    | none => simp [joinTagged, tag_make, same, Ne.symm same]
    | some c =>
      by_cases agree : tag c = k
      · subst agree
        simp [joinTagged, tag_make, same]
      · by_cases agree' : tag c = k'
        · subst agree'
          simp [joinTagged, tag_make, agree]
        · simp [joinTagged, agree, agree']

theorem joinTagged_idem (tag_make : ∀ s k, tag (make s k) = k) (stages_make : ∀ s k, stages (make s k) = s)
    (s : Stage) (k : κ) (current : Option β) :
    (joinTagged tag stages make s k current).bind (joinTagged tag stages make s k) =
      joinTagged tag stages make s k current := by
  cases current with
  | none => simp [joinTagged, tag_make, stages_make, Stage.or_self]
  | some c =>
    by_cases agree : tag c = k
    · simp [joinTagged, agree, tag_make, stages_make, Stage.or_self_right]
    · simp [joinTagged, agree]

end Tagged

section Joins

def slotOp (info : StageInterface) (r : ShaderBinding) (current : Option LayoutBinding) : Option (Option LayoutBinding) :=
  match r.count.resolve info.specConstants with
  | .error _ => none
  | .ok count =>
    if count = 0 then some current
    else joinTagged (fun c : LayoutBinding => (c.type, c.count)) LayoutBinding.stages (fun s k => ⟨s, k.1, k.2⟩)
      info.stage (r.type, count) current

theorem slotOp_comm (info info' : StageInterface) (r r' : ShaderBinding) (current : Option LayoutBinding) :
    (slotOp info r current).bind (slotOp info' r') = (slotOp info' r' current).bind (slotOp info r) := by
  unfold slotOp
  cases r.count.resolve info.specConstants with
  | error _ => simp
  | ok n =>
    cases r'.count.resolve info'.specConstants with
    | error _ => simp
    | ok n' =>
      by_cases zero : n = 0
      · simp [zero]
      · by_cases zero' : n' = 0
        · simp [zero']
        · simp only [zero, zero', if_false]
          exact joinTagged_comm _ _ _ (fun _ _ => rfl) (fun _ _ => rfl) _ _ _ _ current

theorem slotOp_idem (info : StageInterface) (r : ShaderBinding) (current : Option LayoutBinding) :
    (slotOp info r current).bind (slotOp info r) = slotOp info r current := by
  unfold slotOp
  cases r.count.resolve info.specConstants with
  | error _ => simp
  | ok n =>
    by_cases zero : n = 0
    · simp [zero]
    · simp only [zero, if_false]
      exact joinTagged_idem _ _ _ (fun _ _ => rfl) (fun _ _ => rfl) _ _ current

def setOp (info : StageInterface) (bindings : List ShaderBinding) : List (Option LayoutBinding) → Option (List (Option LayoutBinding)) :=
  joinEach none (bindings.map (slotOp info))

def setsOp (info : StageInterface) : List (List (Option LayoutBinding)) → Option (List (List (Option LayoutBinding))) :=
  joinEach [] (info.layout.sets.map (setOp info))

theorem setsOp_comm (info info' : StageInterface) (sets : List (List (Option LayoutBinding))) :
    (setsOp info sets).bind (setsOp info') = (setsOp info' sets).bind (setsOp info) :=
  joinEach_map_comm [] _ _ (fun bs bs' slots => joinEach_map_comm none _ _ (slotOp_comm info info') bs bs' slots) _ _ sets

theorem setsOp_idem (info : StageInterface) (sets : List (List (Option LayoutBinding))) :
    (setsOp info sets).bind (setsOp info) = setsOp info sets :=
  joinEach_map_idem [] _ (fun bs slots => joinEach_map_idem none _ (slotOp_idem info) bs slots) _ sets

def pushOp (info : StageInterface) (push : Option PushBlock) : Option (Option PushBlock) :=
  if info.layout.push.size = 0 then some push
  else joinTagged (fun b : PushBlock => (b.offset, b.size)) PushBlock.stages (fun s k => ⟨s, k.1, k.2⟩)
    info.stage (info.layout.push.offset, info.layout.push.size) push

theorem pushOp_comm (info info' : StageInterface) (push : Option PushBlock) :
    (pushOp info push).bind (pushOp info') = (pushOp info' push).bind (pushOp info) := by
  unfold pushOp
  by_cases zero : info.layout.push.size = 0
  · simp [zero]
  · by_cases zero' : info'.layout.push.size = 0
    · simp [zero']
    · simp only [zero, zero', if_false]
      exact joinTagged_comm _ _ _ (fun _ _ => rfl) (fun _ _ => rfl) _ _ _ _ push

theorem pushOp_idem (info : StageInterface) (push : Option PushBlock) :
    (pushOp info push).bind (pushOp info) = pushOp info push := by
  unfold pushOp
  by_cases zero : info.layout.push.size = 0
  · simp [zero]
  · simp only [zero, if_false]
    exact joinTagged_idem _ _ _ (fun _ _ => rfl) (fun _ _ => rfl) _ _ push

def joinStage (merged : MergedLayout) (info : StageInterface) : Option MergedLayout :=
  match info.layout.push.check with
  | .error _ => none
  | .ok () => (pushOp info merged.push).bind fun push => (setsOp info merged.sets).map fun sets => { push, sets }

theorem joinStage_bind (merged : MergedLayout) {x y : StageInterface} (valid : x.layout.push.check = .ok ())
    (valid' : y.layout.push.check = .ok ()) :
    (joinStage merged x).bind (joinStage · y) =
      ((pushOp x merged.push).bind (pushOp y)).bind fun push =>
        ((setsOp x merged.sets).bind (setsOp y)).map fun sets => { push, sets } := by
  simp only [joinStage, valid, valid', Option.bind_assoc, Option.bind_map, Function.comp_def, Option.map_bind]
  exact congrArg _ (funext fun push => Option.bind_comm _ _)

theorem joinStage_comm (merged : MergedLayout) (x y : StageInterface) :
    (joinStage merged x).bind (joinStage · y) = (joinStage merged y).bind (joinStage · x) := by
  rcases valid : x.layout.push.check with _ | ⟨⟩
  · simp [joinStage, valid]
  · rcases valid' : y.layout.push.check with _ | ⟨⟩
    · simp [joinStage, valid']
    · rw [joinStage_bind merged valid valid', joinStage_bind merged valid' valid, pushOp_comm, setsOp_comm]

theorem joinStage_idem (merged : MergedLayout) (x : StageInterface) :
    (joinStage merged x).bind (joinStage · x) = joinStage merged x := by
  rcases valid : x.layout.push.check with _ | ⟨⟩
  · simp [joinStage, valid]
  · rw [joinStage_bind merged valid valid, pushOp_idem, setsOp_idem]
    simp [joinStage, valid]

end Joins

section Merges

theorem set_getD_self {α : Type} (xs : List (Option α)) (j : Nat) : xs.set j (xs[j]?.getD none) = xs := by
  rcases Nat.lt_or_ge j xs.length with inside | outside
  · simp [List.getElem?_eq_getElem inside]
  · exact List.set_eq_of_length_le outside

theorem toOption_mergeSlots_cons (info : StageInterface) (set j : Nat) (r : ShaderBinding) (rest : List ShaderBinding)
    (slots : List (Option LayoutBinding)) :
    (mergeSlots info set j (r :: rest) slots).toOption =
      (slotOp info r (slots[j]?.getD none)).bind fun y => (mergeSlots info set (j + 1) rest (slots.set j y)).toOption := by
  unfold slotOp
  rw [mergeSlots]
  cases r.count.resolve info.specConstants with
  | error _ => rfl
  | ok n =>
    by_cases zero : n = 0
    · simp [zero, set_getD_self]
    · rcases current : slots[j]? with _ | _ | c
      · simp [joinTagged, zero]
      · simp [joinTagged, zero]
      · by_cases agree : c.type = r.type ∧ c.count = n
        · simp [joinTagged, zero, agree]
        · simp [joinTagged, zero, agree, Decidable.not_and_iff_not_or_not.mp agree]
          rfl

theorem toOption_mergeSlots (info : StageInterface) (set : Nat) (bindings : List ShaderBinding)
    (slots : List (Option LayoutBinding)) (fits : bindings.length ≤ slots.length) :
    (mergeSlots info set 0 bindings slots).toOption = setOp info bindings slots :=
  toOption_walk_zero none _ _ (fun _ _ => rfl) (toOption_mergeSlots_cons info set) bindings slots fits

theorem toOption_mergeSets_cons (info : StageInterface) (set : Nat) (bindings : List ShaderBinding)
    (rest : List (List ShaderBinding)) (sets : List (List (Option LayoutBinding))) :
    (mergeSets info set (bindings :: rest) sets).toOption =
      (setOp info bindings (sets[set]?.getD [])).bind fun y => (mergeSets info (set + 1) rest (sets.set set y)).toOption := by
  rw [mergeSets, toOption_bind, toOption_mergeSlots info set bindings _ (le_length_padTo none _ _), setOp,
    joinEach_padTo none _ _ _ (by simp)]

theorem toOption_mergeSets (info : StageInterface) (sets : List (List (Option LayoutBinding)))
    (fits : info.layout.sets.length ≤ sets.length) :
    (mergeSets info 0 info.layout.sets sets).toOption = setsOp info sets :=
  toOption_walk_zero [] _ _ (fun _ _ => rfl) (toOption_mergeSets_cons info) info.layout.sets sets fits

theorem toOption_mergePush (info : StageInterface) (push : Option PushBlock) :
    (mergePush info push).toOption = pushOp info push := by
  unfold mergePush pushOp
  by_cases zero : info.layout.push.size = 0
  · simp [zero]
    rfl
  · cases push with
    | none => simp [zero, joinTagged]; rfl
    | some b =>
      by_cases agree : b.offset = info.layout.push.offset ∧ b.size = info.layout.push.size
      · simp [zero, joinTagged, agree]
        rfl
      · simp [zero, joinTagged, agree, Decidable.not_and_iff_not_or_not.mp agree]
        rfl

theorem toOption_mergeStage (merged : MergedLayout) (index : Nat) (info : StageInterface) :
    (mergeStage merged index info).toOption = joinStage merged info := by
  unfold mergeStage joinStage
  rcases valid : info.layout.push.check with _ | ⟨⟩
  · rfl
  · show (do
      let push ← mergePush info merged.push
      let sets ← mergeSets info 0 info.layout.sets (padTo info.layout.sets.length [] merged.sets)
      pure ({ push, sets } : MergedLayout)).toOption = _
    rw [toOption_bind, toOption_mergePush]
    congr 1
    funext push
    rw [toOption_bind, toOption_mergeSets info _ (le_length_padTo [] _ _), setsOp, joinEach_padTo [] _ _ _ (by simp)]
    cases joinEach [] (info.layout.sets.map (setOp info)) merged.sets <;> rfl

theorem toOption_merge (stages : List StageInterface) :
    (merge stages).toOption = stages.foldl (fun o x => o.bind (joinStage · x)) (some {}) :=
  toOption_foldlM_zipIdx _ joinStage (fun merged x i => toOption_mergeStage merged i x) stages 0 {}

end Merges

theorem joinStage_swap (o : Option MergedLayout) (x y : StageInterface) :
    (o.bind (joinStage · x)).bind (joinStage · y) = (o.bind (joinStage · y)).bind (joinStage · x) := by
  cases o with
  | none => rfl
  | some merged => exact joinStage_comm merged x y

theorem joinStage_again (o : Option MergedLayout) (x : StageInterface) :
    (o.bind (joinStage · x)).bind (joinStage · x) = o.bind (joinStage · x) := by
  cases o with
  | none => rfl
  | some merged => exact joinStage_idem merged x

theorem merge_eq_of_toOption {stages : List StageInterface} {merged : MergedLayout}
    (some_merged : (merge stages).toOption = some merged) : merge stages = .ok merged := by
  cases made : merge stages with
  | error _ => simp [made, Except.toOption] at some_merged
  | ok m => simp_all [Except.toOption]

theorem pipelineLayout_depends_only_on_stage_set {stages stages' : List StageInterface}
    (same : ∀ x, x ∈ stages ↔ x ∈ stages') :
    (merge stages).toOption = (merge stages').toOption ∧
      (∀ merged, merge stages = .ok merged →
        ∀ c, (Context.pipelineLayout stages).run c = (Context.pipelineLayout stages').run c) ∧
      (∀ v, merge stages = .error v → ∀ c, (Context.pipelineLayout stages).run c = .ok (.error (.invalid v)) c) := by
  have alike : (merge stages).toOption = (merge stages').toOption := by
    rw [toOption_merge, toOption_merge]
    exact foldl_eq_of_same_members _ joinStage_swap joinStage_again same _
  refine ⟨alike, fun merged made c => ?_, fun v failed c => ?_⟩
  · have made' : merge stages' = .ok merged := merge_eq_of_toOption (by rw [← alike, made]; rfl)
    simp only [Context.pipelineLayout, made, made']
  · simp only [Context.pipelineLayout, failed]
    rfl

-- A vertex stage with push constants and a fragment stage whose sampler count is a specialization
-- constant, given once each or with the fragment stage first and again last.
theorem vertex_and_fragment_stages_merge_in_any_order :
    let vertex : StageInterface :=
      { layout := { push := ⟨0, 16⟩, sets := [[⟨.uniformBuffer, .fixed 1⟩]] }, stage := .vertex }
    let fragment : StageInterface :=
      { layout := { sets := [[⟨.uniformBuffer, .fixed 1⟩], [⟨.combinedImageSampler, .specConstant 0⟩]] },
        stage := .fragment, specConstants := [4] }
    (merge [vertex, fragment]).toOption = (merge [fragment, vertex, fragment]).toOption ∧
      ∀ c, (Context.pipelineLayout [vertex, fragment]).run c =
        (Context.pipelineLayout [fragment, vertex, fragment]).run c := by
  intro vertex fragment
  have same : ∀ x, x ∈ [vertex, fragment] ↔ x ∈ [fragment, vertex, fragment] := by
    intro x
    simp only [List.mem_cons, List.not_mem_nil, or_false]
    constructor
    · rintro (rfl | rfl) <;> simp
    · rintro (rfl | rfl | rfl) <;> simp
  obtain ⟨alike, runs, -⟩ := pipelineLayout_depends_only_on_stage_set same
  have made : merge [vertex, fragment] = .ok ⟨some ⟨.vertex, 0, 16⟩,
      [[some ⟨.vertex ||| .fragment, .uniformBuffer, 1⟩], [some ⟨.fragment, .combinedImageSampler, 4⟩]]⟩ := by
    simp only [vertex, fragment]
    rfl
  exact ⟨alike, runs _ made⟩

end RenderCore
