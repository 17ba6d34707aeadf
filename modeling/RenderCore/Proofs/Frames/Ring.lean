import Mathlib
import RenderCore.Proofs.Action
import RenderCore.Context.Frame
namespace RenderCore.Context

def Keeps {β α : Type} (view : Context → β) (x : Act Context α) : Prop :=
  ∀ c a c', x.run c = .ok a c' → view c' = view c

namespace Keeps

variable {α β γ : Type} {view : Context → β}

theorem unchanged_trans (c₁ c₂ c₃ : Context) (first : view c₂ = view c₁) (second : view c₃ = view c₂) :
    view c₃ = view c₁ :=
  second.trans first

theorem of_pure (a : α) : Keeps view (pure a : Act Context α) :=
  Act.Respects.of_pure (R := fun c c' => view c' = view c) (fun _ => rfl) a

theorem bind {x : Act Context α} {f : α → Act Context γ} (first : Keeps view x)
    (rest : ∀ a, Keeps view (f a)) : Keeps view (x >>= f) :=
  Act.Respects.bind unchanged_trans first rest

theorem of_get : Keeps view (get : Act Context Context) :=
  Act.Respects.of_get fun _ => rfl

theorem of_modify {f : Context → Context} (keeps : ∀ c, view (f c) = view c) : Keeps view (modify f) :=
  Act.Respects.of_modify keeps

theorem of_fail (e : Error) : Keeps view (Act.fail e : Act Context α) :=
  Act.Respects.of_fail e

theorem of_device (x : Act Device α) (apart : ∀ c d, view { c with device := d } = view c) :
    Keeps view (device! x) :=
  Act.Respects.of_device fun c _ d _ => apart c d

theorem ite {p : Prop} [Decidable p] {x y : Act Context α} (yes : Keeps view x) (no : Keeps view y) :
    Keeps view (if p then x else y) :=
  Act.Respects.ite yes no

theorem forIn {δ : Type} (xs : List δ) (b : γ) {f : δ → γ → Act Context (ForInStep γ)}
    (body : ∀ x b, Keeps view (f x b)) : Keeps view (ForIn.forIn xs b f) :=
  Act.Respects.forIn (R := fun c c' => view c' = view c) (fun _ => rfl) unchanged_trans xs b body

theorem map (g : β → γ) {x : Act Context α} (keeps : Keeps view x) : Keeps (fun c => g (view c)) x :=
  fun c a c' run => congrArg g (keeps c a c' run)

theorem onFault {x : Act Context α} (keeps : Keeps view x) (cleanup : Act Context Unit) :
    Keeps view (Act.onFault x cleanup) :=
  Act.Respects.onFault keeps cleanup

theorem ring {x : Act Context α} {c c' : Context} {a : α} (keeps : Keeps (·.ring) x) (run : x.run c = .ok a c') :
    c'.ring = c.ring :=
  keeps c a c' run

end Keeps

section Untouched

variable {α : Type}

theorem keepsRing_device (x : Act Device α) : Keeps (·.ring) (device! x) :=
  Keeps.of_device x fun _ _ => rfl

theorem keepsRing_modifyTimeline (i : Nat) (f : Timeline → Timeline) : Keeps (·.ring) (modifyTimeline i f) :=
  Keeps.of_modify fun _ => rfl

theorem keepsRing_waitFor (i : Nat) (value : UInt64) : Keeps (·.ring) (waitFor i value) := by
  unfold waitFor
  refine Keeps.bind Keeps.of_get fun c => Keeps.ite (Keeps.of_pure _) ?_
  exact Keeps.bind (keepsRing_device _) fun _ => keepsRing_modifyTimeline _ _

theorem keepsRing_letGo (i : Nat) : Keeps (·.ring) (letGo i) := by
  unfold letGo
  refine Keeps.bind (keepsRing_modifyTimeline _ _) fun _ => Keeps.bind Keeps.of_get fun c => ?_
  refine Keeps.ite ?_ (Keeps.of_pure _)
  exact Keeps.bind (keepsRing_waitFor _ _) fun _ => keepsRing_device _

theorem keepsRing_submitted (t : Ticket) : Keeps (·.ring) (submitted t) :=
  Keeps.bind (keepsRing_modifyTimeline _ _) fun _ => keepsRing_letGo _

theorem keepsRing_runDestroyer (d : Destroyer) : Keeps (·.ring) (runDestroyer d) := by
  cases d with
  | release s => exact Keeps.of_modify fun _ => rfl
  | destroy h => exact keepsRing_device _
  | note id => exact keepsRing_device _

theorem keepsRing_runDestroyers (ds : List Destroyer) : Keeps (·.ring) (runDestroyers ds) := by
  unfold runDestroyers
  refine Keeps.bind (Keeps.forIn ds _ fun d _ => ?_) fun _ => Keeps.of_pure _
  exact Keeps.bind (keepsRing_runDestroyer d) fun _ => Keeps.of_pure _

theorem keepsRing_awaitSlot (s : Slot) : Keeps (·.ring) (awaitSlot s) := by
  unfold awaitSlot
  cases s.waiter with
  | some w => exact Keeps.bind (Keeps.onFault (keepsRing_waitFor _ _) _) fun _ => keepsRing_letGo _
  | none => exact keepsRing_device _

theorem keepsRing_destroyTransient (hs : List Handle) : Keeps (·.ring) (destroyTransient hs) :=
  Keeps.bind (Keeps.forIn _ _ fun _ _ => Keeps.bind (keepsRing_device _) fun _ => Keeps.of_pure _) fun _ =>
    Keeps.of_pure _

theorem keepsRing_reclaim (s : Slot) : Keeps (·.ring) (reclaim s) :=
  Keeps.bind (keepsRing_awaitSlot s) fun _ => Keeps.bind (keepsRing_destroyTransient _) fun _ =>
    keepsRing_runDestroyers _

end Untouched

end RenderCore.Context

namespace RenderCore

def Slot.cleared (s : Slot) : Slot := { s with waiter := none, transient := [], deferred := [] }

namespace Context

variable {c c' : Context}

theorem ring_waitSlot {i n : Nat} (run : (waitSlot i).run c = .ok n c') :
    c'.ring = { c.ring with slots := c.ring.slots.modify i Slot.cleared } := by
  simp only [waitSlot, EStateM.run_bind, EStateM.run_get, modifySlot, modifyRing, EStateM.run_modify] at run
  split at run
  · rename_i c₁ awaited
    split at run
    · rename_i c₂ destroyed
      rw [(keepsRing_runDestroyers _).ring run]
      simp only [(keepsRing_destroyTransient _).ring destroyed, (keepsRing_awaitSlot _).ring awaited,
        List.modify_modify_eq]
      rfl
    · cases run
  · cases run

theorem ring_beginFrame {f : Frame} (run : beginFrame.run c = .ok f c') :
    c.ring.recording = none ∧ f.index = c.ring.index ∧
      c'.ring = { c.ring with slots := c.ring.slots.modify c.ring.index Slot.cleared, recording := some f } := by
  simp only [beginFrame, EStateM.run_bind, EStateM.run_get] at run
  split at run
  · simp at run
  · rename_i idle
    simp only [EStateM.run_bind, EStateM.run_get, Act.run_discard] at run
    cases wait : (waitSlot c.ring.index).run c with
    | error e c₁ => simp [wait] at run
    | ok n c₁ =>
      have ring₁ := ring_waitSlot wait
      simp only [wait, run_device!, Device.record, EStateM.run_modify, modifyRing, EStateM.run_pure,
        EStateM.Result.ok.injEq] at run
      obtain ⟨rfl, rfl⟩ := run
      refine ⟨by simpa using idle, rfl, ?_⟩
      simp [ring₁]

theorem run_deferDestroy (f : Frame) (d : Destroyer) :
    (deferDestroy f d).run c =
      .ok () { c with ring := { c.ring with
        slots := c.ring.slots.modify f.index fun s => { s with deferred := s.deferred ++ [d] } } } := rfl

theorem run_queueDestroy (d : Destroyer) :
    (queueDestroy d).run c = .ok () { c with ring := { c.ring with mailbox := c.ring.mailbox ++ [d] } } := rfl

theorem ring_surface {f : Frame} {o : Option Handle} (run : (surface f).run c = .ok o c') :
    c'.ring.slots = c.ring.slots ∧ c'.ring.mailbox = c.ring.mailbox ∧ c'.ring.index = c.ring.index ∧
      c'.ring.absolute = c.ring.absolute ∧ c'.ring.recording.map (·.index) = c.ring.recording.map (·.index) := by
  simp only [surface, EStateM.run_bind, EStateM.run_get] at run
  split at run
  · rw [EStateM.run_pure, EStateM.Result.ok.injEq] at run
    simp [← run.2]
  split at run
  · rw [EStateM.run_pure, EStateM.Result.ok.injEq] at run
    simp [← run.2]
  simp only [EStateM.run_bind, EStateM.run_get] at run
  cases waited : (device! (Device.wait (.frame (c.frameHandle f)))).run c with
  | error e c₁ => simp [waited] at run
  | ok u c₁ =>
    have same₁ := (keepsRing_device _).ring waited
    simp only [waited] at run
    cases acquired : (device! (Device.acquire (c.frameHandle f))).run c₁ with
    | error e c₂ => simp [acquired] at run
    | ok a c₂ =>
      have same₂ := (keepsRing_device _).ring acquired
      simp only [acquired] at run
      split at run
      · simp at run
      · simp only [modifyRing, EStateM.run_bind, EStateM.run_modify, EStateM.run_pure, EStateM.Result.ok.injEq] at run
        simp [← run.2, same₂, same₁]
      · simp only [modifyFrame, modifyRing, EStateM.run_bind, EStateM.run_modify, EStateM.run_pure,
          EStateM.Result.ok.injEq] at run
        simp [← run.2, same₂, same₁, Option.map_map, Function.comp_def]

theorem ring_scratch {f : Frame} {name : String} {size : UInt64} {usage : BufferUsage} {b : Scratch}
    (run : (scratch f name size usage).run c = .ok b c') :
    c'.ring = { c.ring with
      slots := c.ring.slots.modify f.index fun s => { s with transient := s.transient ++ [b.handle] }
      recording := c.ring.recording.map fun f => { f with cancelable := false } } := by
  obtain ⟨made, c₁, created, run⟩ := Act.run_bind_ok run
  have same := (keepsRing_device _).ring created
  split at run
  · simp at run
  · simp only [modifySlot, modifyFrame, modifyRing, EStateM.run_bind, EStateM.run_modify, EStateM.run_pure,
      EStateM.Result.ok.injEq] at run
    obtain ⟨rfl, rfl⟩ := run
    simp [same]

theorem ring_commandBuffer {f : Frame} {name : String} {h : Handle}
    (run : (commandBuffer f name).run c = .ok h c') :
    c'.ring = { c.ring with
      slots := c.ring.slots.modify f.index fun s => { s with transient := s.transient ++ [h] }
      recording := c.ring.recording.map fun f =>
        { f with cancelable := false, commandBuffers := f.commandBuffers ++ [h] } } := by
  obtain ⟨made, c₁, created, run⟩ := Act.run_bind_ok run
  have same := (keepsRing_device _).ring created
  split at run
  · simp at run
  · simp only [modifySlot, modifyFrame, modifyRing, EStateM.run_bind, EStateM.run_modify, EStateM.run_pure,
      EStateM.Result.ok.injEq] at run
    obtain ⟨rfl, rfl⟩ := run
    simp [same]

theorem ring_closeUnsubmitted {f : Frame} {u : Unit} (run : (closeUnsubmitted f).run c = .ok u c') :
    c'.ring = { c.ring with slots := c.ring.slots.modify f.index fun s => { s with waiter := none } } := by
  obtain ⟨c₀, s₀, got, run⟩ := Act.run_bind_ok run
  rw [EStateM.run_get, EStateM.Result.ok.injEq] at got
  obtain ⟨rfl, rfl⟩ := got
  obtain ⟨u₁, c₁, logged, run⟩ := Act.run_bind_ok run
  have same := (keepsRing_device _).ring logged
  simp only [EStateM.run_bind, EStateM.run_get, modifySlot, modifyRing, EStateM.run_modify] at run
  split at run
  · rw [(keepsRing_letGo _).ring run]
    simp [same]
  · rw [EStateM.run_pure, EStateM.Result.ok.injEq] at run
    simp [← run.2, same]

theorem ring_dropTickets {f : Frame} {u : Unit} (run : (dropTickets f).run c = .ok u c') :
    c'.ring = { c.ring with recording := none } := by
  obtain ⟨u₁, c₁, dropped, run⟩ := Act.run_bind_ok run
  simp only [modifyRing, EStateM.run_modify, EStateM.Result.ok.injEq] at dropped
  obtain ⟨-, rfl⟩ := dropped
  refine (Keeps.bind (Keeps.forIn _ _ fun t _ => ?_) fun _ => Keeps.of_pure _).ring run
  exact Keeps.bind (keepsRing_letGo _) fun _ => Keeps.of_pure _

theorem ring_cancel {f : Frame} {u : Unit} (run : (cancel f).run c = .ok u c') :
    f.cancelable = true ∧ c'.ring = { c.ring with
      slots := c.ring.slots.modify f.index (fun s => { s with waiter := none }), recording := none } := by
  simp only [cancel] at run
  split at run
  · -- a frame that made objects is not cancelled: the misuse is fatal
    obtain ⟨u₁, c₁, checked, -⟩ := Act.run_bind_ok run
    simp only [Act.run_onFault, Act.run_fail] at checked
    split at checked <;> cases checked
  · rename_i cancelable
    obtain ⟨u₁, c₁, closed, run⟩ := Act.run_bind_ok run
    refine ⟨by simpa using cancelable, ?_⟩
    rw [ring_dropTickets run, ring_closeUnsubmitted closed]

def queueView (r : Ring) : List Slot × List Destroyer × Nat × Nat :=
  (r.slots, r.mailbox, r.index, r.absolute)

theorem ring_endFrame {f : Frame} {w : Option Waiter} {ds : List Destroyer} {u : Unit}
    (run : (endFrame f w ds).run c = .ok u c') :
    c'.ring.slots = c.ring.slots.modify f.index
        (fun s => { s with deferred := s.deferred ++ c.ring.mailbox ++ ds, waiter := w }) ∧
      c'.ring.mailbox = [] ∧ c'.ring.recording = none ∧
      c'.ring.index = (f.index + 1) % c.ring.slots.length ∧ c'.ring.absolute = c.ring.absolute + 1 := by
  simp only [endFrame] at run
  obtain ⟨u₁, c₁, submitted, run⟩ := Act.run_bind_ok run
  -- submitting changes only the frame being recorded and whether the ring sleeps
  have kept : queueView c₁.ring = queueView c.ring := by
    refine (?_ : Keeps (fun c => queueView c.ring) _) c u₁ c₁ submitted
    refine Keeps.onFault (Keeps.ite (Keeps.bind (Keeps.of_fail _) fun _ => ?_) ?_) _
    all_goals
      refine Keeps.bind Keeps.of_get fun c₀ => Keeps.ite ?_ (Keeps.of_pure _)
      refine Keeps.bind (Keeps.of_device _ fun _ _ => rfl) fun result => ?_
      split
      · exact Keeps.of_fail _
      · refine Keeps.bind (Keeps.of_modify fun _ => rfl) fun _ => Keeps.bind ?_ fun _ =>
          Keeps.ite (Keeps.of_modify fun _ => rfl) (Keeps.of_pure _)
        exact Keeps.forIn _ _ fun t _ =>
          Keeps.bind ((keepsRing_submitted t).map queueView) fun _ => Keeps.of_pure _
  simp only [queueView, Prod.mk.injEq] at kept
  obtain ⟨slots, mailbox, index, absolute⟩ := kept
  obtain ⟨c₀, s₀, got, run⟩ := Act.run_bind_ok run
  rw [EStateM.run_get, EStateM.Result.ok.injEq] at got
  obtain ⟨rfl, rfl⟩ := got
  obtain ⟨u₂, c₂, logged, run⟩ := Act.run_bind_ok run
  have same := (keepsRing_device _).ring logged
  simp only [EStateM.run_bind, EStateM.run_get, modifyRing, modifySlot, EStateM.run_modify,
    EStateM.Result.ok.injEq] at run
  obtain ⟨-, rfl⟩ := run
  simp [same, slots, mailbox, absolute]

theorem ring_forIn_slots {δ γ : Type} (g : δ → List Slot → List Slot) {f : δ → γ → Act Context (ForInStep γ)}
    (body : ∀ x b c s c', (f x b).run c = .ok s c' →
      c'.ring = { c.ring with slots := g x c.ring.slots } ∧ ∃ b', s = .yield b') :
    ∀ (xs : List δ) (b : γ) (c c' : Context) (a : γ), (forIn xs b f).run c = .ok a c' →
      c'.ring = { c.ring with slots := xs.foldl (fun l x => g x l) c.ring.slots } := by
  intro xs
  induction xs with
  | nil =>
    intro b c c' a run
    rw [List.forIn_nil, EStateM.run_pure, EStateM.Result.ok.injEq] at run
    obtain ⟨-, rfl⟩ := run
    rfl
  | cons x rest ih =>
    intro b c c' a run
    rw [List.forIn_cons] at run
    obtain ⟨s, c₁, first, run⟩ := Act.run_bind_ok run
    obtain ⟨moved, b', rfl⟩ := body x b c s c₁ first
    rw [ih b' c₁ c' a run, moved]
    rfl

theorem foldl_modify_range {α : Type} (g : α → α) (l : List α) :
    ∀ n ≤ l.length, (List.range n).foldl (fun l i => l.modify i g) l = (l.take n).map g ++ l.drop n := by
  intro n
  induction n with
  | zero => intro _; simp
  | succ n ih =>
    intro fits
    rw [List.range_succ, List.foldl_append, ih (by omega), List.foldl_cons, List.foldl_nil]
    apply List.ext_getElem
    · simp only [List.length_modify, List.length_append, List.length_map, List.length_take, List.length_drop]
      omega
    · intro i before after
      simp only [List.getElem_modify, List.getElem_append, List.length_map, List.length_take, List.getElem_map,
        List.getElem_take, List.getElem_drop]
      grind

def WaitTurns {γ : Type} (g : Nat → γ → Act Context (ForInStep γ)) : Prop :=
  ∀ idx b c s c', (g idx b).run c = .ok s c' → (∃ m, (waitSlot idx).run c = .ok m c') ∧ ∃ b', s = .yield b'

theorem waitTurns_sum : WaitTurns (fun idx (n : Nat) => do
    let m ← waitSlot idx
    pure (ForInStep.yield (n + m))) := by
  intro idx n c s c' run
  obtain ⟨m, c₁, waited, run⟩ := Act.run_bind_ok run
  rw [EStateM.run_pure, EStateM.Result.ok.injEq] at run
  obtain ⟨rfl, rfl⟩ := run
  exact ⟨⟨m, waited⟩, _, rfl⟩

theorem waitTurns_discard : WaitTurns (fun idx (_ : PUnit) => do
    discard (waitSlot idx)
    pure (ForInStep.yield PUnit.unit)) := by
  intro idx u c s c' run
  obtain ⟨m, c₁, waited, run⟩ := Act.run_bind_ok run
  rw [Act.run_discard] at waited
  split at waited
  · rename_i k c₂ slotWaited
    rw [EStateM.Result.ok.injEq] at waited
    obtain ⟨-, rfl⟩ := waited
    rw [EStateM.run_pure, EStateM.Result.ok.injEq] at run
    obtain ⟨rfl, rfl⟩ := run
    exact ⟨⟨k, slotWaited⟩, _, rfl⟩
  · cases waited

theorem ring_forIn_waits {γ : Type} {g : Nat → γ → Act Context (ForInStep γ)} (turns : WaitTurns g) {b a : γ}
    (run : (forIn (List.range c.ring.slots.length) b g).run c = .ok a c') :
    c'.ring = { c.ring with slots := c.ring.slots.map Slot.cleared } := by
  have cleared := ring_forIn_slots (fun i l => l.modify i Slot.cleared) (fun i b c s c' run => by
    obtain ⟨⟨m, waited⟩, next⟩ := turns i b c s c' run
    exact ⟨ring_waitSlot waited, next⟩) _ _ _ _ _ run
  rwa [foldl_modify_range _ _ _ (Nat.le_refl _), List.take_length, List.drop_length, List.append_nil] at cleared

theorem ring_waitAll {res : Except Error Nat} (idle : c.ring.recording = none) (run : waitAll.run c = .ok res c') :
    c'.ring = { c.ring with slots := c.ring.slots.map Slot.cleared, mailbox := [] } := by
  simp only [waitAll, EStateM.run_bind, EStateM.run_get, idle, Option.isSome_none, Bool.false_eq_true, if_false] at run
  split at run
  · rename_i n c₁ waited
    have cleared := ring_forIn_waits waitTurns_sum waited
    simp only [modifyRing, EStateM.run_modify] at run
    split at run
    · rename_i m c₂ ran
      rw [EStateM.run_pure, EStateM.Result.ok.injEq] at run
      rw [← run.2, (keepsRing_runDestroyers _).ring ran, cleared]
    · cases run
  · cases run

theorem keepsRing_destroySlot (s : Slot) : Keeps (·.ring) (destroySlot s) :=
  Keeps.bind (keepsRing_reclaim s) fun _ => Keeps.bind (keepsRing_device _) fun _ => Keeps.of_pure _

theorem keepsRing_destroySlots : ∀ slots : List Slot, Keeps (·.ring) (destroySlots slots)
  | [] => Keeps.of_pure _
  | s :: rest => Keeps.bind (Keeps.onFault (keepsRing_destroySlot s) _) fun _ =>
      Keeps.bind (keepsRing_destroySlots rest) fun _ => Keeps.of_pure _

theorem ring_destroyRing {n : Nat} (run : destroyRing.run c = .ok n c') :
    c'.ring = { c.ring with slots := [], len := 0, mailbox := [] } := by
  simp only [destroyRing, EStateM.run_bind, EStateM.run_get, modifyRing, EStateM.run_modify] at run
  split at run
  · rename_i m c₁ destroyed
    split at run
    · rename_i k c₂ ran
      rw [EStateM.run_pure, EStateM.Result.ok.injEq] at run
      rw [← run.2, (keepsRing_runDestroyers _).ring ran]
      simp [(keepsRing_destroySlots _).ring destroyed]
    · cases run
  · cases run

theorem Device.create_kind {kind : HandleKind} {pool : Option Handle} {d d' : Device} {h : Handle}
    (run : (Device.create kind pool).run d = .ok (.ok h) d') : h.kind = kind := by
  simp only [Device.create, Device.create.made, Device.track, Device.fresh, Device.record, EStateM.run_bind,
    EStateM.run_get] at run
  split at run
  · split at run
    · cases run
    · split at run <;> cases run <;> rfl
  · split at run <;> cases run <;> rfl

theorem Device.createFrame_kind {d d' : Device} {h : Handle} (run : Device.createFrame.run d = .ok (.ok h) d') :
    h.kind = .frame := by
  simp only [Device.createFrame, EStateM.run_bind, EStateM.run_get] at run
  split at run
  · exact Device.create_kind run
  · rename_i next rest scripted
    simp only [EStateM.run_bind, EStateM.run_set] at run
    cases next with
    | some f => cases run
    | none => exact Device.create_kind run

theorem newSlot_empty {i : Nat} {r : Except Error Slot} (run : (newSlot i).run c = .ok r c') :
    c'.ring = c.ring ∧ ∀ s, r = .ok s →
      s.deferred = [] ∧ s.transient = [] ∧ s.waiter = none ∧ s.handle.kind = .frame := by
  obtain ⟨made, c₁, created, run⟩ := Act.run_bind_ok run
  have same := (keepsRing_device _).ring created
  obtain ⟨d', created, -⟩ := run_device_ok created
  cases made with
  | ok h =>
    simp only [EStateM.run_pure, EStateM.Result.ok.injEq] at run
    obtain ⟨rfl, rfl⟩ := run
    refine ⟨same, fun s made => ?_⟩
    cases made
    exact ⟨rfl, rfl, rfl, Device.createFrame_kind created⟩
  | error e =>
    simp only [EStateM.run_pure, EStateM.Result.ok.injEq] at run
    obtain ⟨rfl, rfl⟩ := run
    exact ⟨same, fun s made => by cases made⟩

theorem ring_forIn_appends {δ β : Type} (P : Slot → Prop) {f : δ → Option β × Unit → Act Context (ForInStep (Option β × Unit))}
    (body : ∀ x b c s c', (f x b).run c = .ok s c' →
      (∃ fresh : Slot, P fresh ∧ c'.ring = { c.ring with slots := c.ring.slots ++ [fresh] } ∧ s = .yield (none, ())) ∨
      (c'.ring = c.ring ∧ ∃ e, s = .done (some e, ()))) :
    ∀ (xs : List δ) (b : Option β × Unit) (c c' : Context) (a : Option β × Unit), (forIn xs b f).run c = .ok a c' →
      ∃ fresh : List Slot, (∀ s ∈ fresh, P s) ∧
        c'.ring = { c.ring with slots := c.ring.slots ++ fresh } ∧ (a.1 = none → fresh.length = xs.length) ∧
        (b.1 = none → a.1 ≠ none → xs ≠ []) := by
  intro xs
  induction xs with
  | nil =>
    intro b c c' a run
    rw [List.forIn_nil, EStateM.run_pure, EStateM.Result.ok.injEq] at run
    obtain ⟨rfl, rfl⟩ := run
    exact ⟨[], by simp, by simp, fun _ => rfl, fun unset set => absurd unset set⟩
  | cons x rest ih =>
    intro b c c' a run
    rw [List.forIn_cons] at run
    obtain ⟨s, c₁, first, run⟩ := Act.run_bind_ok run
    rcases body x b c s c₁ first with ⟨slot, made, grown, rfl⟩ | ⟨same, e, rfl⟩
    · obtain ⟨fresh, empty, moved, complete, -⟩ := ih _ c₁ c' a run
      refine ⟨slot :: fresh, ?_, ?_, fun finished => by simp [complete finished], fun _ _ => by simp⟩
      · intro s member
        rcases List.mem_cons.mp member with rfl | later
        · exact made
        · exact empty s later
      · rw [moved, grown]
        simp
    · rw [EStateM.run_pure, EStateM.Result.ok.injEq] at run
      obtain ⟨rfl, rfl⟩ := run
      exact ⟨[], by simp, by simp [same], fun stopped => by simp at stopped, fun _ _ => by simp⟩

theorem foldl_dropLast {α β : Type} (xs : List β) (l : List α) :
    xs.foldl (fun l _ => l.dropLast) l = l.take (l.length - xs.length) := by
  induction xs generalizing l with
  | nil => simp
  | cons x rest ih =>
    rw [List.foldl_cons, ih, List.dropLast_eq_take, List.take_take, List.length_take, List.length_cons]
    congr 1
    omega

theorem take_length_sub_sub {α : Type} (l : List α) (n : Nat) : l.take (l.length - (l.length - n)) = l.take n := by
  rcases Nat.le_total n l.length with within | beyond
  · congr 1
    omega
  · rw [List.take_of_length_le (by omega), List.take_of_length_le beyond]

theorem run_popTurn {s : Slot} {st : ForInStep PUnit}
    (run : (do
      modifyRing fun r => { r with slots := r.slots.dropLast }
      discard (destroySlot s)
      pure (ForInStep.yield PUnit.unit) : Act Context (ForInStep PUnit)).run c = .ok st c') :
    st = .yield PUnit.unit ∧
      ∃ n, (destroySlot s).run { c with ring := { c.ring with slots := c.ring.slots.dropLast } } = .ok n c' := by
  obtain ⟨_, c₁, popped, run⟩ := Act.run_bind_ok run
  rw [modifyRing, EStateM.run_modify, EStateM.Result.ok.injEq] at popped
  obtain ⟨-, rfl⟩ := popped
  obtain ⟨_, c₂, destroyed, run⟩ := Act.run_bind_ok run
  rw [EStateM.run_pure, EStateM.Result.ok.injEq] at run
  obtain ⟨rfl, rfl⟩ := run
  rw [Act.run_discard] at destroyed
  split at destroyed
  · rename_i n c₃ slotDestroyed
    rw [EStateM.Result.ok.injEq] at destroyed
    obtain ⟨-, rfl⟩ := destroyed
    exact ⟨rfl, n, slotDestroyed⟩
  · cases destroyed

theorem ring_forIn_pops {f : Slot → PUnit → Act Context (ForInStep PUnit)}
    (body : ∀ s b c st c', (f s b).run c = .ok st c' →
      c'.ring = { c.ring with slots := c.ring.slots.dropLast } ∧ ∃ b', st = .yield b')
    (xs : List Slot) {b u : PUnit} (run : (forIn xs b f).run c = .ok u c') :
    c'.ring = { c.ring with slots := c.ring.slots.take (c.ring.slots.length - xs.length) } := by
  rw [ring_forIn_slots (fun _ l => l.dropLast) body xs b c c' u run, foldl_dropLast]

theorem ring_popTurns (xs : List Slot) {u : PUnit}
    (run : (forIn xs PUnit.unit fun s _ => (do
      modifyRing fun r => { r with slots := r.slots.dropLast }
      discard (destroySlot s)
      pure (ForInStep.yield PUnit.unit) : Act Context (ForInStep PUnit))).run c = .ok u c') :
    c'.ring = { c.ring with slots := c.ring.slots.take (c.ring.slots.length - xs.length) } :=
  ring_forIn_pops (fun s _ _ _ _ turn => by
    obtain ⟨rfl, _, slotDestroyed⟩ := run_popTurn turn
    exact ⟨(keepsRing_destroySlot s).ring slotDestroyed, _, rfl⟩) xs run

theorem ring_resizeRing {n : Nat} {res : Except Error Unit} (grows : 0 < n) (idle : c.ring.recording = none)
    (run : (resizeRing n).run c = .ok res c') :
    c'.ring.mailbox = c.ring.mailbox ∧ c'.ring.absolute = c.ring.absolute ∧ c'.ring.recording = none ∧
      ∃ fresh : List Slot, (∀ s ∈ fresh, s.deferred = [] ∧ s.transient = [] ∧ s.waiter = none ∧ s.handle.kind = .frame) ∧
        c'.ring.slots = (c.ring.slots.map Slot.cleared).take n ++ fresh ∧
        (c'.ring.index = 0 ∧ c'.ring.slots.length = n ∨
          c'.ring.index = c.ring.index ∧ c.ring.slots.length ≤ c'.ring.slots.length) := by
  simp only [resizeRing, Nat.pos_iff_ne_zero.mp grows, if_false, EStateM.run_bind, EStateM.run_get, idle,
    Option.isSome_none, Bool.false_eq_true] at run
  split at run
  · rename_i u₁ c₁ waited
    have ring₁ := ring_forIn_waits waitTurns_discard waited
    simp only [modifyRing, EStateM.run_modify] at run
    split at run
    · rename_i u₃ c₃ destroyed
      have ring₃ := ring_popTurns _ destroyed
      split at run
      · rename_i st c₄ created
        obtain ⟨fresh, empty, ring₄, complete, started⟩ := ring_forIn_appends
          (fun s => s.deferred = [] ∧ s.transient = [] ∧ s.waiter = none ∧ s.handle.kind = .frame) (fun i b c s c' run => by
          obtain ⟨made, c₁, madeRun, run⟩ := Act.run_bind_ok run
          obtain ⟨same, madeEmpty⟩ := newSlot_empty madeRun
          split at run
          · rename_i slot
            simp only [EStateM.run_bind, EStateM.run_modify, EStateM.run_pure, EStateM.Result.ok.injEq] at run
            obtain ⟨rfl, rfl⟩ := run
            exact .inl ⟨slot, madeEmpty slot rfl, by simp [same], rfl⟩
          · rw [EStateM.run_pure, EStateM.Result.ok.injEq] at run
            obtain ⟨rfl, rfl⟩ := run
            exact .inr ⟨same, _, rfl⟩) _ _ _ _ _ created
        have slots₄ : c₄.ring.slots = (c.ring.slots.map Slot.cleared).take n ++ fresh := by
          rw [ring₄, ring₃, ring₁]
          simp only [List.length_reverse, List.length_drop, take_length_sub_sub]
        split at run
        · rename_i r stopped
          rw [EStateM.run_pure, EStateM.Result.ok.injEq] at run
          obtain ⟨-, rfl⟩ := run
          have more := started rfl (by simp [stopped])
          simp only [ne_eq, List.range'_eq_nil_iff, ring₁, List.length_map] at more
          refine ⟨by simp [ring₄, ring₃, ring₁], by simp [ring₄, ring₃, ring₁], by simp [ring₄, ring₃, ring₁, idle],
            fresh, empty, slots₄, .inr ⟨by simp [ring₄, ring₃, ring₁], ?_⟩⟩
          rw [slots₄]
          simp only [List.length_append, List.length_take, List.length_map]
          omega
        · rename_i finished
          simp only [EStateM.run_bind, EStateM.run_modify, EStateM.run_pure, EStateM.Result.ok.injEq] at run
          obtain ⟨-, rfl⟩ := run
          have counted := complete finished
          simp only [List.length_range', ring₁, List.length_map] at counted
          refine ⟨by simp [ring₄, ring₃, ring₁], by simp [ring₄, ring₃, ring₁], by simp [ring₄, ring₃, ring₁, idle],
            fresh, empty, slots₄, .inl ⟨rfl, ?_⟩⟩
          change c₄.ring.slots.length = n
          rw [slots₄]
          simp only [List.length_append, List.length_take, List.length_map]
          omega
      · cases run
    · cases run
  · cases run

end Context

end RenderCore
