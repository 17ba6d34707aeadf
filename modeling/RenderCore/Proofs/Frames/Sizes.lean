import RenderCore.Context.Renderer
import RenderCore.Proofs.Device
import RenderCore.Proofs.Frames.Live
import RenderCore.Proofs.Frames.Reclaim
namespace RenderCore

open Relation

namespace Device

theorem count_destroy {h : Handle} {d d' : Device} {u : Unit} (run : (destroy h).run d = .ok u d')
    (k : Handle) : d'.live.count k + [h].count k ≤ d.live.count k := by
  simp only [destroy, record, EStateM.run_bind, EStateM.run_get] at run
  split at run
  · rename_i present
    cases run
    -- the copies left are those of the list with one copy of `h` erased
    refine Nat.le_trans (Nat.add_le_add_right (List.filter_sublist.count_le k) _) ?_
    have held : 0 < d.live.count h := List.count_pos_iff.mpr (by simpa using present)
    rw [List.count_erase]
    by_cases same : h = k
    · subst same
      simp only [beq_self_eq_true, if_true, List.count_singleton_self]
      omega
    · simp [same]
  · cases run

theorem create_frame_live {d d' : Device} {r : Except DeviceFailure Handle} (run : (create .frame).run d = .ok r d') :
    (∃ h, r = .ok h ∧ h.kind = .frame ∧ d'.live = d.live ++ [h]) ∨ (∃ f, r = .error f ∧ d'.live = d.live) := by
  by_cases armed : ∃ f, d.failNext = some (.frame, f)
  · obtain ⟨f, failing⟩ := armed
    rw [run_create_armed .frame f none d failing, EStateM.Result.ok.injEq] at run
    obtain ⟨rfl, rfl⟩ := run
    exact .inr ⟨f, rfl, rfl⟩
  · rw [run_create_fresh .frame d fun f failing => armed ⟨f, failing⟩, EStateM.Result.ok.injEq] at run
    obtain ⟨rfl, rfl⟩ := run
    exact .inl ⟨_, rfl, rfl, rfl⟩

theorem createFrame_live {d d' : Device} {r : Except DeviceFailure Handle} (run : createFrame.run d = .ok r d') :
    (∃ h, r = .ok h ∧ h.kind = .frame ∧ d'.live = d.live ++ [h]) ∨ (∃ f, r = .error f ∧ d'.live = d.live) := by
  simp only [createFrame, EStateM.run_bind, EStateM.run_get] at run
  split at run
  · exact create_frame_live run
  · rename_i next rest scripted
    simp only [EStateM.run_bind, EStateM.run_set] at run
    cases next with
    | some f =>
      rw [EStateM.run_pure, EStateM.Result.ok.injEq] at run
      obtain ⟨rfl, rfl⟩ := run
      exact .inr ⟨f, rfl, rfl⟩
    | none =>
      have made := create_frame_live run
      exact made

end Device

namespace Context

variable {c c' : Context}

theorem newSlot_frames {i : Nat} {r : Except Error Slot} (run : (newSlot i).run c = .ok r c') :
    c'.ring = c.ring ∧
      ((∃ s, r = .ok s ∧ s.handle.kind = .frame ∧ c'.device.live = c.device.live ++ [s.handle]) ∨
        (∃ e, r = .error e ∧ c'.device.live = c.device.live)) := by
  obtain ⟨made, c₁, created, run⟩ := Act.run_bind_ok run
  obtain ⟨d', createRun, rfl⟩ := run_device_ok created
  rcases Device.createFrame_live createRun with ⟨h, rfl, frame, live⟩ | ⟨f, rfl, live⟩
  · rw [EStateM.run_pure, EStateM.Result.ok.injEq] at run
    obtain ⟨rfl, rfl⟩ := run
    exact ⟨rfl, .inl ⟨_, rfl, frame, live⟩⟩
  · rw [EStateM.run_pure, EStateM.Result.ok.injEq] at run
    obtain ⟨rfl, rfl⟩ := run
    exact ⟨rfl, .inr ⟨_, rfl, live⟩⟩

-- One turn of a loop that makes slots: it appends a new frame slot, whose frame the device now holds,
-- or it stops with an error and changes neither the ring nor the live objects.
def SlotTurn (c : Context) (s : ForInStep (Option (Except Error Unit) × Unit)) (c' : Context) : Prop :=
  (∃ fresh : Slot, fresh.handle.kind = .frame ∧ c'.ring = { c.ring with slots := c.ring.slots ++ [fresh] } ∧
      c'.device.live = c.device.live ++ [fresh.handle] ∧ s = .yield (none, ())) ∨
    (c'.ring = c.ring ∧ c'.device.live = c.device.live ∧ ∃ e, s = .done (some (.error e), ()))

theorem slotTurn_made {i : Nat} {c₁ : Context} {s : Slot} (made : (newSlot i).run c = .ok (.ok s) c₁) :
    SlotTurn c (.yield (none, ())) { c₁ with ring := { c₁.ring with slots := c₁.ring.slots ++ [s] } } := by
  obtain ⟨same, ⟨s', madeS, frame, live⟩ | ⟨e, failed, -⟩⟩ := newSlot_frames made
  · cases madeS
    exact .inl ⟨s, frame, by simp [same], live, rfl⟩
  · cases failed

theorem slotTurn_failed {i : Nat} {c₁ : Context} {e : Error} (made : (newSlot i).run c = .ok (.error e) c₁) :
    SlotTurn c (.done (some (.error e), ())) c₁ := by
  obtain ⟨same, ⟨s, madeS, -⟩ | ⟨e', failed, live⟩⟩ := newSlot_frames made
  · cases madeS
  · exact .inr ⟨same, live, e, rfl⟩

theorem slotTurn_of_newSlot {i : Nat}
    {k : Except Error Slot → Act Context (ForInStep (Option (Except Error Unit) × Unit))}
    {s : ForInStep (Option (Except Error Unit) × Unit)} (run : (newSlot i >>= k).run c = .ok s c')
    (appends : ∀ slot c, (k (.ok slot)).run c =
      .ok (.yield (none, ())) { c with ring := { c.ring with slots := c.ring.slots ++ [slot] } })
    (stops : ∀ e c, (k (.error e)).run c = .ok (.done (some (.error e), ())) c) : SlotTurn c s c' := by
  obtain ⟨made, c₁, madeRun, run⟩ := Act.run_bind_ok run
  cases made with
  | ok slot =>
    rw [appends, EStateM.Result.ok.injEq] at run
    obtain ⟨rfl, rfl⟩ := run
    exact slotTurn_made madeRun
  | error e =>
    rw [stops, EStateM.Result.ok.injEq] at run
    obtain ⟨rfl, rfl⟩ := run
    exact slotTurn_failed madeRun

theorem frames_forIn_slotTurns {δ : Type}
    {f : δ → Option (Except Error Unit) × Unit → Act Context (ForInStep (Option (Except Error Unit) × Unit))}
    (body : ∀ x b c s c', (f x b).run c = .ok s c' → SlotTurn c s c') :
    ∀ (xs : List δ) (c c' : Context) (a : Option (Except Error Unit) × Unit),
      (forIn xs (none, ()) f).run c = .ok a c' →
      ∃ fresh : List Slot, (∀ s ∈ fresh, s.handle.kind = .frame) ∧
        c'.ring = { c.ring with slots := c.ring.slots ++ fresh } ∧
        c'.device.live = c.device.live ++ fresh.map (·.handle) ∧
        (a.1 = none ∧ fresh.length = xs.length ∨ (∃ e, a.1 = some (.error e)) ∧ fresh.length < xs.length) := by
  intro xs
  induction xs with
  | nil =>
    intro c c' a run
    rw [List.forIn_nil, EStateM.run_pure, EStateM.Result.ok.injEq] at run
    obtain ⟨rfl, rfl⟩ := run
    exact ⟨[], by simp, by simp, by simp, .inl ⟨rfl, rfl⟩⟩
  | cons x rest ih =>
    intro c c' a run
    rw [List.forIn_cons] at run
    obtain ⟨s, c₁, first, run⟩ := Act.run_bind_ok run
    rcases body x _ c s c₁ first with ⟨slot, frame, grown, made, rfl⟩ | ⟨same, kept, e, rfl⟩
    · obtain ⟨fresh, frames, moved, live, ended⟩ := ih c₁ c' a run
      refine ⟨slot :: fresh, ?_, ?_, ?_, ?_⟩
      · intro s member
        rcases List.mem_cons.mp member with rfl | later
        · exact frame
        · exact frames s later
      · rw [moved, grown]
        simp
      · rw [live, made]
        simp
      · rcases ended with ⟨finished, counted⟩ | ⟨stopped, fewer⟩
        · exact .inl ⟨finished, by simp [counted]⟩
        · exact .inr ⟨stopped, by simp [fewer]⟩
    · rw [EStateM.run_pure, EStateM.Result.ok.injEq] at run
      obtain ⟨rfl, rfl⟩ := run
      exact ⟨[], by simp, by simp [same], by simp [kept], .inr ⟨⟨e, rfl⟩, by simp⟩⟩

theorem frames_destroySlot {s : Slot} {n : Nat} (run : (destroySlot s).run c = .ok n c') (k : Handle)
    (frame : k.kind = .frame) : c'.device.live.count k + [s.handle].count k ≤ c.device.live.count k := by
  obtain ⟨m, c₁, reclaimed, run⟩ := Act.run_bind_ok run
  obtain ⟨u, c₂, destroyed, run⟩ := Act.run_bind_ok run
  rw [EStateM.run_pure, EStateM.Result.ok.injEq] at run
  obtain ⟨rfl, rfl⟩ := run
  obtain ⟨d', destroyRun, rfl⟩ := run_device_ok destroyed
  have shed := sheds_reclaim s c m c₁ reclaimed k frame
  have fewer := Device.count_destroy destroyRun k
  dsimp only
  omega

theorem frames_forIn_destroys {f : Slot → PUnit → Act Context (ForInStep PUnit)}
    (body : ∀ s b c st c', (f s b).run c = .ok st c' → (∃ b', st = .yield b') ∧
      ∀ k : Handle, k.kind = .frame → c'.device.live.count k + [s.handle].count k ≤ c.device.live.count k) :
    ∀ (dropped : List Slot) (c c' : Context) (u : PUnit), (forIn dropped PUnit.unit f).run c = .ok u c' →
      ∀ k : Handle, k.kind = .frame →
        c'.device.live.count k + (dropped.map (·.handle)).count k ≤ c.device.live.count k := by
  intro dropped
  induction dropped with
  | nil =>
    intro c c' u run k _
    rw [List.forIn_nil, EStateM.run_pure, EStateM.Result.ok.injEq] at run
    obtain ⟨-, rfl⟩ := run
    simp
  | cons s rest ih =>
    intro c c' u run k frame
    rw [List.forIn_cons] at run
    obtain ⟨step, c₁, first, run⟩ := Act.run_bind_ok run
    obtain ⟨⟨b', rfl⟩, this_slot⟩ := body s _ c step c₁ first
    have others := ih c₁ c' u run k frame
    have this_slot := this_slot k frame
    rw [List.map_cons, List.count_cons]
    by_cases same : s.handle = k
    · simp only [same, List.count_singleton_self, beq_self_eq_true, if_true] at this_slot ⊢
      omega
    · simp only [List.count_singleton, beq_iff_eq, same, if_false] at this_slot ⊢
      omega

theorem frames_popTurns (xs : List Slot) {u : PUnit}
    (run : (forIn xs PUnit.unit fun s _ => (do
      modifyRing fun r => { r with slots := r.slots.dropLast }
      discard (destroySlot s)
      pure (ForInStep.yield PUnit.unit) : Act Context (ForInStep PUnit))).run c = .ok u c') :
    ∀ k : Handle, k.kind = .frame → c'.device.live.count k + (xs.map (·.handle)).count k ≤ c.device.live.count k :=
  frames_forIn_destroys (fun _ _ _ _ _ turn => by
    obtain ⟨rfl, _, slotDestroyed⟩ := run_popTurn turn
    have counted := frames_destroySlot slotDestroyed
    exact ⟨⟨_, rfl⟩, counted⟩) xs c c' u run

section Shape

-- What every frame action keeps, but ending a frame and resizing the ring: the ring's length, its
-- position and which frame each slot holds.
def shape (c : Context) : Nat × Nat × List Handle :=
  (c.ring.len, c.ring.index, c.ring.slots.map (·.handle))

theorem keepsLen_surface (f : Frame) : Keeps (·.ring.len) (surface f) := by
  unfold surface
  refine Keeps.bind Keeps.of_get fun c => Keeps.ite (Keeps.of_pure _) ?_
  refine Keeps.ite (Keeps.of_pure _) (Keeps.bind Keeps.of_get fun c => ?_)
  refine Keeps.bind (Keeps.of_device _ fun _ _ => rfl) fun _ =>
    Keeps.bind (Keeps.of_device _ fun _ _ => rfl) fun acquired => ?_
  split
  · exact Keeps.of_fail _
  · exact Keeps.bind (Keeps.of_modify fun _ => rfl) fun _ => Keeps.of_pure _
  · exact Keeps.bind (Keeps.of_modify fun _ => rfl) fun _ => Keeps.of_pure _

theorem keepsLen_endFrame (f : Frame) (w : Option Waiter) (ds : List Destroyer) :
    Keeps (·.ring.len) (endFrame f w ds) := by
  unfold endFrame
  refine Keeps.bind (Keeps.onFault ?_ _) fun _ => ?_
  · refine Keeps.ite (Keeps.bind (Keeps.of_fail _) fun _ => ?_) ?_
    all_goals
      refine Keeps.bind Keeps.of_get fun c₀ => Keeps.ite ?_ (Keeps.of_pure _)
      refine Keeps.bind (Keeps.of_device _ fun _ _ => rfl) fun result => ?_
      split
      · exact Keeps.of_fail _
      · refine Keeps.bind (Keeps.of_modify fun _ => rfl) fun _ => Keeps.bind ?_ fun _ =>
          Keeps.ite (Keeps.of_modify fun _ => rfl) (Keeps.of_pure _)
        exact Keeps.forIn _ _ fun t _ =>
          Keeps.bind ((keepsRing_submitted t).map (·.len)) fun _ => Keeps.of_pure _
  · refine Keeps.bind Keeps.of_get fun c => Keeps.bind (Keeps.of_device _ fun _ _ => rfl) fun _ => ?_
    exact Keeps.bind Keeps.of_get fun c => Keeps.bind (Keeps.of_modify fun _ => rfl) fun _ =>
      Keeps.bind (Keeps.of_modify fun _ => rfl) fun _ => Keeps.of_modify fun _ => rfl

theorem keepsShape_beginFrame : Keeps shape beginFrame := by
  intro c f c' run
  simp only [shape, (ring_beginFrame run).2.2]
  rw [map_modify_of_eq]
  exact fun _ => rfl

theorem keepsShape_deferDestroy (f : Frame) (d : Destroyer) : Keeps shape (deferDestroy f d) := by
  intro c u c' run
  rw [run_deferDestroy, EStateM.Result.ok.injEq] at run
  obtain ⟨-, rfl⟩ := run
  simp only [shape]
  rw [map_modify_of_eq]
  exact fun _ => rfl

theorem keepsShape_surface (f : Frame) : Keeps shape (surface f) := by
  intro c o c' run
  obtain ⟨slots, -, index, -, -⟩ := ring_surface run
  simp only [shape, slots, index, keepsLen_surface f c o c' run]

theorem keepsShape_scratch (f : Frame) (name : String) (size : UInt64) (usage : BufferUsage) :
    Keeps shape (scratch f name size usage) := by
  intro c b c' run
  simp only [shape, ring_scratch run]
  rw [map_modify_of_eq]
  exact fun _ => rfl

theorem keepsShape_commandBuffer (f : Frame) (name : String) : Keeps shape (commandBuffer f name) := by
  intro c h c' run
  simp only [shape, ring_commandBuffer run]
  rw [map_modify_of_eq]
  exact fun _ => rfl

theorem keepsShape_cancel (f : Frame) : Keeps shape (cancel f) := by
  intro c u c' run
  simp only [shape, (ring_cancel run).2]
  rw [map_modify_of_eq]
  exact fun _ => rfl

theorem keepsShape_queueDestroy (d : Destroyer) : Keeps shape (queueDestroy d) := by
  intro c u c' run
  rw [run_queueDestroy, EStateM.Result.ok.injEq] at run
  obtain ⟨-, rfl⟩ := run
  rfl

theorem keepsShape_waitAll : Keeps shape waitAll := by
  intro c res c' run
  cases idle : c.ring.recording with
  | none =>
    simp only [shape, ring_waitAll idle run, List.map_map]
    rfl
  | some f =>
    -- waiting while a frame records is refused and changes nothing
    simp only [waitAll, EStateM.run_bind, EStateM.run_get, idle, Option.isSome_some, if_true, EStateM.run_pure,
      EStateM.Result.ok.injEq] at run
    obtain ⟨-, rfl⟩ := run
    rfl

theorem keepsShape_resize (width height : UInt32) : Keeps shape (resize width height) := by
  unfold resize
  refine Keeps.bind (Keeps.of_modify fun _ => rfl) fun _ => Keeps.ite (Keeps.of_modify fun _ => rfl) ?_
  refine Keeps.bind keepsShape_waitAll fun r => Keeps.bind ?_ fun _ => Keeps.of_modify fun _ => rfl
  cases r with
  | ok n => exact Keeps.bind (Keeps.of_pure n) fun _ => Keeps.of_pure _
  | error e => exact Keeps.bind (Keeps.of_fail (α := Nat) e) fun _ => Keeps.of_pure ()

theorem sheds_resize (width height : UInt32) : Sheds (resize width height) := by
  unfold resize
  refine Sheds.bind (Sheds.of_modify fun _ => rfl) fun _ => Sheds.ite (sheds_modifyRing _) ?_
  refine Sheds.bind sheds_waitAll fun r => Sheds.bind ?_ fun _ => sheds_modifyRing _
  cases r with
  | ok n => exact Sheds.bind (Sheds.of_pure n) fun _ => Sheds.of_pure _
  | error e => exact Sheds.bind (Sheds.of_fail (α := Nat) e) fun _ => Sheds.of_pure ()

end Shape

structure Held (c : Context) : Prop where
  len_pos : 0 < c.ring.len
  len_le : c.ring.len ≤ c.ring.slots.length
  index : c.ring.index < c.ring.slots.length
  owned : ∀ h : Handle, h.kind = .frame → c.device.live.count h ≤ (c.ring.slots.map (·.handle)).count h

theorem Held.of_handles (held : Held c) (len : c'.ring.len = c.ring.len)
    (handles : c'.ring.slots.map (·.handle) = c.ring.slots.map (·.handle))
    (index : c'.ring.index < c.ring.slots.length) (shed : c.device.FramesShed c'.device) : Held c' := by
  have lengths : c'.ring.slots.length = c.ring.slots.length := by
    simpa only [List.length_map] using congrArg List.length handles
  refine ⟨len ▸ held.len_pos, by rw [len, lengths]; exact held.len_le, lengths ▸ index, fun h frame => ?_⟩
  rw [handles]
  exact Nat.le_trans (shed h frame) (held.owned h frame)

theorem Held.keep (held : Held c) (same : shape c' = shape c) (shed : c.device.FramesShed c'.device) :
    Held c' := by
  simp only [shape, Prod.mk.injEq] at same
  obtain ⟨len, index, handles⟩ := same
  exact held.of_handles len handles (index ▸ held.index) shed

theorem held_endFrame {f : Frame} {w : Option Waiter} {ds : List Destroyer} {u : Unit} (held : Held c)
    (run : (endFrame f w ds).run c = .ok u c') : Held c' := by
  obtain ⟨slots, -, -, index, -⟩ := ring_endFrame run
  have some : 0 < c.ring.slots.length := Nat.lt_of_lt_of_le held.len_pos held.len_le
  refine held.of_handles (keepsLen_endFrame f w ds c u c' run) ?_ ?_ (sheds_endFrame f w ds c u c' run)
  · rw [slots, map_modify_of_eq]
    exact fun _ => rfl
  · rw [index]
    exact Nat.mod_lt _ some

theorem frames_resizeRing {n : Nat} {res : Except Error Unit} (grows : 0 < n) (idle : c.ring.recording = none)
    (run : (resizeRing n).run c = .ok res c') :
    ∃ fresh : List Slot, c'.ring.slots = (c.ring.slots.map Slot.cleared).take n ++ fresh ∧
      (∀ h : Handle, h.kind = .frame → c'.device.live.count h + ((c.ring.slots.drop n).map (·.handle)).count h ≤
        c.device.live.count h + (fresh.map (·.handle)).count h) ∧
      (res = .ok () ∧ c'.ring.len = n ∧ c'.ring.index = 0 ∧ c'.ring.slots.length = n ∨
        (∃ e, res = .error e) ∧ c'.ring.len = c.ring.len ∧ c'.ring.index = c.ring.index ∧
          c.ring.slots.length + fresh.length < n) := by
  simp only [resizeRing, Nat.pos_iff_ne_zero.mp grows, if_false, EStateM.run_bind, EStateM.run_get, idle,
    Option.isSome_none, Bool.false_eq_true] at run
  split at run
  · rename_i u₁ c₁ waited
    have ring₁ := ring_forIn_waits waitTurns_discard waited
    have shed₁ : c.device.FramesShed c₁.device := Sheds.forIn _ _ (fun i _ =>
      Sheds.bind (Sheds.bind (sheds_waitSlot i) fun _ => Sheds.of_pure _) fun _ => Sheds.of_pure _) c u₁ c₁ waited
    simp only [modifyRing] at run
    split at run
    · rename_i u₃ c₃ destroyed
      have ring₃ := ring_popTurns _ destroyed
      have dropped₃ := frames_popTurns _ destroyed
      split at run
      · rename_i st c₄ created
        obtain ⟨fresh, -, ring₄, live₄, ended⟩ := frames_forIn_slotTurns (fun i b c s c' run =>
          slotTurn_of_newSlot run (fun _ _ => rfl) fun _ _ => rfl) _ _ _ _ created
        have slots₄ : c₄.ring.slots = (c.ring.slots.map Slot.cleared).take n ++ fresh := by
          rw [ring₄, ring₃, ring₁]
          simp only [List.length_reverse, List.length_drop, take_length_sub_sub]
        have lengths₁ : c₁.ring.slots.length = c.ring.slots.length := by rw [ring₁, List.length_map]
        -- each frame: as often live as before the waits, less once for each slot taken off that held
        -- it, and once more for each new slot that holds it
        have owned₄ : ∀ h : Handle, h.kind = .frame →
            c₄.device.live.count h + ((c.ring.slots.drop n).map (·.handle)).count h ≤
              c.device.live.count h + (fresh.map (·.handle)).count h := by
          intro h frame
          have waits := shed₁ h frame
          have drops := dropped₃ h frame
          have handles₁ : (c₁.ring.slots.drop n).map (·.handle) = (c.ring.slots.drop n).map (·.handle) := by
            rw [ring₁, ← List.map_drop, List.map_map]
            rfl
          rw [List.map_reverse, List.count_reverse, handles₁] at drops
          rw [live₄, List.count_append]
          omega
        split at run
        · rename_i r stopped
          rw [EStateM.run_pure, EStateM.Result.ok.injEq] at run
          obtain ⟨rfl, rfl⟩ := run
          rcases ended with ⟨finished, -⟩ | ⟨⟨e, failed⟩, fewer⟩
          · simp [stopped] at finished
          · rw [stopped, Option.some.injEq] at failed
            simp only [List.length_range', lengths₁] at fewer
            refine ⟨fresh, slots₄, owned₄, .inr ⟨⟨e, failed⟩, by rw [ring₄, ring₃, ring₁], by rw [ring₄, ring₃, ring₁], ?_⟩⟩
            omega
        · rename_i finished
          simp only [EStateM.run_bind, EStateM.run_modify, EStateM.run_pure, EStateM.Result.ok.injEq] at run
          obtain ⟨rfl, rfl⟩ := run
          rcases ended with ⟨-, counted⟩ | ⟨⟨e, stopped⟩, -⟩
          · simp only [List.length_range', lengths₁] at counted
            refine ⟨fresh, slots₄, owned₄, .inl ⟨rfl, rfl, rfl, ?_⟩⟩
            change c₄.ring.slots.length = n
            rw [slots₄, List.length_append, List.length_take, List.length_map, counted]
            omega
          · simp [stopped] at finished
      · cases run
    · cases run
  · cases run

theorem held_resizeRing {n : Nat} {res : Except Error Unit} (held : Held c)
    (run : (resizeRing n).run c = .ok res c') : Held c' := by
  by_cases zero : n = 0
  · simp only [resizeRing, zero, if_true, EStateM.run_pure, EStateM.Result.ok.injEq] at run
    obtain ⟨-, rfl⟩ := run
    exact held
  cases busy : c.ring.recording with
  | some f =>
    simp only [resizeRing, zero, if_false, EStateM.run_bind, EStateM.run_get, busy, Option.isSome_some, if_true,
      EStateM.run_pure, EStateM.Result.ok.injEq] at run
    obtain ⟨-, rfl⟩ := run
    exact held
  | none =>
  obtain ⟨fresh, slots, counts, ended⟩ := frames_resizeRing (Nat.pos_of_ne_zero zero) busy run
  have owned : ∀ h : Handle, h.kind = .frame → c'.device.live.count h ≤ (c'.ring.slots.map (·.handle)).count h := by
    intro h frame
    have parts : (c.ring.slots.map (·.handle)).count h =
        ((c.ring.slots.take n).map (·.handle)).count h + ((c.ring.slots.drop n).map (·.handle)).count h := by
      rw [← List.count_append, ← List.map_append, List.take_append_drop]
    have kept : ((c.ring.slots.map Slot.cleared).take n).map (·.handle) = (c.ring.slots.take n).map (·.handle) := by
      rw [← List.map_take, List.map_map]
      rfl
    have counted := counts h frame
    have before := held.owned h frame
    rw [slots, List.map_append, List.count_append, kept]
    omega
  rcases ended with ⟨-, len, index, length⟩ | ⟨-, len, index, fewer⟩
  · exact ⟨by omega, by omega, by omega, owned⟩
  · have grew : c.ring.slots.length ≤ c'.ring.slots.length := by
      rw [slots, List.length_append, List.length_take, List.length_map]
      omega
    exact ⟨by rw [len]; exact held.len_pos, by rw [len]; exact Nat.le_trans held.len_le grew,
      by rw [index]; exact Nat.lt_of_lt_of_le held.index grew, owned⟩

theorem run_start {device : Device} {settings : Settings} {r : Except Error Unit}
    (run : (start device settings).run c = .ok r c') :
    ∃ fresh : List Slot, c'.ring = { slots := fresh, len := settings.framesInFlight.toNat } ∧
      (∀ s ∈ fresh, s.handle.kind = .frame) ∧ c'.device.live = device.live ++ fresh.map (·.handle) ∧
      (r = .ok () ∧ fresh.length = settings.framesInFlight.toNat ∨
        (∃ e, r = .error e) ∧ fresh.length < settings.framesInFlight.toNat) := by
  simp only [start, EStateM.run_bind, EStateM.run_set] at run
  split at run
  · rename_i st c₁ created
    obtain ⟨fresh, frames, ring₁, live₁, ended⟩ := frames_forIn_slotTurns (fun i b c s c' run =>
      slotTurn_of_newSlot run (fun _ _ => rfl) fun _ _ => rfl) _ _ _ _ created
    split at run
    · rename_i r' stopped
      rw [EStateM.run_pure, EStateM.Result.ok.injEq] at run
      obtain ⟨rfl, rfl⟩ := run
      refine ⟨fresh, by simp [ring₁], frames, live₁, .inr ?_⟩
      rcases ended with ⟨finished, -⟩ | ⟨⟨e, failed⟩, fewer⟩
      · simp [stopped] at finished
      · rw [stopped, Option.some.injEq] at failed
        exact ⟨⟨e, failed⟩, by simpa using fewer⟩
    · rename_i finished
      rw [EStateM.run_pure, EStateM.Result.ok.injEq] at run
      obtain ⟨rfl, rfl⟩ := run
      refine ⟨fresh, by simp [ring₁], frames, live₁, .inl ⟨rfl, ?_⟩⟩
      rcases ended with ⟨-, counted⟩ | ⟨⟨e, stopped⟩, -⟩
      · simpa using counted
      · simp [stopped] at finished
  · cases run

theorem held_start {device : Device} {settings : Settings} (noFrames : ∀ h ∈ device.live, h.kind ≠ .frame)
    (some : 0 < settings.framesInFlight.toNat) (run : (start device settings).run c = .ok (.ok ()) c') :
    Held c' := by
  obtain ⟨fresh, ring, -, live, ended⟩ := run_start run
  have counted : fresh.length = settings.framesInFlight.toNat := by
    rcases ended with ⟨-, counted⟩ | ⟨⟨e, failed⟩, -⟩
    · exact counted
    · cases failed
  refine ⟨by rw [ring]; exact some, by rw [ring, counted], by rw [ring, counted]; exact some, fun h frame => ?_⟩
  have none : device.live.count h = 0 := List.count_eq_zero_of_not_mem fun member => noFrames h member frame
  rw [live, ring, List.count_append, none, Nat.zero_add]

inductive RingStep : Context → Context → Prop
  | begin {c c' : Context} {f : Frame} (run : beginFrame.run c = .ok f c') : RingStep c c'
  | defer {c c' : Context} (f : Frame) (d : Destroyer) (run : (deferDestroy f d).run c = .ok () c') :
      RingStep c c'
  | surface {c c' : Context} (f : Frame) {o : Option Handle} (run : (surface f).run c = .ok o c') : RingStep c c'
  | scratch {c c' : Context} (f : Frame) (name : String) (size : UInt64) (usage : BufferUsage) {b : Scratch}
      (run : (scratch f name size usage).run c = .ok b c') : RingStep c c'
  | commandBuffer {c c' : Context} (f : Frame) (name : String) {h : Handle}
      (run : (commandBuffer f name).run c = .ok h c') : RingStep c c'
  | cancel {c c' : Context} (f : Frame) (run : (cancel f).run c = .ok () c') : RingStep c c'
  | finish {c c' : Context} (f : Frame) (w : Option Waiter) (ds : List Destroyer)
      (run : (endFrame f w ds).run c = .ok () c') : RingStep c c'
  | post {c c' : Context} (d : Destroyer) (run : (queueDestroy d).run c = .ok () c') : RingStep c c'
  | waitAll {c c' : Context} {r : Except Error Nat} (run : waitAll.run c = .ok r c') : RingStep c c'
  | extent {c c' : Context} (width height : UInt32) (run : (resize width height).run c = .ok () c') :
      RingStep c c'
  | resizeRing {c c' : Context} (n : Nat) {r : Except Error Unit} (run : (resizeRing n).run c = .ok r c') :
      RingStep c c'
  | framesInFlight {c c' : Context} (n : UInt32) {r : Except Error Unit}
      (run : (setFramesInFlight n).run c = .ok r c') : RingStep c c'
  | arm {c : Context} (failNext : Option (HandleKind × DeviceFailure)) (frameScript : List (Option DeviceFailure)) :
      RingStep c { c with device := { c.device with failNext, frameScript } }

theorem Held.step (held : Held c) (step : RingStep c c') : Held c' := by
  cases step with
  | begin run => exact held.keep (keepsShape_beginFrame _ _ _ run) (sheds_beginFrame _ _ _ run)
  | defer f d run => exact held.keep (keepsShape_deferDestroy f d _ _ _ run) (sheds_deferDestroy f d _ _ _ run)
  | surface f run => exact held.keep (keepsShape_surface f _ _ _ run) (sheds_surface f _ _ _ run)
  | scratch f name size usage run =>
    exact held.keep (keepsShape_scratch f name size usage _ _ _ run) (sheds_scratch f name size usage _ _ _ run)
  | commandBuffer f name run =>
    exact held.keep (keepsShape_commandBuffer f name _ _ _ run) (sheds_commandBuffer f name _ _ _ run)
  | cancel f run => exact held.keep (keepsShape_cancel f _ _ _ run) (sheds_cancel f _ _ _ run)
  | finish f w ds run => exact held_endFrame held run
  | post d run => exact held.keep (keepsShape_queueDestroy d _ _ _ run) (sheds_queueDestroy d _ _ _ run)
  | waitAll run => exact held.keep (keepsShape_waitAll _ _ _ run) (sheds_waitAll _ _ _ run)
  | extent width height run =>
    exact held.keep (keepsShape_resize width height _ _ _ run) (sheds_resize width height _ _ _ run)
  | resizeRing n run => exact held_resizeRing held run
  | framesInFlight n run =>
    -- the number asked for is bounded by the settings, and the ring is resized to it
    simp only [setFramesInFlight, EStateM.run_bind, EStateM.run_get] at run
    exact held_resizeRing held run
  | arm failNext frameScript => exact held.keep rfl (Device.framesShed_of_live rfl)

theorem Held.run (held : Held c) (run : ReflTransGen RingStep c c') : Held c' := by
  induction run with
  | refl => exact held
  | tail _ step ih => exact ih.step step

theorem frame_ring_holds_its_frames (device : Device) (settings : Settings) (c₀ : Context) :
    (∀ c₁ c, (∀ h ∈ device.live, h.kind ≠ .frame) → 0 < settings.framesInFlight.toNat →
      (start device settings).run c₀ = .ok (.ok ()) c₁ → ReflTransGen RingStep c₁ c →
      0 < c.ring.len ∧ c.ring.len ≤ c.ring.slots.length ∧ c.ring.index < c.ring.slots.length ∧
        ∀ h ∈ c.device.live, h.kind = .frame → h ∈ c.ring.slots.map (·.handle)) ∧
    (∀ (c c' : Context) (n : Nat) (e : Error), c.ring.recording = none →
      (resizeRing n).run c = .ok (.error e) c' → 0 < n →
      c'.ring.len = c.ring.len ∧ c'.ring.index = c.ring.index ∧
        ∃ made : List Slot, c'.ring.slots = c.ring.slots.map Slot.cleared ++ made ∧
          c.ring.slots.length + made.length < n) ∧
    ∀ e c₁, (start device settings).run c₀ = .ok (.error e) c₁ →
      ∃ made : List Slot, made.length < settings.framesInFlight.toNat ∧
        (∀ s ∈ made, s.handle.kind = .frame) ∧ c₁.device.live = device.live ++ made.map (·.handle) := by
  refine ⟨fun c₁ c noFrames some started run => ?_, fun c c' n e idle failed grows => ?_, fun e c₁ failed => ?_⟩
  · have held := (held_start noFrames some started).run run
    refine ⟨held.len_pos, held.len_le, held.index, fun h live frame => ?_⟩
    -- a live frame is counted once at least, so some slot holds it
    have owned := Nat.lt_of_lt_of_le (List.count_pos_iff.mpr live) (held.owned h frame)
    exact List.count_pos_iff.mp owned
  · obtain ⟨made, slots, -, ended⟩ := frames_resizeRing grows idle failed
    rcases ended with ⟨refused, -⟩ | ⟨-, len, index, fewer⟩
    · cases refused
    · refine ⟨len, index, made, ?_, fewer⟩
      rw [slots, List.take_of_length_le (by rw [List.length_map]; omega)]
  · obtain ⟨made, -, frames, live, ended⟩ := run_start failed
    rcases ended with ⟨refused, -⟩ | ⟨-, fewer⟩
    · cases refused
    · exact ⟨made, fewer, frames, live⟩

-- A growth to four slots refused at its second new frame keeps the length of two.
theorem frame_ring_held_through_refused_growth :
    ∃ c₁ c, (start {} {}).run default = .ok (.ok ()) c₁ ∧ ReflTransGen RingStep c₁ c ∧
      0 < c.ring.len ∧ c.ring.len ≤ c.ring.slots.length ∧ c.ring.index < c.ring.slots.length ∧
      c.ring.len = c₁.ring.len ∧
      ∃ e c₂, ∃ made : List Slot, (start { frameScript := [none, some .deviceLost] } {}).run default = .ok (.error e) c₂ ∧
        made.length < 2 ∧ c₂.device.live = made.map (·.handle) := by
  have grows : Act.answers ((start {} {}).run default) (fun _ c₁ =>
      c₁.ring.recording.isNone && Act.finishes ((resizeRing 4).run
        { c₁ with device.failNext := none, device.frameScript := [none, some .deviceLost] }) fun v _ => !v.isOk) =
      true := by
    cbv
  obtain ⟨⟨⟩, c₁, started, grows⟩ := Act.answers_eq_true.mp grows
  rw [Bool.and_eq_true, Option.isNone_iff_eq_none] at grows
  obtain ⟨idle, grows⟩ := grows
  obtain ⟨v, c, grown, refused⟩ := Act.finishes_eq_true.mp grows
  obtain ⟨e, rfl⟩ : ∃ e, v = .error e := by
    cases v with
    | ok => cases refused
    | error e => exact ⟨e, rfl⟩
  obtain ⟨e₂, c₂, refused⟩ : ∃ e c₂,
      (start { frameScript := [none, some .deviceLost] } {}).run default = .ok (.error e) c₂ := ⟨_, _, rfl⟩
  have run : ReflTransGen RingStep c₁ c := .tail (.single (.arm none [none, some .deviceLost])) (.resizeRing 4 grown)
  have holds := frame_ring_holds_its_frames {} {} default
  obtain ⟨pos, le, index, -⟩ := holds.1 c₁ c (fun h member => by cases member) (by decide) started run
  obtain ⟨len, -, -⟩ := holds.2.1 { c₁ with device.failNext := none, device.frameScript := [none, some .deviceLost] } c 4 e
    idle grown (by decide)
  obtain ⟨made, fewer, -, live⟩ := (frame_ring_holds_its_frames { frameScript := [none, some .deviceLost] } {}
    default).2.2 e₂ c₂ refused
  exact ⟨c₁, c, started, run, pos, le, index, len, e₂, c₂, made, refused, fewer, live⟩

-- A refused start leaves its first frame live, a refused growth leaves three slots at a length of
-- two, and a shrink whose dropped frame times out leaves that frame live in no slot.
theorem partial_frame_failures_strand_frames :
    (match (start { frameScript := [none, some .deviceLost] } {}).run default with
      | .ok (.error _) c => c.device.live
      | _ => []) = [⟨.frame, 0x1000⟩] ∧
    (match ((do
        discard (start {} {})
        modify fun c => { c with device.frameScript := [none, some .deviceLost] }
        resizeRing 4) : Act Context (Except Error Unit)).run default with
      | .ok (.error _) c => some (c.ring.len, c.ring.slots.length)
      | _ => none) = some (2, 3) ∧
    (match ((do
        discard (start {} {})
        let f ← beginFrame
        discard (surface f)
        if let some f := (← get).ring.recording then endFrame f none []
        device! (modify fun d => { d with autoComplete := false })
        let t ← Act.orFail (← newTimeline "s")
        let w ← waiterCurrent t
        let f ← beginFrame
        discard (surface f)
        if let some f := (← get).ring.recording then endFrame f (some w) []
        discard (setFramesInFlight 1)) : Act Context Unit).run default with
      | .error _ c => some (c.ring.len, c.ring.slots.map (·.handle), c.device.live.contains ⟨.frame, 0x1001⟩)
      | .ok _ _ => none) = some (2, [⟨.frame, 0x1000⟩], true) := by
  refine ⟨by cbv, by cbv, by cbv⟩

end Context

end RenderCore
