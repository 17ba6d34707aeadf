import RenderCore.Proofs.Frames.Holders
import RenderCore.Proofs.Frames.Cancel
namespace RenderCore

theorem Slot.Clean.mono {n n' : Nat} {s : Slot} (clean : s.Clean n) (grown : n ≤ n') : s.Clean n' :=
  ⟨fun w member => Nat.lt_of_lt_of_le (clean.waiter w member) grown, clean.transient, clean.deferred, clean.handle⟩

theorem Slot.Clean.made {n : Nat} {s : Slot} {x : Handle} (clean : s.Clean n) (other : x.kind ≠ .semaphore) :
    ({ s with transient := s.transient ++ [x] } : Slot).Clean n := by
  refine ⟨clean.waiter, fun y member => ?_, clean.deferred, clean.handle⟩
  rcases List.mem_append.mp member with old | new
  · exact clean.transient y old
  · rw [List.mem_singleton.mp new]
    exact other

theorem Slot.Clean.deferring {n : Nat} {s : Slot} {ds : List Destroyer} (clean : s.Clean n)
    (kept : ∀ d ∈ ds, ∀ x, d ≠ .destroy x) : ({ s with deferred := s.deferred ++ ds } : Slot).Clean n := by
  refine ⟨clean.waiter, clean.transient, fun d member => ?_, clean.handle⟩
  rcases List.mem_append.mp member with old | new
  · exact clean.deferred d old
  · exact kept d new

theorem Slot.Clean.cleared {n n' : Nat} {s : Slot} (clean : s.Clean n) : (Slot.cleared s).Clean n' :=
  Slot.clean_of_empty rfl rfl rfl clean.handle

namespace Context

structure RingHolds (c : Context) : Prop where
  slots : ∀ s ∈ c.ring.slots, s.Clean c.timelines.size
  mailbox : ∀ d ∈ c.ring.mailbox, ∀ x, d ≠ .destroy x
  index : c.ring.index < c.ring.slots.length
  recording : ∀ f ∈ c.ring.recording, f.index < c.ring.slots.length ∧ (slot c f.index).waiter = none ∧
    (∀ t ∈ f.tickets, t.timeline < c.timelines.size) ∧ (f.tickets ≠ [] → f.signals ≠ [])

variable {c c' : Context} {f : Frame}

theorem RingHolds.slot (holds : RingHolds c) (idx : Nat) : (slot c idx).Clean c.timelines.size := by
  rcases slot_mem_or_default c idx with member | empty
  · exact holds.slots _ member
  · exact empty ▸ Slot.clean_default _

theorem parks_le_parked {idx j : Nat} (parks : (slot c idx).parks j) : 1 ≤ c.parked j := by
  rcases slot_mem_or_default c idx with member | empty
  · exact List.countP_pos_iff.mpr ⟨_, member, parks⟩
  · rw [empty] at parks
    cases parks

theorem framed_of_recording (recording : c.ring.recording = some f) (j : Nat) :
    c.framed j = f.tickets.countP (·.timeline == j) := by
  simp [framed, recording]

theorem framed_of_idle (idle : c.ring.recording = none) (j : Nat) : c.framed j = 0 := by
  simp [framed, idle]

theorem RingHolds.releasable (holds : RingHolds c) (recording : c.ring.recording = some f)
    (held : ∀ j < c.timelines.size, c.framed j ≤ (c.timeline j).holders) : Releasable f c := by
  obtain ⟨-, unparked, inRange, -⟩ := holds.recording f recording
  exact ⟨unparked, inRange, fun j inside => framed_of_recording recording j ▸ held j inside⟩

theorem clean_modify {n idx : Nat} {l : List Slot} {g : Slot → Slot} (clean : ∀ s ∈ l, s.Clean n)
    (keeps : ∀ s, s.Clean n → (g s).Clean n) : ∀ s ∈ l.modify idx g, s.Clean n := by
  intro s member
  rw [List.modify_eq_set] at member
  rcases List.mem_or_eq_of_mem_set member with old | new
  · exact clean s old
  · rw [new]
    apply keeps
    cases found : l[idx]? with
    | none => exact Slot.clean_default n
    | some s₀ => exact clean s₀ (List.mem_of_getElem? found)

theorem slot_modify_self {idx : Nat} {g : Slot → Slot} (present : idx < c.ring.slots.length)
    (slots : c'.ring.slots = c.ring.slots.modify idx g) : slot c' idx = g (slot c idx) := by
  unfold slot
  rw [slots, List.getElem?_modify_eq, List.getElem?_eq_getElem present]
  rfl

theorem parked_modify {idx : Nat} {g : Slot → Slot} (present : idx < c.ring.slots.length)
    (slots : c'.ring.slots = c.ring.slots.modify idx g) (j : Nat) :
    c'.parked j + (if (slot c idx).parks j then 1 else 0) = c.parked j + (if (g (slot c idx)).parks j then 1 else 0) := by
  have read : slot c idx = c.ring.slots[idx] := by simp [slot, List.getElem?_eq_getElem present]
  have bound := List.boole_getElem_le_countP (p := Slot.parks j) present
  rw [← read] at bound
  unfold parked
  rw [slots, List.modify_eq_set, List.countP_set (by simpa using present)]
  change c.ring.slots.countP (Slot.parks j) - (if (c.ring.slots[idx]).parks j then 1 else 0) +
    (if (g (slot c idx)).parks j then 1 else 0) + _ = _
  rw [← read]
  omega

def holdView (r : Ring) : List Slot × List Destroyer × Nat × Option (Nat × List Ticket × List SyncPoint) :=
  (r.slots, r.mailbox, r.index, r.recording.map fun f => (f.index, f.tickets, f.signals))

theorem RingHolds.of_view (holds : RingHolds c) (view : holdView c'.ring = holdView c.ring)
    (grown : c.timelines.size ≤ c'.timelines.size) : RingHolds c' := by
  simp only [holdView, Prod.mk.injEq] at view
  obtain ⟨slots, mailbox, index, recording⟩ := view
  refine ⟨fun s member => (holds.slots s (slots ▸ member)).mono grown, mailbox ▸ holds.mailbox,
    slots ▸ index ▸ holds.index, fun f' member => ?_⟩
  -- the recording frame is seen through its position, tickets and signals
  cases mine : c'.ring.recording with
  | none => rw [mine] at member; cases member
  | some g =>
    rw [mine] at member
    cases member
    rw [mine] at recording
    cases theirs : c.ring.recording with
    | none => rw [theirs] at recording; cases recording
    | some g' =>
      rw [theirs] at recording
      simp only [Option.map_some, Option.some.injEq, Prod.mk.injEq] at recording
      obtain ⟨same, tickets, signals⟩ := recording
      obtain ⟨inside, unparked, inRange, signalled⟩ := holds.recording g' theirs
      refine ⟨by rw [same, slots]; exact inside, ?_, fun t member => Nat.lt_of_lt_of_le (inRange t (tickets ▸ member)) grown,
        fun some => signals ▸ signalled (tickets ▸ some)⟩
      unfold Context.slot
      rw [same, slots]
      exact unparked

theorem RingHolds.parked_beyond (holds : RingHolds c) {j : Nat} (beyond : c.timelines.size ≤ j) : c.parked j = 0 := by
  refine List.countP_eq_zero.mpr fun s member parks => ?_
  cases waiter : s.waiter with
  | none => simp [Slot.parks, waiter] at parks
  | some w =>
    have inside := (holds.slots s member).waiter w (by simp [waiter])
    simp only [Slot.parks, waiter, Option.any_some, beq_iff_eq] at parks
    omega

theorem RingHolds.framed_beyond (holds : RingHolds c) {j : Nat} (beyond : c.timelines.size ≤ j) : c.framed j = 0 := by
  cases recording : c.ring.recording with
  | none => exact framed_of_idle recording j
  | some f =>
    rw [framed_of_recording recording]
    obtain ⟨-, -, inRange, -⟩ := holds.recording f recording
    refine List.countP_eq_zero.mpr fun t member mine => ?_
    have inside := inRange t member
    simp only [beq_iff_eq] at mine
    omega

theorem parked_of_view (view : holdView c'.ring = holdView c.ring) (j : Nat) : c'.parked j = c.parked j := by
  simp only [holdView, Prod.mk.injEq] at view
  simp only [parked, view.1]

theorem framed_of_view (view : holdView c'.ring = holdView c.ring) (j : Nat) : c'.framed j = c.framed j := by
  simp only [holdView, Prod.mk.injEq] at view
  obtain ⟨-, -, -, recording⟩ := view
  unfold framed
  cases mine : c'.ring.recording <;> cases theirs : c.ring.recording <;> simp_all

theorem keepsView_surface (f : Frame) : Keeps (fun c => holdView c.ring) (surface f) := by
  unfold surface
  refine Keeps.bind Keeps.of_get fun _ => Keeps.ite (Keeps.of_pure _) (Keeps.ite (Keeps.of_pure _) ?_)
  refine Keeps.bind Keeps.of_get fun _ => Keeps.bind (Keeps.of_device _ fun _ _ => rfl) fun _ =>
    Keeps.bind (Keeps.of_device _ fun _ _ => rfl) fun result => ?_
  cases result with
  | error e => exact Keeps.of_fail _
  | ok image =>
    cases image with
    | none => exact Keeps.bind (Keeps.of_modify fun _ => rfl) fun _ => Keeps.of_pure _
    | some image =>
      refine Keeps.bind (Keeps.of_modify fun c => ?_) fun _ => Keeps.of_pure _
      simp [holdView, Option.map_map, Function.comp_def]

theorem keepsView_waitPoint (p : SyncPoint) : Keeps (fun c => holdView c.ring) (waitPoint p) :=
  Keeps.of_modify fun c => by simp [holdView, Option.map_map, Function.comp_def]

theorem keepsView_writeScratch (b : Scratch) (offset : UInt64) (len : Nat) :
    Keeps (fun c => holdView c.ring) (writeScratch b offset len) := by
  unfold writeScratch
  exact Keeps.ite (Keeps.of_pure _) (Keeps.bind (Keeps.of_device _ fun _ _ => rfl) fun _ => Keeps.of_pure _)

theorem holds_beginFrame (holds : RingHolds c) (size : c'.timelines.size = c.timelines.size)
    (run : beginFrame.run c = .ok f c') :
    RingHolds c' ∧ ∀ j, c'.parked j + (if (slot c c.ring.index).parks j then 1 else 0) = c.parked j ∧
      c'.framed j = c.framed j := by
  obtain ⟨idle, index, ring⟩ := ring_beginFrame run
  have bare : f.tickets = [] := by
    simp only [beginFrame, EStateM.run_bind, EStateM.run_get, idle, Option.isSome_none, Bool.false_eq_true,
      if_false, Act.run_discard] at run
    split at run
    · simp only [run_device!, Device.record, EStateM.run_modify, modifyRing, EStateM.run_pure,
        EStateM.Result.ok.injEq] at run
      rw [← run.1]
    · cases run
  have slots : c'.ring.slots = c.ring.slots.modify c.ring.index Slot.cleared := by rw [ring]
  refine ⟨⟨?_, by rw [ring]; exact holds.mailbox, by rw [ring]; simpa using holds.index, fun f' member => ?_⟩,
    fun j => ⟨?_, ?_⟩⟩
  · rw [slots, size]
    exact clean_modify holds.slots fun s clean => clean.cleared
  · rw [ring] at member
    cases member
    refine ⟨by rw [index, ring]; simpa using holds.index, ?_, by simp [bare], by simp [bare]⟩
    rw [index, slot_modify_self holds.index slots]
    rfl
  · have counted := parked_modify holds.index slots j
    simp only [Slot.cleared, Slot.parks, Option.any_none, Bool.false_eq_true, if_false] at counted
    simpa [Slot.parks] using counted
  · rw [framed_of_recording (by rw [ring]) j, framed_of_idle idle, bare]
    rfl

theorem holds_of_slotChange {idx : Nat} {g : Slot → Slot} {frame : Frame → Frame} (holds : RingHolds c)
    (size : c'.timelines.size = c.timelines.size) (present : idx < c.ring.slots.length)
    (slots : c'.ring.slots = c.ring.slots.modify idx g) (mailbox : c'.ring.mailbox = c.ring.mailbox)
    (index : c'.ring.index = c.ring.index) (recording : c'.ring.recording = c.ring.recording.map frame)
    (framing : ∀ f, (frame f).index = f.index ∧ (frame f).tickets = f.tickets ∧ (frame f).signals = f.signals)
    (waiter : ∀ s, (g s).waiter = s.waiter) (clean : ∀ s, s.Clean c.timelines.size → (g s).Clean c.timelines.size) :
    RingHolds c' ∧ ∀ j, c'.parked j = c.parked j ∧ c'.framed j = c.framed j := by
  have kept : ∀ k, (slot c' k).waiter = (slot c k).waiter := fun k => by
    by_cases same : k = idx
    · subst same
      rw [slot_modify_self present slots, waiter]
    · rw [slot_modify_other slots same]
  refine ⟨⟨?_, mailbox ▸ holds.mailbox, by rw [index, slots, List.length_modify]; exact holds.index, fun f' member => ?_⟩,
    fun j => ⟨?_, ?_⟩⟩
  · rw [slots, size]
    exact clean_modify holds.slots clean
  · rw [recording] at member
    obtain ⟨f, mine, rfl⟩ := Option.mem_map.mp member
    obtain ⟨inside, unparked, inRange, signalled⟩ := holds.recording f mine
    obtain ⟨sameIndex, tickets, signals⟩ := framing f
    refine ⟨by rw [sameIndex, slots, List.length_modify]; exact inside, by rw [sameIndex, kept]; exact unparked,
      fun t member => size ▸ inRange t (tickets ▸ member), fun some => signals ▸ signalled (tickets ▸ some)⟩
  · have counted := parked_modify present slots j
    have same : (g (slot c idx)).parks j = (slot c idx).parks j := by simp only [Slot.parks, waiter]
    rw [same] at counted
    omega
  · unfold framed
    rw [recording]
    cases c.ring.recording with
    | none => rfl
    | some f => simp [(framing f).2.1]

theorem scratch_kind {name : String} {size : UInt64} {usage : BufferUsage} {b : Scratch}
    (run : (scratch f name size usage).run c = .ok b c') : b.handle.kind = .scratch := by
  obtain ⟨made, c₁, created, run⟩ := Act.run_bind_ok run
  obtain ⟨d', created, -⟩ := run_device_ok created
  cases made with
  | error e => cases run
  | ok h =>
    simp only [modifySlot, modifyFrame, modifyRing, EStateM.run_bind, EStateM.run_modify, EStateM.run_pure,
      EStateM.Result.ok.injEq] at run
    rw [← run.1]
    exact Device.create_kind created

theorem commandBuffer_kind {name : String} {h : Handle} (run : (commandBuffer f name).run c = .ok h c') :
    h.kind = .commandBuffer := by
  obtain ⟨made, c₁, created, run⟩ := Act.run_bind_ok run
  obtain ⟨d', created, -⟩ := run_device_ok created
  cases made with
  | error e => cases run
  | ok h =>
    simp only [modifySlot, modifyFrame, modifyRing, EStateM.run_bind, EStateM.run_modify, EStateM.run_pure,
      EStateM.Result.ok.injEq] at run
    rw [← run.1]
    exact Device.create_kind created

theorem holds_scratch {name : String} {size : UInt64} {usage : BufferUsage} {b : Scratch} (holds : RingHolds c)
    (recording : c.ring.recording = some f) (grown : c'.timelines.size = c.timelines.size)
    (run : (scratch f name size usage).run c = .ok b c') :
    RingHolds c' ∧ ∀ j, c'.parked j = c.parked j ∧ c'.framed j = c.framed j := by
  have ring := ring_scratch run
  have made := scratch_kind run
  have slots : c'.ring.slots = c.ring.slots.modify f.index fun s => { s with transient := s.transient ++ [b.handle] } := by
    rw [ring]
  have framing : c'.ring.recording = c.ring.recording.map fun f => { f with cancelable := false } := by rw [ring]
  exact holds_of_slotChange holds grown (holds.recording f recording).1 slots (by rw [ring]) (by rw [ring]) framing
    (fun _ => ⟨rfl, rfl, rfl⟩) (fun _ => rfl) fun s clean => clean.made (by rw [made]; decide)

theorem holds_commandBuffer {name : String} {h : Handle} (holds : RingHolds c) (recording : c.ring.recording = some f)
    (grown : c'.timelines.size = c.timelines.size) (run : (commandBuffer f name).run c = .ok h c') :
    RingHolds c' ∧ ∀ j, c'.parked j = c.parked j ∧ c'.framed j = c.framed j := by
  have ring := ring_commandBuffer run
  have made := commandBuffer_kind run
  have slots : c'.ring.slots = c.ring.slots.modify f.index fun s => { s with transient := s.transient ++ [h] } := by
    rw [ring]
  have framing : c'.ring.recording = c.ring.recording.map fun f =>
      { f with cancelable := false, commandBuffers := f.commandBuffers ++ [h] } := by
    rw [ring]
  exact holds_of_slotChange holds grown (holds.recording f recording).1 slots (by rw [ring]) (by rw [ring]) framing
    (fun _ => ⟨rfl, rfl, rfl⟩) (fun _ => rfl) fun s clean => clean.made (by rw [made]; decide)

theorem holds_deferDestroy {d : Destroyer} (holds : RingHolds c) (recording : c.ring.recording = some f)
    (kept : ∀ x, d ≠ .destroy x) (run : (deferDestroy f d).run c = .ok () c') :
    RingHolds c' ∧ ∀ j, c'.parked j = c.parked j ∧ c'.framed j = c.framed j := by
  rw [run_deferDestroy, EStateM.Result.ok.injEq] at run
  obtain ⟨-, rfl⟩ := run
  exact holds_of_slotChange holds rfl (holds.recording f recording).1 rfl rfl rfl
    (show c.ring.recording = c.ring.recording.map id by simp) (fun _ => ⟨rfl, rfl, rfl⟩) (fun _ => rfl)
    fun s clean => clean.deferring (by simpa using kept)

theorem holds_queueDestroy {d : Destroyer} (holds : RingHolds c) (kept : ∀ x, d ≠ .destroy x)
    (run : (queueDestroy d).run c = .ok () c') : RingHolds c' ∧ ∀ j, c'.parked j = c.parked j ∧ c'.framed j = c.framed j := by
  rw [run_queueDestroy, EStateM.Result.ok.injEq] at run
  obtain ⟨-, rfl⟩ := run
  refine ⟨⟨holds.slots, fun e member => ?_, holds.index, holds.recording⟩, fun j => ⟨rfl, rfl⟩⟩
  rcases List.mem_append.mp member with old | new
  · exact holds.mailbox e old
  · rw [List.mem_singleton.mp new]
    exact kept

theorem holds_signalTicket {t : Ticket} (holds : RingHolds c) (recording : c.ring.recording = some f)
    (present : t.timeline < c.timelines.size) (run : (signalTicket t).run c = .ok () c') :
    RingHolds c' ∧ ∀ j, c'.parked j = c.parked j ∧ c'.framed j = c.framed j + if t.timeline = j then 1 else 0 := by
  rw [run_signalTicket, EStateM.Result.ok.injEq] at run
  obtain ⟨-, rfl⟩ := run
  obtain ⟨inside, unparked, inRange, -⟩ := holds.recording f recording
  refine ⟨⟨holds.slots, holds.mailbox, holds.index, fun f' member => ?_⟩, fun j => ⟨rfl, ?_⟩⟩
  · simp only [recording, Option.map_some, Option.mem_def, Option.some.injEq] at member
    subst member
    refine ⟨inside, unparked, fun t' member => ?_, by simp⟩
    rcases List.mem_append.mp member with old | new
    · exact inRange t' old
    · rw [List.mem_singleton.mp new]
      exact present
  · by_cases same : t.timeline = j <;> simp [framed, recording, same]

theorem holds_endFrame {w : Option Waiter} {ds : List Destroyer} (holds : RingHolds c)
    (recording : c.ring.recording = some f) (size : c'.timelines.size = c.timelines.size)
    (waiting : ∀ x ∈ w, x.timeline < c.timelines.size) (kept : ∀ d ∈ ds, ∀ x, d ≠ .destroy x)
    (run : (endFrame f w ds).run c = .ok () c') :
    RingHolds c' ∧ ∀ j, c'.parked j = c.parked j + (if w.any (·.timeline == j) then 1 else 0) ∧ c'.framed j = 0 := by
  obtain ⟨slots, mailbox, idle, index, -⟩ := ring_endFrame run
  obtain ⟨inside, unparked, -, -⟩ := holds.recording f recording
  refine ⟨⟨?_, by rw [mailbox]; simp, ?_, by rw [idle]; simp⟩, fun j => ⟨?_, framed_of_idle idle j⟩⟩
  · rw [slots, size]
    refine clean_modify holds.slots fun s clean => ⟨waiting, clean.transient, fun d member => ?_, clean.handle⟩
    rcases List.mem_append.mp member with older | new
    · rcases List.mem_append.mp older with old | mail
      · exact clean.deferred d old
      · exact holds.mailbox d mail
    · exact kept d new
  · rw [index, slots, List.length_modify]
    exact Nat.mod_lt _ (by omega)
  · have counted := parked_modify inside slots j
    have before : (slot c f.index).parks j = false := by simp [Slot.parks, unparked]
    have after : ({ slot c f.index with deferred := (slot c f.index).deferred ++ c.ring.mailbox ++ ds, waiter := w } :
        Slot).parks j = w.any (·.timeline == j) := rfl
    rw [before, after, if_neg Bool.false_ne_true] at counted
    omega

theorem holds_stopped (holds : RingHolds c) (size : c'.timelines.size = c.timelines.size)
    (ring : c'.ring = { c.ring with recording := none }) : RingHolds c' ∧ ∀ j, c'.parked j = c.parked j ∧ c'.framed j = 0 := by
  refine ⟨⟨fun s member => ?_, by rw [ring]; exact holds.mailbox, by rw [ring]; exact holds.index, by rw [ring]; simp⟩,
    fun j => ⟨by simp [parked, ring], framed_of_idle (by rw [ring]) j⟩⟩
  rw [size]
  rw [ring] at member
  exact holds.slots s member

theorem holds_waitAll (holds : RingHolds c) (idle : c.ring.recording = none) (ring : c'.ring = { c.ring with slots := c.ring.slots.map Slot.cleared, mailbox := [] }) :
    RingHolds c' ∧ ∀ j, c'.parked j = 0 ∧ c'.framed j = 0 := by
  refine ⟨⟨fun s member => ?_, by rw [ring]; simp, by rw [ring]; simpa using holds.index, by rw [ring, idle]; simp⟩,
    fun j => ⟨?_, framed_of_idle (by rw [ring, idle]) j⟩⟩
  · rw [ring] at member
    obtain ⟨s₀, old, rfl⟩ := List.mem_map.mp member
    exact (holds.slots s₀ old).cleared
  · unfold parked
    rw [ring, List.countP_eq_zero]
    intro s member
    obtain ⟨s₀, -, rfl⟩ := List.mem_map.mp member
    simp [Slot.parks, Slot.cleared]

theorem holds_resizeRing {n : Nat} {res : Except Error Unit} (holds : RingHolds c) (grows : 0 < n)
    (idle : c.ring.recording = none) (run : (resizeRing n).run c = .ok res c') :
    RingHolds c' ∧ ∀ j, c'.parked j = 0 ∧ c'.framed j = 0 := by
  obtain ⟨mailbox, -, stopped, fresh, made, slots, position⟩ := ring_resizeRing grows idle run
  have empty : ∀ s ∈ c'.ring.slots, s.waiter = none ∧ s.Clean c'.timelines.size := by
    intro s member
    rw [slots] at member
    rcases List.mem_append.mp member with kept | new
    · obtain ⟨s₀, old, rfl⟩ := List.mem_map.mp (List.mem_of_mem_take kept)
      exact ⟨rfl, (holds.slots s₀ old).cleared⟩
    · obtain ⟨deferred, transient, waiter, frame⟩ := made s new
      exact ⟨waiter, Slot.clean_of_empty waiter transient deferred (by rw [frame]; decide)⟩
  refine ⟨⟨fun s member => (empty s member).2, by rw [mailbox]; exact holds.mailbox, ?_, by rw [stopped]; simp⟩,
    fun j => ⟨List.countP_eq_zero.mpr fun s member => by simp [Slot.parks, (empty s member).1],
      framed_of_idle stopped j⟩⟩
  have inside := holds.index
  rcases position with ⟨zero, length⟩ | ⟨same, longer⟩
  · rw [zero, length]
    exact grows
  · rw [same]
    omega

theorem ring_dropFrame {u : Unit} (unparked : (slot c f.index).waiter = none) (run : (dropFrame f).run c = .ok u c') :
    c'.ring = { c.ring with recording := none } := by
  unfold dropFrame at run
  split at run
  · obtain ⟨_, c₁, closed, run⟩ := Act.run_bind_ok run
    rw [ring_dropTickets run, ring_closeUnsubmitted closed, modify_unparked unparked]
  · simp only [Act.run_onFault, Act.run_fail] at run
    split at run <;> cases run

end Context

end RenderCore
