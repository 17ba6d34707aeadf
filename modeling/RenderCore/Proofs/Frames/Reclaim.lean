import Mathlib
import RenderCore.Proofs.Frames.Ring
namespace RenderCore

namespace Ring

def pending (r : Ring) : List Destroyer := r.slots.flatMap (·.deferred) ++ r.mailbox

def transients (r : Ring) : List Handle := r.slots.flatMap (·.transient)

end Ring

theorem flatMap_modify_perm {α β : Type} (l : List α) (i : Nat) (g : α → α) (d : α → List β)
    (inside : i < l.length) :
    ((l.modify i g).flatMap d ++ d l[i]).Perm (l.flatMap d ++ d (g l[i])) := by
  induction l generalizing i with
  | nil => cases inside
  | cons a rest ih =>
    cases i with
    | zero =>
      simp only [List.modify_zero_cons, List.flatMap_cons, List.getElem_cons_zero, List.append_assoc]
      classical
      rw [List.perm_iff_count]
      intro b
      simp only [List.count_append]
      omega
    | succ i =>
      simp only [List.modify_succ_cons, List.flatMap_cons, List.getElem_cons_succ, List.append_assoc]
      exact (ih i (by simpa using inside)).append_left (d a)

theorem flatMap_modify_append_perm {α β : Type} (l : List α) (i : Nat) (g : α → α) (d : α → List β)
    (extra : List β) (grows : ∀ a, d (g a) = d a ++ extra) (inside : i < l.length) :
    ((l.modify i g).flatMap d).Perm (l.flatMap d ++ extra) := by
  classical
  have moved := flatMap_modify_perm l i g d inside
  rw [grows, List.perm_iff_count] at moved
  rw [List.perm_iff_count]
  intro b
  have counted := moved b
  simp only [List.count_append] at counted ⊢
  omega

theorem map_modify_of_eq {α β : Type} (l : List α) (i : Nat) (g : α → α) (d : α → β)
    (unseen : ∀ a, d (g a) = d a) : (l.modify i g).map d = l.map d := by
  induction l generalizing i with
  | nil => simp
  | cons a rest ih =>
    cases i with
    | zero => simp [unseen]
    | succ i => simp [ih]

theorem add_mod_eq_iff (n x k : Nat) (moved : 1 ≤ k) (within : k ≤ n) : (x + k) % n = x % n ↔ k = n := by
  constructor
  · intro same
    have zero : k % n = 0 := by
      have back := Nat.sub_mod_eq_zero_of_mod_eq same
      rwa [Nat.add_sub_cancel_left] at back
    by_contra other
    rw [Nat.mod_eq_of_lt (Nat.lt_of_le_of_ne within other)] at zero
    omega
  · rintro rfl
    simp

-- A frame that ended and whose slot was not waited for since: how many frames had ended before
-- it, the slot it ended in, and the destroyers its slot holds for it, in the order they run.
structure EndedFrame where
  absolute : Nat
  slot : Nat
  batch : List Destroyer

-- A run of the ring, with what it was handed and what it ran so far, the objects its frames made
-- and those it destroyed, and the ended frames that were not seen complete yet, oldest first.
structure FrameRun where
  context : Context
  handed : List Destroyer
  ran : List Destroyer
  made : List Handle
  destroyed : List Handle
  unseen : List EndedFrame

-- Each operation says what it was handed, what it ran and destroyed, and which ended frames it saw
-- complete.
inductive FrameStep : FrameRun → FrameRun → Prop
  | begin {r : FrameRun} {f : Frame} {c' : Context} (run : Context.beginFrame.run r.context = .ok f c') :
      FrameStep r { r with
        context := c'
        ran := r.ran ++ (r.context.slot r.context.ring.index).deferred
        destroyed := r.destroyed ++ (r.context.slot r.context.ring.index).transient
        unseen := r.unseen.filter (·.slot != r.context.ring.index) }
  | queue {r : FrameRun} {f : Frame} (recording : r.context.ring.recording = some f) (d : Destroyer)
      {c' : Context} (run : (Context.deferDestroy f d).run r.context = .ok () c') :
      FrameStep r { r with context := c', handed := r.handed ++ [d] }
  | surface {r : FrameRun} {f : Frame} (recording : r.context.ring.recording = some f) {o : Option Handle}
      {c' : Context} (run : (Context.surface f).run r.context = .ok o c') :
      FrameStep r { r with context := c' }
  | scratch {r : FrameRun} {f : Frame} (recording : r.context.ring.recording = some f) (name : String)
      (size : UInt64) (usage : BufferUsage) {b : Scratch} {c' : Context}
      (run : (Context.scratch f name size usage).run r.context = .ok b c') :
      FrameStep r { r with context := c', made := r.made ++ [b.handle] }
  | commandBuffer {r : FrameRun} {f : Frame} (recording : r.context.ring.recording = some f) (name : String)
      {h : Handle} {c' : Context} (run : (Context.commandBuffer f name).run r.context = .ok h c') :
      FrameStep r { r with context := c', made := r.made ++ [h] }
  | cancel {r : FrameRun} {f : Frame} (recording : r.context.ring.recording = some f) {c' : Context}
      (run : (Context.cancel f).run r.context = .ok () c') :
      FrameStep r { r with context := c' }
  | finish {r : FrameRun} {f : Frame} (recording : r.context.ring.recording = some f) (w : Option Waiter)
      (ds : List Destroyer) {c' : Context} (run : (Context.endFrame f w ds).run r.context = .ok () c') :
      FrameStep r { r with
        context := c'
        handed := r.handed ++ ds
        unseen := r.unseen ++
          [⟨r.context.ring.absolute, f.index, (r.context.slot f.index).deferred ++ r.context.ring.mailbox ++ ds⟩] }
  | post {r : FrameRun} (d : Destroyer) {c' : Context} (run : (Context.queueDestroy d).run r.context = .ok () c') :
      FrameStep r { r with context := c', handed := r.handed ++ [d] }
  | resize {r : FrameRun} (n : Nat) (grows : 0 < n) (idle : r.context.ring.recording = none)
      {res : Except Error Unit} {c' : Context} (run : (Context.resizeRing n).run r.context = .ok res c') :
      FrameStep r { r with
        context := c'
        ran := r.ran ++ r.context.ring.slots.flatMap (·.deferred)
        destroyed := r.destroyed ++ r.context.ring.transients
        unseen := [] }
  | waitAll {r : FrameRun} (idle : r.context.ring.recording = none) {res : Except Error Nat} {c' : Context}
      (run : Context.waitAll.run r.context = .ok res c') :
      FrameStep r { r with
        context := c'
        ran := r.ran ++ r.context.ring.pending
        destroyed := r.destroyed ++ r.context.ring.transients
        unseen := [] }

namespace FrameRun

-- Unseen frames lie in the slot as many places past some base as they ended frames past it, and the
-- ring's position lies as far past that base as frames have ended.
structure Sound (r : FrameRun) : Prop where
  conserved : r.handed.Perm (r.context.ring.pending ++ r.ran)
  transient : r.made.Perm (r.context.ring.transients ++ r.destroyed)
  batches : ∀ e ∈ r.unseen, r.context.ring.slots[e.slot]?.map (·.deferred) = some e.batch
  ordered : r.unseen.Pairwise fun e e' => e.absolute < e'.absolute
  slots : 0 < r.context.ring.slots.length
  base : ∃ base ≤ r.context.ring.absolute,
    r.context.ring.index = (r.context.ring.absolute - base) % r.context.ring.slots.length ∧
    ∀ e ∈ r.unseen, base ≤ e.absolute ∧ e.slot = (e.absolute - base) % r.context.ring.slots.length
  window : ∀ e ∈ r.unseen,
    e.absolute < r.context.ring.absolute ∧ r.context.ring.absolute ≤ e.absolute + r.context.ring.slots.length
  recording : ∀ f, r.context.ring.recording = some f → f.index = r.context.ring.index ∧
    ∀ e ∈ r.unseen, r.context.ring.absolute < e.absolute + r.context.ring.slots.length

variable {r : FrameRun}

theorem Sound.index_lt (sound : Sound r) : r.context.ring.index < r.context.ring.slots.length := by
  obtain ⟨base, -, index, -⟩ := sound.base
  rw [index]
  exact Nat.mod_lt _ sound.slots

theorem Sound.slot_eq_index_iff (sound : Sound r) {e : EndedFrame} (unseen : e ∈ r.unseen) :
    e.slot = r.context.ring.index ↔ r.context.ring.absolute = e.absolute + r.context.ring.slots.length := by
  obtain ⟨base, -, index, placed⟩ := sound.base
  obtain ⟨after, slot⟩ := placed e unseen
  obtain ⟨ended, due⟩ := sound.window e unseen
  have gap : r.context.ring.absolute - base =
      (e.absolute - base) + (r.context.ring.absolute - e.absolute) := by omega
  rw [slot, index, gap, eq_comm, add_mod_eq_iff _ _ _ (by omega) (by omega)]
  omega

theorem Sound.apart (sound : Sound r) {f : Frame} (recording : r.context.ring.recording = some f)
    {e : EndedFrame} (unseen : e ∈ r.unseen) : e.slot ≠ f.index := by
  obtain ⟨same, early⟩ := sound.recording f recording
  rw [same, Ne, sound.slot_eq_index_iff unseen]
  have := early e unseen
  omega

theorem Sound.work (sound : Sound r) {c' : Context}
    (deferred : c'.ring.slots.map (·.deferred) = r.context.ring.slots.map (·.deferred))
    (mailbox : c'.ring.mailbox = r.context.ring.mailbox) (index : c'.ring.index = r.context.ring.index)
    (absolute : c'.ring.absolute = r.context.ring.absolute)
    (recording : ∀ f', c'.ring.recording = some f' → ∃ f, r.context.ring.recording = some f ∧ f'.index = f.index)
    (made : List Handle) (transient : c'.ring.transients.Perm (r.context.ring.transients ++ made)) :
    Sound { r with context := c', made := r.made ++ made } := by
  have length : c'.ring.slots.length = r.context.ring.slots.length := by
    simpa using congrArg List.length deferred
  obtain ⟨base, early, placed, frames⟩ := sound.base
  refine ⟨?_, ?_, ?_, sound.ordered, length ▸ sound.slots, ⟨base, absolute ▸ early, ?_⟩, ?_, ?_⟩
  · have same : c'.ring.pending = r.context.ring.pending := by
      simp only [Ring.pending, List.flatMap_def, deferred, mailbox]
    exact same ▸ sound.conserved
  · rw [List.perm_iff_count] at transient ⊢
    intro h
    have before := List.perm_iff_count.mp sound.transient h
    have after := transient h
    simp only [List.count_append] at before after ⊢
    omega
  · intro e unseen
    rw [← List.getElem?_map, deferred, List.getElem?_map]
    exact sound.batches e unseen
  · rw [index, absolute, length]
    exact ⟨placed, frames⟩
  · intro e unseen
    rw [absolute, length]
    exact sound.window e unseen
  · intro f' now
    obtain ⟨f, before, same⟩ := recording f' now
    obtain ⟨there, early⟩ := sound.recording f before
    rw [same, index, absolute, length]
    exact ⟨there, early⟩

theorem recorded_of_map_index {c c' : Context} {f : Frame} (recording : c.ring.recording = some f)
    (frame : c'.ring.recording.map (·.index) = c.ring.recording.map (·.index)) :
    ∀ f', c'.ring.recording = some f' → ∃ f, c.ring.recording = some f ∧ f'.index = f.index := by
  intro f' now
  rw [now, recording, Option.map_some, Option.map_some, Option.some.injEq] at frame
  exact ⟨f, recording, frame⟩

theorem Sound.surface (sound : Sound r) {f : Frame} (recording : r.context.ring.recording = some f)
    {o : Option Handle} {c' : Context} (run : (Context.surface f).run r.context = .ok o c') :
    Sound { r with context := c' } := by
  obtain ⟨slots, mailbox, index, absolute, frame⟩ := Context.ring_surface run
  have kept := sound.work (by rw [slots]) mailbox index absolute (recorded_of_map_index recording frame) []
    (by simp [Ring.transients, slots])
  simpa using kept

theorem Sound.scratch (sound : Sound r) {f : Frame} (recording : r.context.ring.recording = some f)
    {name : String} {size : UInt64} {usage : BufferUsage} {b : Scratch} {c' : Context}
    (run : (Context.scratch f name size usage).run r.context = .ok b c') :
    Sound { r with context := c', made := r.made ++ [b.handle] } := by
  have moved := Context.ring_scratch run
  have inside : f.index < r.context.ring.slots.length := (sound.recording f recording).1 ▸ sound.index_lt
  refine sound.work ?_ (by rw [moved]) (by rw [moved]) (by rw [moved]) ?_ [b.handle] ?_
  · rw [moved]
    exact map_modify_of_eq _ _ _ _ fun _ => rfl
  · intro f' now
    rw [moved, recording, Option.map_some, Option.some.injEq] at now
    exact ⟨f, recording, by rw [← now]⟩
  · rw [moved]
    exact flatMap_modify_append_perm _ _ _ _ _ (fun _ => rfl) inside

theorem Sound.commandBuffer (sound : Sound r) {f : Frame} (recording : r.context.ring.recording = some f)
    {name : String} {h : Handle} {c' : Context} (run : (Context.commandBuffer f name).run r.context = .ok h c') :
    Sound { r with context := c', made := r.made ++ [h] } := by
  have moved := Context.ring_commandBuffer run
  have inside : f.index < r.context.ring.slots.length := (sound.recording f recording).1 ▸ sound.index_lt
  refine sound.work ?_ (by rw [moved]) (by rw [moved]) (by rw [moved]) ?_ [h] ?_
  · rw [moved]
    exact map_modify_of_eq _ _ _ _ fun _ => rfl
  · intro f' now
    rw [moved, recording, Option.map_some, Option.some.injEq] at now
    exact ⟨f, recording, by rw [← now]⟩
  · rw [moved]
    exact flatMap_modify_append_perm _ _ _ _ _ (fun _ => rfl) inside

theorem Sound.cancel (sound : Sound r) {f : Frame} {c' : Context}
    (run : (Context.cancel f).run r.context = .ok () c') : Sound { r with context := c' } := by
  obtain ⟨-, moved⟩ := Context.ring_cancel run
  have deferred : c'.ring.slots.map (·.deferred) = r.context.ring.slots.map (·.deferred) := by
    rw [moved]
    exact map_modify_of_eq _ _ _ _ fun _ => rfl
  have transients : c'.ring.transients = r.context.ring.transients := by
    simp only [Ring.transients, List.flatMap_def, moved]
    exact congrArg List.flatten (map_modify_of_eq _ _ _ _ fun _ => rfl)
  have kept := sound.work deferred (by rw [moved]) (by rw [moved]) (by rw [moved])
    (fun f' now => by simp [moved] at now) [] (by rw [transients, List.append_nil])
  simpa using kept

theorem Sound.begin (sound : Sound r) {f : Frame} {c' : Context}
    (run : Context.beginFrame.run r.context = .ok f c') :
    Sound { r with
      context := c'
      ran := r.ran ++ (r.context.slot r.context.ring.index).deferred
      destroyed := r.destroyed ++ (r.context.slot r.context.ring.index).transient
      unseen := r.unseen.filter (·.slot != r.context.ring.index) } := by
  classical
  obtain ⟨-, index, moved⟩ := Context.ring_beginFrame run
  have inside := sound.index_lt
  have slot : r.context.slot r.context.ring.index = r.context.ring.slots[r.context.ring.index] := by
    simp [Context.slot, List.getElem?_eq_getElem inside]
  have length : c'.ring.slots.length = r.context.ring.slots.length := by simp [moved]
  have kept : ∀ e ∈ r.unseen.filter (·.slot != r.context.ring.index),
      e ∈ r.unseen ∧ e.slot ≠ r.context.ring.index := by
    intro e member
    simpa using member
  obtain ⟨base, early, placed, frames⟩ := sound.base
  refine ⟨?_, ?_, ?_, sound.ordered.filter _, length ▸ sound.slots, ⟨base, ?_, ?_, ?_⟩, ?_, ?_⟩
  · -- the batch leaves the slot for the list of what ran
    have cleared := flatMap_modify_perm r.context.ring.slots r.context.ring.index Slot.cleared (·.deferred) inside
    rw [List.perm_iff_count] at cleared ⊢
    intro d
    have before := List.perm_iff_count.mp sound.conserved d
    have moving := cleared d
    simp only [Ring.pending, moved, slot, Slot.cleared, List.append_nil, List.count_append] at before moving ⊢
    omega
  · have cleared := flatMap_modify_perm r.context.ring.slots r.context.ring.index Slot.cleared (·.transient) inside
    rw [List.perm_iff_count] at cleared ⊢
    intro h
    have before := List.perm_iff_count.mp sound.transient h
    have moving := cleared h
    simp only [Ring.transients, moved, slot, Slot.cleared, List.append_nil, List.count_append] at before moving ⊢
    omega
  · intro e member
    obtain ⟨unseen, other⟩ := kept e member
    rw [moved]
    simp only
    rw [List.getElem?_modify_ne _ _ (Ne.symm other)]
    exact sound.batches e unseen
  · simpa [moved] using early
  · simpa [moved, length] using placed
  · intro e member
    rw [length]
    exact frames e (kept e member).1
  · intro e member
    rw [length, moved]
    exact sound.window e (kept e member).1
  · intro f' now
    rw [moved, Option.some.injEq] at now
    subst now
    refine ⟨by rw [index, moved], fun e member => ?_⟩
    obtain ⟨unseen, other⟩ := kept e member
    have due := (sound.window e unseen).2
    have notNow := mt (sound.slot_eq_index_iff unseen).mpr other
    rw [length, moved]
    simp only
    omega

theorem Sound.queue (sound : Sound r) {f : Frame} (recording : r.context.ring.recording = some f)
    (d : Destroyer) {c' : Context} (run : (Context.deferDestroy f d).run r.context = .ok () c') :
    Sound { r with context := c', handed := r.handed ++ [d] } := by
  classical
  rw [Context.run_deferDestroy, EStateM.Result.ok.injEq] at run
  obtain ⟨-, rfl⟩ := run
  have inside : f.index < r.context.ring.slots.length := (sound.recording f recording).1 ▸ sound.index_lt
  obtain ⟨base, early, placed, frames⟩ := sound.base
  refine ⟨?_, ?_, ?_, sound.ordered, by simpa using sound.slots, ⟨base, early, by simpa using placed,
    by simpa using frames⟩, by simpa using sound.window, by simpa using sound.recording⟩
  · have grown := flatMap_modify_append_perm r.context.ring.slots f.index
      (fun s => { s with deferred := s.deferred ++ [d] }) (·.deferred) [d] (fun _ => rfl) inside
    rw [List.perm_iff_count] at grown ⊢
    intro x
    have before := List.perm_iff_count.mp sound.conserved x
    have moving := grown x
    simp only [Ring.pending, List.count_append] at before moving ⊢
    omega
  · have same : (r.context.ring.slots.modify f.index fun s => { s with deferred := s.deferred ++ [d] }).flatMap
        (·.transient) = r.context.ring.slots.flatMap (·.transient) := by
      simp only [List.flatMap_def]
      exact congrArg List.flatten (map_modify_of_eq _ _ _ _ fun _ => rfl)
    simpa [Ring.transients, same] using sound.transient
  · intro e unseen
    simp only
    rw [List.getElem?_modify_ne _ _ (Ne.symm (sound.apart recording unseen))]
    exact sound.batches e unseen

theorem Sound.post (sound : Sound r) (d : Destroyer) {c' : Context}
    (run : (Context.queueDestroy d).run r.context = .ok () c') :
    Sound { r with context := c', handed := r.handed ++ [d] } := by
  classical
  rw [Context.run_queueDestroy, EStateM.Result.ok.injEq] at run
  obtain ⟨-, rfl⟩ := run
  refine ⟨?_, sound.transient, sound.batches, sound.ordered, sound.slots, sound.base, sound.window, sound.recording⟩
  rw [List.perm_iff_count]
  intro x
  have before := List.perm_iff_count.mp sound.conserved x
  simp only [Ring.pending, List.count_append] at before ⊢
  omega

theorem Sound.finish (sound : Sound r) {f : Frame} (recording : r.context.ring.recording = some f)
    (w : Option Waiter) (ds : List Destroyer) {c' : Context}
    (run : (Context.endFrame f w ds).run r.context = .ok () c') :
    Sound { r with
      context := c'
      handed := r.handed ++ ds
      unseen := r.unseen ++
        [⟨r.context.ring.absolute, f.index, (r.context.slot f.index).deferred ++ r.context.ring.mailbox ++ ds⟩] } := by
  classical
  obtain ⟨slots, mailbox, stopped, index, absolute⟩ := Context.ring_endFrame run
  obtain ⟨there, early⟩ := sound.recording f recording
  have inside : f.index < r.context.ring.slots.length := there ▸ sound.index_lt
  have length : c'.ring.slots.length = r.context.ring.slots.length := by simp [slots]
  have slot : r.context.slot f.index = r.context.ring.slots[f.index] := by
    simp [Context.slot, List.getElem?_eq_getElem inside]
  obtain ⟨base, below, placed, frames⟩ := sound.base
  refine ⟨?_, ?_, ?_, ?_, length ▸ sound.slots, ⟨base, ?_, ?_, ?_⟩, ?_, ?_⟩
  · -- the mailbox moves into the slot, and the frame's destroyers join it
    have grown := flatMap_modify_append_perm r.context.ring.slots f.index
      (fun s => { s with deferred := s.deferred ++ r.context.ring.mailbox ++ ds, waiter := w }) (·.deferred)
      (r.context.ring.mailbox ++ ds) (fun _ => List.append_assoc _ _ _) inside
    rw [List.perm_iff_count] at grown ⊢
    intro x
    have before := List.perm_iff_count.mp sound.conserved x
    have moving := grown x
    simp only [Ring.pending, slots, mailbox, List.count_append, List.count_nil] at before moving ⊢
    omega
  · have same : c'.ring.transients = r.context.ring.transients := by
      simp only [Ring.transients, List.flatMap_def, slots]
      exact congrArg List.flatten (map_modify_of_eq _ _ _ _ fun _ => rfl)
    exact same ▸ sound.transient
  · intro e member
    rcases List.mem_append.mp member with unseen | ended
    · rw [slots, List.getElem?_modify_ne _ _ (Ne.symm (sound.apart recording unseen))]
      exact sound.batches e unseen
    · rw [List.mem_singleton] at ended
      subst ended
      simp [slots, List.getElem?_eq_getElem inside, slot]
  · refine List.pairwise_append.mpr ⟨sound.ordered, List.pairwise_singleton _ _, ?_⟩
    intro e unseen e' ended
    rw [List.mem_singleton] at ended
    subst ended
    exact (sound.window e unseen).1
  · show base ≤ c'.ring.absolute
    omega
  · rw [index, absolute, length, there, placed, Nat.mod_add_mod]
    congr 1
    omega
  · intro e member
    rw [length]
    rcases List.mem_append.mp member with unseen | ended
    · exact frames e unseen
    · rw [List.mem_singleton] at ended
      subst ended
      exact ⟨below, there ▸ placed⟩
  · intro e member
    rw [length, absolute]
    rcases List.mem_append.mp member with unseen | ended
    · have window := sound.window e unseen
      have recent := early e unseen
      omega
    · rw [List.mem_singleton] at ended
      subst ended
      have := sound.slots
      simp only
      omega
  · intro f' now
    rw [stopped] at now
    cases now

theorem flatMap_cleared_deferred (l : List Slot) : (l.map Slot.cleared).flatMap (·.deferred) = [] := by
  simp [Slot.cleared]

theorem flatMap_cleared_transient (l : List Slot) : (l.map Slot.cleared).flatMap (·.transient) = [] := by
  simp [Slot.cleared]

theorem Sound.waitAll (sound : Sound r) (idle : r.context.ring.recording = none) {res : Except Error Nat}
    {c' : Context} (run : Context.waitAll.run r.context = .ok res c') :
    Sound { r with
      context := c'
      ran := r.ran ++ r.context.ring.pending
      destroyed := r.destroyed ++ r.context.ring.transients
      unseen := [] } := by
  have moved := Context.ring_waitAll idle run
  obtain ⟨base, early, placed, -⟩ := sound.base
  refine ⟨?_, ?_, by simp, by simp, by simpa [moved] using sound.slots,
    ⟨base, by simpa [moved] using early, by simpa [moved] using placed, by simp⟩, by simp, ?_⟩
  · simpa [Ring.pending, moved, flatMap_cleared_deferred] using sound.conserved.trans List.perm_append_comm
  · simpa [Ring.transients, moved, flatMap_cleared_transient] using sound.transient.trans List.perm_append_comm
  · intro f now
    rw [moved, idle] at now
    cases now

theorem Sound.resize (sound : Sound r) {n : Nat} (grows : 0 < n) (idle : r.context.ring.recording = none)
    {res : Except Error Unit} {c' : Context} (run : (Context.resizeRing n).run r.context = .ok res c') :
    Sound { r with
      context := c'
      ran := r.ran ++ r.context.ring.slots.flatMap (·.deferred)
      destroyed := r.destroyed ++ r.context.ring.transients
      unseen := [] } := by
  classical
  obtain ⟨mailbox, absolute, stopped, fresh, empty, slots, position⟩ := Context.ring_resizeRing grows idle run
  have emptied : c'.ring.slots.flatMap (·.deferred) = [] ∧ c'.ring.slots.flatMap (·.transient) = [] := by
    rw [slots, List.flatMap_append, List.flatMap_append, ← List.map_take, flatMap_cleared_deferred,
      flatMap_cleared_transient, List.nil_append, List.nil_append, List.flatMap_eq_nil_iff,
      List.flatMap_eq_nil_iff]
    exact ⟨fun s member => (empty s member).1, fun s member => (empty s member).2.1⟩
  obtain ⟨base, early, placed, -⟩ := sound.base
  have inside := sound.index_lt
  have behind : r.context.ring.index ≤ r.context.ring.absolute := by
    rw [placed]
    exact Nat.le_trans (Nat.mod_le _ _) (Nat.sub_le _ _)
  -- the new position is as far past a new base as frames have ended, with no unseen frame
  have restart : 0 < c'.ring.slots.length ∧ c'.ring.index < c'.ring.slots.length ∧
      c'.ring.index ≤ c'.ring.absolute := by
    rcases position with ⟨zero, size⟩ | ⟨same, longer⟩
    · rw [zero, size]
      exact ⟨grows, grows, Nat.zero_le _⟩
    · rw [same, absolute]
      exact ⟨by omega, by omega, behind⟩
  obtain ⟨someSlot, atSlot, notAhead⟩ := restart
  refine ⟨?_, ?_, by simp, by simp, someSlot,
    ⟨c'.ring.absolute - c'.ring.index, Nat.sub_le _ _, ?_, by simp⟩, by simp, ?_⟩
  · rw [List.perm_iff_count]
    intro x
    have before := List.perm_iff_count.mp sound.conserved x
    simp only [Ring.pending, emptied.1, mailbox, List.nil_append, List.count_append] at before ⊢
    omega
  · rw [List.perm_iff_count]
    intro h
    have before := List.perm_iff_count.mp sound.transient h
    simp only [Ring.transients, emptied.2, List.nil_append, List.count_append] at before ⊢
    omega
  · show c'.ring.index = (c'.ring.absolute - (c'.ring.absolute - c'.ring.index)) % c'.ring.slots.length
    rw [Nat.sub_sub_self notAhead, Nat.mod_eq_of_lt atSlot]
  · intro f now
    rw [stopped] at now
    cases now

theorem Sound.step {r' : FrameRun} (sound : Sound r) (step : FrameStep r r') : Sound r' := by
  cases step with
  | begin run => exact sound.begin run
  | queue recording d run => exact sound.queue recording d run
  | surface recording run => exact sound.surface recording run
  | scratch recording name size usage run => exact sound.scratch recording run
  | commandBuffer recording name run => exact sound.commandBuffer recording run
  | cancel recording run => exact sound.cancel run
  | finish recording w ds run => exact sound.finish recording w ds run
  | post d run => exact sound.post d run
  | resize n grows idle run => exact sound.resize grows idle run
  | waitAll idle run => exact sound.waitAll idle run

theorem Sound.run {r' : FrameRun} (sound : Sound r) (steps : Relation.ReflTransGen FrameStep r r') : Sound r' := by
  induction steps with
  | refl => exact sound
  | tail _ step ih => exact ih.step step

theorem eq_of_absolute_eq {l : List EndedFrame} (ordered : l.Pairwise fun e e' => e.absolute < e'.absolute)
    {e e' : EndedFrame} (first : e ∈ l) (second : e' ∈ l) (same : e.absolute = e'.absolute) : e = e' := by
  induction l with
  | nil => cases first
  | cons a rest ih =>
    rw [List.pairwise_cons] at ordered
    rcases List.mem_cons.mp first with rfl | later
    · rcases List.mem_cons.mp second with rfl | later'
      · rfl
      · exact absurd same (Nat.ne_of_lt (ordered.1 e' later'))
    · rcases List.mem_cons.mp second with rfl | later'
      · exact absurd same.symm (Nat.ne_of_lt (ordered.1 e later))
      · exact ih ordered.2 later later'

-- `Sound` without its base: what a caller of the ring can rely on.
structure Promises (r : FrameRun) : Prop where
  conserved : r.handed.Perm (r.context.ring.pending ++ r.ran)
  transient : r.made.Perm (r.context.ring.transients ++ r.destroyed)
  batches : ∀ e ∈ r.unseen, r.context.ring.slots[e.slot]?.map (·.deferred) = some e.batch
  due : ∀ e ∈ r.unseen,
    e.absolute < r.context.ring.absolute ∧ r.context.ring.absolute ≤ e.absolute + r.context.ring.slots.length
  next : ∀ e ∈ r.unseen,
    e.slot = r.context.ring.index ↔ r.context.ring.absolute = e.absolute + r.context.ring.slots.length
  oldest : ∀ e ∈ r.unseen, e.slot = r.context.ring.index → ∀ e' ∈ r.unseen, e' ≠ e → e.absolute < e'.absolute

theorem Sound.promises (sound : Sound r) : Promises r := by
  refine ⟨sound.conserved, sound.transient, sound.batches, sound.window,
    fun e unseen => sound.slot_eq_index_iff unseen, ?_⟩
  intro e unseen atIndex e' other apart
  have now := (sound.slot_eq_index_iff unseen).mp atIndex
  have later := (sound.window e' other).2
  rcases Nat.lt_or_ge e.absolute e'.absolute with before | after
  · exact before
  · exact absurd (eq_of_absolute_eq sound.ordered other unseen (by omega)) apart

-- A ring as a renderer starts it: some slots, each empty, nothing in the mailbox, no frame being
-- recorded, and its position among its slots no further than the frames ended so far.
structure Fresh (ring : Ring) : Prop where
  slots : 0 < ring.slots.length
  empty : ∀ s ∈ ring.slots, s.deferred = [] ∧ s.transient = []
  mailbox : ring.mailbox = []
  index : ring.index < ring.slots.length
  behind : ring.index ≤ ring.absolute
  idle : ring.recording = none

theorem Sound.start {c : Context} (fresh : Fresh c.ring) : Sound ⟨c, [], [], [], [], []⟩ := by
  have deferred : c.ring.slots.flatMap (·.deferred) = [] :=
    List.flatMap_eq_nil_iff.mpr fun s member => (fresh.empty s member).1
  have transient : c.ring.slots.flatMap (·.transient) = [] :=
    List.flatMap_eq_nil_iff.mpr fun s member => (fresh.empty s member).2
  refine ⟨by simp [Ring.pending, deferred, fresh.mailbox], by simp [Ring.transients, transient], by simp,
    by simp, fresh.slots, ⟨c.ring.absolute - c.ring.index, Nat.sub_le _ _, ?_, by simp⟩, by simp, ?_⟩
  · rw [Nat.sub_sub_self fresh.behind, Nat.mod_eq_of_lt fresh.index]
  · intro f now
    rw [fresh.idle] at now
    cases now

end FrameRun

end RenderCore
