import RenderCore.Context.Renderer
import RenderCore.Proofs.Frames.Parking
namespace RenderCore

open Relation Context

inductive Holder where
  | semaphore (j : Nat)
  | promise (p : Promise)
  | ticket (t : Ticket)
  | waiter (w : Waiter)

def Holder.timeline : Holder → Nat
  | .semaphore j => j
  | .promise p => p.timeline
  | .ticket t => t.timeline
  | .waiter w => w.timeline

theorem Device.run_create_made {kind : HandleKind} {d d' : Device} {h : Handle}
    (run : (Device.create kind).run d = .ok (.ok h) d') :
    h = ⟨kind, d.next⟩ ∧
      d' = { d with next := d.next + 1, live := d.live ++ [⟨kind, d.next⟩],
                    log := d.log.push (.create ⟨kind, d.next⟩) } := by
  by_cases armed : ∃ f, d.failNext = some (kind, f)
  · obtain ⟨f, armed⟩ := armed
    rw [Device.run_create_armed kind f none d armed] at run
    cases run
  · rw [Device.run_create_fresh kind d fun f same => armed ⟨f, same⟩] at run
    cases run
    exact ⟨rfl, rfl⟩

namespace Context

structure Unused (c : Context) : Prop where
  timelines : ∀ j < c.timelines.size, (c.timeline j).handle ≠ ⟨.semaphore, c.device.next⟩
  destroyed : c.device.log.toList.count (.destroy ⟨.semaphore, c.device.next⟩) = 0
  filed : ∀ e ∈ c.device.poolSets, (⟨.semaphore, c.device.next⟩ : Handle) ∉ e.2

variable {c c' : Context} {name : String}

theorem timeline_push {t : Timeline} (timelines : c'.timelines = c.timelines.push t) (m : Nat) :
    c'.timeline m = if m = c.timelines.size then t else c.timeline m := by
  unfold timeline
  rw [timelines, Array.getElem?_push]
  split <;> rfl

theorem run_newTimeline_made {j : Nat} (run : (newTimeline name).run c = .ok (.ok j) c') :
    j = c.timelines.size ∧
      c' = { c with
        device := { c.device with next := c.device.next + 1, live := c.device.live ++ [⟨.semaphore, c.device.next⟩],
                                  log := c.device.log.push (.create ⟨.semaphore, c.device.next⟩) }
        timelines := c.timelines.push { handle := ⟨.semaphore, c.device.next⟩, name } } := by
  obtain ⟨created, c₁, device, rest⟩ := Act.run_bind_ok run
  obtain ⟨d', create, rfl⟩ := run_device_ok device
  cases created with
  | error f => cases rest
  | ok h =>
    obtain ⟨rfl, rfl⟩ := Device.run_create_made create
    simp only [EStateM.run_bind, EStateM.run_get, EStateM.run_set, EStateM.run_pure,
      EStateM.Result.ok.injEq, Except.ok.injEq] at rest
    obtain ⟨rfl, rfl⟩ := rest
    exact ⟨rfl, rfl⟩

theorem run_newTimeline_refused {e : Error} (run : (newTimeline name).run c = .ok (.error e) c') :
    ∃ d', (∀ h, Device.Spared h c.device d') ∧ c' = { c with device := d' } := by
  obtain ⟨created, c₁, device, rest⟩ := Act.run_bind_ok run
  obtain ⟨d', create, rfl⟩ := run_device_ok device
  refine ⟨d', fun h => @Device.spares_create h .semaphore c.device created d' create, ?_⟩
  cases created with
  | error f =>
    cases rest
    rfl
  | ok h =>
    simp only [EStateM.run_bind, EStateM.run_get, EStateM.run_set, EStateM.run_pure] at rest
    cases rest

theorem Alive.push (alive : Alive c) (unused : Unused c)
    (timelines : c'.timelines = c.timelines.push { handle := ⟨.semaphore, c.device.next⟩, name })
    (live : c'.device.live = c.device.live ++ [⟨.semaphore, c.device.next⟩])
    (poolSets : c'.device.poolSets = c.device.poolSets) : Alive c' := by
  have size : c'.timelines.size = c.timelines.size + 1 := by rw [timelines, Array.size_push]
  have handles : ∀ m, (c'.timeline m).handle =
      if m = c.timelines.size then ⟨.semaphore, c.device.next⟩ else (c.timeline m).handle := by
    intro m
    rw [timeline_push timelines]
    split <;> rfl
  have apart : ∀ m < c'.timelines.size, ∀ m' < c'.timelines.size, m' ≠ m →
      (c'.timeline m').handle ≠ (c'.timeline m).handle := by
    intro m inside m' inside' other
    rw [handles, handles]
    split <;> split
    · omega
    · exact (unused.timelines m (by omega)).symm
    · exact unused.timelines m' (by omega)
    · exact (alive.tracked m (by omega)).apart m' (by omega) other
  refine ⟨fun m inside => ⟨inside, rfl, ?_, fun m' inside' other => apart m inside m' inside' other⟩,
    fun m inside held => ?_, fun m inside => ?_⟩
  · rw [handles]
    split
    · rfl
    · exact (alive.tracked m (by omega)).semaphore
  · rw [live, handles]
    split
    · exact List.mem_append_right _ (List.mem_singleton_self _)
    · rename_i old
      rw [timeline_push timelines, if_neg old] at held
      exact List.mem_append_left _ (alive.live m (by omega) held)
  · rw [poolSets, handles]
    split
    · exact unused.filed
    · exact alive.filed m (by omega)

section Results

variable {j : Nat}

theorem promise_timeline {p : Promise} (run : (promise j).run c = .ok p c') : p.timeline = j := by
  obtain ⟨_, _, -, run⟩ := Act.run_bind_ok run
  obtain ⟨_, _, -, run⟩ := Act.run_bind_ok run
  obtain ⟨_, _, -, run⟩ := Act.run_bind_ok run
  cases run
  rfl

theorem signalInfo_timeline {stage : UInt64} {t : Ticket} (run : (signalInfo j stage).run c = .ok t c') :
    t.timeline = j := by
  obtain ⟨_, _, -, run⟩ := Act.run_bind_ok run
  obtain ⟨_, _, -, run⟩ := Act.run_bind_ok run
  cases run
  rfl

theorem waiterPending_timeline {w : Waiter} (run : (waiterPending j).run c = .ok w c') : w.timeline = j := by
  obtain ⟨_, _, -, run⟩ := Act.run_bind_ok run
  obtain ⟨_, _, -, run⟩ := Act.run_bind_ok run
  cases run
  rfl

theorem waiterCurrent_timeline {w : Waiter} (run : (waiterCurrent j).run c = .ok w c') : w.timeline = j := by
  obtain ⟨_, _, -, run⟩ := Act.run_bind_ok run
  obtain ⟨_, _, -, run⟩ := Act.run_bind_ok run
  cases run
  rfl

end Results

section Release

theorem moves_signal (alive : Alive c) {p : Promise} (present : p.timeline < c.timelines.size)
    (held : 0 < (c.timeline p.timeline).holders) (run : (signal p).run c = .ok () c') :
    ∀ j < c.timelines.size, Moves j (c.timeline j).handle (if j = p.timeline then 1 else 0) [] c c' := by
  intro j inside
  by_cases same : j = p.timeline
  · rw [if_pos same]
    exact movesBy_signal_self p same.symm inside rfl (same ▸ held) () c' run
  · rw [if_neg same]
    exact movesBy_signal_other p (Ne.symm same) ((alive.tracked j inside).apart _ present (Ne.symm same)) () c' run

theorem moves_submitted (alive : Alive c) {t : Ticket} (present : t.timeline < c.timelines.size)
    (held : 0 < (c.timeline t.timeline).holders) (run : (submitted t).run c = .ok () c') :
    ∀ j < c.timelines.size, Moves j (c.timeline j).handle (if j = t.timeline then 1 else 0) (Ticket.valuesOn j [t])
      c c' := by
  intro j inside
  by_cases same : j = t.timeline
  · rw [if_pos same, show Ticket.valuesOn j [t] = [t.point.value] by simp [Ticket.valuesOn, same]]
    exact movesBy_submitted_self t same.symm inside rfl (same ▸ held) () c' run
  · rw [if_neg same, show Ticket.valuesOn j [t] = [] by simp [Ticket.valuesOn, Ne.symm same]]
    exact movesBy_submitted_other t (Ne.symm same) ((alive.tracked j inside).apart _ present (Ne.symm same)) () c' run

end Release

theorem endFrame_accepts {f : Frame} {w : Option Waiter} {ds : List Destroyer}
    (signalled : f.tickets ≠ [] → f.signals ≠ []) (run : (endFrame f w ds).run c = .ok () c') :
    submitAccepted c f w = true ∨ f.tickets = [] := by
  by_cases none : f.tickets = []
  · exact .inr none
  refine .inl ?_
  have signals := signalled none
  unfold endFrame at run
  obtain ⟨_, c₁, body, -⟩ := Act.run_bind_ok run
  simp only [Act.run_onFault] at body
  split at body
  · rename_i finished
    split at finished
    · obtain ⟨_, _, never, _⟩ := Act.run_bind_ok finished
      cases never
    · rename_i covered
      simp only [EStateM.run_bind, EStateM.run_get] at finished
      split at finished
      · obtain ⟨result, c₃, handed, later⟩ := Act.run_bind_ok finished
        obtain ⟨d', ran, rfl⟩ := run_device_ok handed
        have status := Device.submit_status ran
        cases result with
        | error failure => cases later
        | ok accepted =>
          have some : f.signals.isEmpty = false := List.isEmpty_eq_false_iff.mpr signals
          have present : (f.surface.isSome || w.isSome) = true := by
            cases surfaced : f.surface <;> cases waiting : w <;> simp_all
          rw [submitAccepted, ← status]
          simp [Except.toBool, present, some]
      · rename_i quiet
        exact absurd (.inr (.inr (by simpa using signals))) quiet
  · split at body <;> cases body

section Ring

theorem keepsRing_query (j : Nat) : Keeps (·.ring) (query j) :=
  Keeps.bind Keeps.of_get fun _ => Keeps.bind (keepsRing_modifyTimeline _ _) fun _ =>
    Keeps.bind Keeps.of_get fun _ => Keeps.of_pure _

theorem keepsRing_poll (w : Waiter) : Keeps (·.ring) (poll w) :=
  Keeps.bind Keeps.of_get fun _ => Keeps.ite (Keeps.of_pure _)
    (Keeps.bind (keepsRing_query _) fun _ => Keeps.of_pure _)

theorem keepsRing_signal (p : Promise) : Keeps (·.ring) (signal p) := by
  unfold signal
  refine Keeps.bind (Keeps.onFault ?_ _) fun _ => keepsRing_letGo _
  refine Keeps.bind (keepsRing_waitFor _ _) fun _ => Keeps.bind Keeps.of_get fun _ => ?_
  refine Keeps.ite (Keeps.bind (Keeps.of_fail _) fun _ => ?_) ?_
  all_goals exact Keeps.bind (keepsRing_device _) fun _ => keepsRing_modifyTimeline _ _

end Ring

end Context

structure LifeRun where
  context : Context
  held : List Holder
  accepted : List Ticket

namespace LifeRun

def holders (r : LifeRun) (j : Nat) : Nat :=
  r.held.countP (·.timeline == j) + r.context.parked j + r.context.framed j

def lastAccepted (r : LifeRun) (j : Nat) : UInt64 :=
  (Ticket.valuesOn j r.accepted).foldl max 0

def Settled {α : Type} (x : Act Context α) (c c' : Context) : Prop :=
  (∃ a, x.run c = .ok a c') ∨ ∃ err, x.run c = .error (.fatal err) c' ∧ Unblocked c c'

def HoldsClone (r : LifeRun) (w : Option Waiter) (c₁ : Context) : Prop :=
  w.elim (c₁ = r.context) fun x => .waiter x ∈ r.held ∧ (hold x.timeline).run r.context = .ok () c₁

inductive Step : LifeRun → LifeRun → Prop
  | newTimeline {r : LifeRun} (name : String) {j : Nat} {c' : Context} (unused : Unused r.context)
      (run : (newTimeline name).run r.context = .ok (.ok j) c') : Step r ⟨c', r.held ++ [.semaphore j], r.accepted⟩
  | newTimelineRefused {r : LifeRun} (name : String) {e : Error} {c' : Context}
      (run : (newTimeline name).run r.context = .ok (.error e) c') : Step r ⟨c', r.held, r.accepted⟩
  | promise {r : LifeRun} (j : Nat) {p : Promise} {c' : Context} (owner : .semaphore j ∈ r.held)
      (run : (promise j).run r.context = .ok p c') : Step r ⟨c', r.held ++ [.promise p], r.accepted⟩
  | signalInfo {r : LifeRun} (j : Nat) (stage : UInt64) {t : Ticket} {c' : Context} (owner : .semaphore j ∈ r.held)
      (run : (signalInfo j stage).run r.context = .ok t c') : Step r ⟨c', r.held ++ [.ticket t], r.accepted⟩
  | waiterPending {r : LifeRun} (j : Nat) {w : Waiter} {c' : Context} (owner : .semaphore j ∈ r.held)
      (run : (waiterPending j).run r.context = .ok w c') : Step r ⟨c', r.held ++ [.waiter w], r.accepted⟩
  | waiterCurrent {r : LifeRun} (j : Nat) {w : Waiter} {c' : Context} (owner : .semaphore j ∈ r.held)
      (run : (waiterCurrent j).run r.context = .ok w c') : Step r ⟨c', r.held ++ [.waiter w], r.accepted⟩
  | letGo {r : LifeRun} {a b : List Holder} {x : Holder} {c' : Context} (split : r.held = a ++ x :: b)
      (run : (letGo x.timeline).run r.context = .ok () c') : Step r ⟨c', a ++ b, r.accepted⟩
  | signal {r : LifeRun} {a b : List Holder} {p : Promise} {c' : Context} (split : r.held = a ++ .promise p :: b)
      (settled : Settled (signal p) r.context c') : Step r ⟨c', a ++ b, r.accepted⟩
  | submitted {r : LifeRun} {a b : List Holder} {t : Ticket} {c' : Context} (split : r.held = a ++ .ticket t :: b)
      (run : (submitted t).run r.context = .ok () c') : Step r ⟨c', a ++ b, r.accepted ++ [t]⟩
  | waitFor {r : LifeRun} (j : Nat) (v : UInt64) {c' : Context} (run : (waitFor j v).run r.context = .ok () c') :
      Step r ⟨c', r.held, r.accepted⟩
  | query {r : LifeRun} (j : Nat) {v : UInt64} {c' : Context} (run : (query j).run r.context = .ok v c') :
      Step r ⟨c', r.held, r.accepted⟩
  | poll {r : LifeRun} (w : Waiter) {b : Bool} {c' : Context} (run : (poll w).run r.context = .ok b c') :
      Step r ⟨c', r.held, r.accepted⟩
  | device {r : LifeRun} (d : Device) (log : d.log = r.context.device.log) (live : d.live = r.context.device.live)
      (poolSets : d.poolSets = r.context.device.poolSets) : Step r ⟨{ r.context with device := d }, r.held, r.accepted⟩
  | beginFrame {r : LifeRun} {f : Frame} {c' : Context} (run : beginFrame.run r.context = .ok f c') :
      Step r ⟨c', r.held, r.accepted⟩
  | surface {r : LifeRun} {f : Frame} {o : Option Handle} {c' : Context} (recording : r.context.ring.recording = some f)
      (run : (surface f).run r.context = .ok o c') : Step r ⟨c', r.held, r.accepted⟩
  | scratch {r : LifeRun} {f : Frame} (name : String) (size : UInt64) (usage : BufferUsage) {b : Scratch}
      {c' : Context} (recording : r.context.ring.recording = some f)
      (run : (scratch f name size usage).run r.context = .ok b c') : Step r ⟨c', r.held, r.accepted⟩
  | writeScratch {r : LifeRun} (b : Scratch) (offset : UInt64) (len : Nat) {res : Except Error Unit} {c' : Context}
      (run : (writeScratch b offset len).run r.context = .ok res c') : Step r ⟨c', r.held, r.accepted⟩
  | commandBuffer {r : LifeRun} {f : Frame} (name : String) {h : Handle} {c' : Context}
      (recording : r.context.ring.recording = some f) (run : (commandBuffer f name).run r.context = .ok h c') :
      Step r ⟨c', r.held, r.accepted⟩
  | waitPoint {r : LifeRun} (p : SyncPoint) {c' : Context} (run : (waitPoint p).run r.context = .ok () c') :
      Step r ⟨c', r.held, r.accepted⟩
  | signalTicket {r : LifeRun} {f : Frame} {a b : List Holder} {t : Ticket} {c' : Context}
      (recording : r.context.ring.recording = some f) (split : r.held = a ++ .ticket t :: b)
      (run : (signalTicket t).run r.context = .ok () c') : Step r ⟨c', a ++ b, r.accepted⟩
  | deferDestroy {r : LifeRun} {f : Frame} (d : Destroyer) {c' : Context} (recording : r.context.ring.recording = some f)
      (kept : ∀ x, d ≠ .destroy x) (run : (deferDestroy f d).run r.context = .ok () c') : Step r ⟨c', r.held, r.accepted⟩
  | queueDestroy {r : LifeRun} (d : Destroyer) {c' : Context} (kept : ∀ x, d ≠ .destroy x)
      (run : (queueDestroy d).run r.context = .ok () c') : Step r ⟨c', r.held, r.accepted⟩
  | endFrame {r : LifeRun} {f : Frame} (w : Option Waiter) (ds : List Destroyer) {c₁ c' : Context}
      (recording : r.context.ring.recording = some f) (kept : ∀ d ∈ ds, ∀ x, d ≠ .destroy x)
      (clone : r.HoldsClone w c₁) (settled : Settled (endFrame f w ds) c₁ c') :
      Step r ⟨c', r.held, r.accepted ++ if submitAccepted c₁ f w then f.tickets else []⟩
  | cancel {r : LifeRun} {f : Frame} {c' : Context} (recording : r.context.ring.recording = some f)
      (settled : Settled (cancel f) r.context c') : Step r ⟨c', r.held, r.accepted⟩
  | dropFrame {r : LifeRun} {f : Frame} {c' : Context} (recording : r.context.ring.recording = some f)
      (settled : Settled (dropFrame f) r.context c') : Step r ⟨c', r.held, r.accepted⟩
  | waitAll {r : LifeRun} {res : Except Error Nat} {c' : Context} (run : waitAll.run r.context = .ok res c') :
      Step r ⟨c', r.held, r.accepted⟩
  | resize {r : LifeRun} (width height : UInt32) {c' : Context} (run : (resize width height).run r.context = .ok () c') :
      Step r ⟨c', r.held, r.accepted⟩
  | setFramesInFlight {r : LifeRun} (n : UInt32) {res : Except Error Unit} {c' : Context}
      (run : (setFramesInFlight n).run r.context = .ok res c') : Step r ⟨c', r.held, r.accepted⟩

structure Sound (r : LifeRun) : Prop where
  alive : r.context.Alive
  ring : r.context.RingHolds
  held : ∀ x ∈ r.held, x.timeline < r.context.timelines.size
  accepted : ∀ t ∈ r.accepted, t.timeline < r.context.timelines.size
  holders : ∀ j < r.context.timelines.size, (r.context.timeline j).holders = r.holders j
  gpuPending : ∀ j < r.context.timelines.size, (r.context.timeline j).gpuPending = r.lastAccepted j
  destroyed : ∀ j < r.context.timelines.size,
    r.context.device.log.toList.count (.destroy (r.context.timeline j).handle) = if 0 < r.holders j then 0 else 1
  last : ∀ j < r.context.timelines.size, r.holders j = 0 → ∃ a b o, r.context.device.log.toList =
    a ++ lastWait (r.context.timeline j).handle o (r.lastAccepted j) ++ .destroy (r.context.timeline j).handle :: b

theorem valuesOn_append (j : Nat) (ts ts' : List Ticket) :
    Ticket.valuesOn j (ts ++ ts') = Ticket.valuesOn j ts ++ Ticket.valuesOn j ts' := by
  simp [Ticket.valuesOn]

theorem countP_split {a b : List Holder} {x : Holder} (j : Nat) :
    (a ++ x :: b).countP (·.timeline == j) = (a ++ b).countP (·.timeline == j) + if x.timeline = j then 1 else 0 := by
  by_cases mine : x.timeline = j
  · simp [List.countP_append, mine]
    omega
  · simp [List.countP_append, mine]

theorem Sound.moves {r r' : LifeRun} (sound : Sound r) (new : List Ticket) (accepted : r'.accepted = r.accepted ++ new)
    (size : r'.context.timelines.size = r.context.timelines.size) (ring : r'.context.RingHolds)
    (held : ∀ x ∈ r'.held, x.timeline < r.context.timelines.size) (fresh : ∀ t ∈ new, t.timeline < r.context.timelines.size)
    (moves : ∀ j < r.context.timelines.size, ∃ k, r'.holders j + k = r.holders j ∧
      Moves j (r.context.timeline j).handle k (Ticket.valuesOn j new) r.context r'.context) : Sound r' := by
  refine ⟨sound.alive.moves (fun j inside => ?_) size, ring, fun x member => size ▸ held x member,
    fun t member => ?_, fun j inside => ?_, fun j inside => ?_, fun j inside => ?_, fun j inside => ?_⟩
  · obtain ⟨k, -, moved⟩ := moves j inside
    exact ⟨k, _, moved⟩
  · rw [accepted] at member
    rcases List.mem_append.mp member with old | joined
    · exact size ▸ sound.accepted t old
    · exact size ▸ fresh t joined
  all_goals
    rw [size] at inside
    obtain ⟨k, count, moved⟩ := moves j inside
  · have counted := moved.holders
    have before := sound.holders j inside
    omega
  · rw [moved.gpuPending, sound.gpuPending j inside, lastAccepted, lastAccepted, accepted, valuesOn_append,
      List.foldl_append]
  · obtain ⟨extra, log, destroyed, -⟩ := moved.log
    have before := sound.destroyed j inside
    have counted := moved.holders
    have now := sound.holders j inside
    rw [moved.handles, log, List.count_append, before, destroyed]
    split <;> split <;> split <;> omega
  · intro gone
    obtain ⟨extra, log, -, last⟩ := moved.log
    have counted := moved.holders
    have now := sound.holders j inside
    rw [moved.handles, log]
    by_cases held : r.holders j = 0
    · -- the last holder had gone already: nothing was let go or accepted since
      have none : k = 0 := by omega
      subst none
      have raised : Ticket.valuesOn j new = [] := List.eq_nil_of_length_eq_zero (by have := moved.raised; omega)
      obtain ⟨a, b, o, split⟩ := sound.last j inside held
      have same : r'.lastAccepted j = r.lastAccepted j := by
        rw [lastAccepted, lastAccepted, accepted, valuesOn_append, raised, List.append_nil]
      exact ⟨a, b ++ extra, o, by rw [split, same]; simp⟩
    · obtain ⟨a, b, o, split⟩ := last (by omega) (by omega)
      have same : (r'.context.timeline j).gpuPending = r'.lastAccepted j := by
        rw [moved.gpuPending, sound.gpuPending j inside, lastAccepted, lastAccepted, accepted, valuesOn_append,
          List.foldl_append]
      exact ⟨r.context.device.log.toList ++ a, b, o, by rw [split, ← same]; simp⟩

theorem holders_snoc {r : LifeRun} {x : Holder} {c' : Context} (ring : c'.ring = r.context.ring) (j : Nat) :
    (⟨c', r.held ++ [x], r.accepted⟩ : LifeRun).holders j = r.holders j + if j = x.timeline then 1 else 0 := by
  have view : holdView c'.ring = holdView r.context.ring := by rw [ring]
  unfold LifeRun.holders
  rw [parked_of_view view, framed_of_view view, List.countP_append]
  by_cases mine : j = x.timeline
  · simp [mine]
    omega
  · simp [mine, Ne.symm mine]

section Beyond

variable {r : LifeRun} {j : Nat}

theorem Sound.holders_beyond (sound : Sound r) (beyond : r.context.timelines.size ≤ j) : r.holders j = 0 := by
  have outside : r.held.countP (·.timeline == j) = 0 :=
    List.countP_eq_zero.mpr fun x member mine => by
      have inside := sound.held x member
      simp only [beq_iff_eq] at mine
      omega
  rw [LifeRun.holders, outside, sound.ring.parked_beyond beyond, sound.ring.framed_beyond beyond]

theorem Sound.lastAccepted_beyond (sound : Sound r) (beyond : r.context.timelines.size ≤ j) :
    r.lastAccepted j = 0 := by
  have none : Ticket.valuesOn j r.accepted = [] := by
    simp only [Ticket.valuesOn, List.map_eq_nil_iff, List.filter_eq_nil_iff, beq_iff_eq]
    intro t member mine
    have inside := sound.accepted t member
    omega
  rw [LifeRun.lastAccepted, none]
  rfl

end Beyond

theorem Sound.gains {r : LifeRun} {x : Holder} {c' : Context} (sound : Sound r)
    (present : x.timeline < r.context.timelines.size) (owned : 0 < r.holders x.timeline)
    (gains : Gains x.timeline 1 r.context c') : Sound ⟨c', r.held ++ [x], r.accepted⟩ := by
  have view : holdView c'.ring = holdView r.context.ring := by rw [gains.ring]
  have more := holders_snoc (x := x) (r := r) gains.ring
  have counted : ∀ j < r.context.timelines.size, (c'.timeline j).holders =
      (⟨c', r.held ++ [x], r.accepted⟩ : LifeRun).holders j := fun j inside => by
    rw [gains.holders, more, sound.holders j inside]
  have device := gains.device
  have size := gains.size
  refine ⟨⟨fun j inside => (sound.alive.tracked j (size ▸ inside)).of_handles size gains.handles |> (gains.handles j ▸ ·),
    fun j inside held => ?_, fun j inside => ?_⟩, sound.ring.of_view view size.ge, fun y member => ?_,
    fun t member => size ▸ sound.accepted t member, fun j inside => counted j (size ▸ inside),
    fun j inside => ?_, fun j inside => ?_, fun j inside gone => ?_⟩
  · -- the semaphore of a timeline held after the step was held before it
    rw [gains.handles, device]
    rw [size] at inside
    refine sound.alive.live j inside ?_
    rw [counted j inside, more] at held
    rw [sound.holders j inside]
    by_cases mine : j = x.timeline
    · exact mine ▸ owned
    · simpa [mine] using held
  · rw [gains.handles, device]
    exact sound.alive.filed j (size ▸ inside)
  · rcases List.mem_append.mp member with old | new
    · exact size ▸ sound.held y old
    · rw [List.mem_singleton.mp new]
      exact size ▸ present
  · rw [gains.gpuPending, sound.gpuPending j (size ▸ inside)]
    rfl
  · rw [gains.handles, device, sound.destroyed j (size ▸ inside), more]
    by_cases mine : j = x.timeline
    · subst mine
      simp [owned]
    · simp [mine]
  · have mine : j ≠ x.timeline := fun same => by rw [more, same] at gone; simp at gone
    rw [more, if_neg mine, Nat.add_zero] at gone
    rw [gains.handles, device]
    exact sound.last j (size ▸ inside) gone

theorem Sound.newTimeline {r : LifeRun} {name : String} {j : Nat} {c' : Context} (sound : Sound r)
    (unused : Unused r.context) (run : (newTimeline name).run r.context = .ok (.ok j) c') :
    Sound ⟨c', r.held ++ [.semaphore j], r.accepted⟩ := by
  obtain ⟨rfl, made⟩ := run_newTimeline_made run
  have timelines : c'.timelines = r.context.timelines.push { handle := ⟨.semaphore, r.context.device.next⟩, name } := by
    rw [made]
  have log : c'.device.log = r.context.device.log.push (.create ⟨.semaphore, r.context.device.next⟩) := by rw [made]
  have ring : c'.ring = r.context.ring := by rw [made]
  have size : c'.timelines.size = r.context.timelines.size + 1 := by rw [timelines, Array.size_push]
  have grown : r.context.timelines.size ≤ c'.timelines.size := by omega
  have more := holders_snoc (x := .semaphore r.context.timelines.size) (r := r) ring
  have none := sound.holders_beyond (Nat.le_refl _)
  refine ⟨sound.alive.push unused timelines (by rw [made]) (by rw [made]), sound.ring.of_view (by rw [ring]) grown,
    fun x member => ?_, fun t member => Nat.lt_of_lt_of_le (sound.accepted t member) grown,
    fun m inside => ?_, fun m inside => ?_, fun m inside => ?_, fun m inside gone => ?_⟩
  · rcases List.mem_append.mp member with old | new
    · exact Nat.lt_of_lt_of_le (sound.held x old) grown
    · rw [List.mem_singleton.mp new, size]
      exact Nat.lt_succ_self _
  -- the new timeline is the last one; the others are as they were
  all_goals
    rw [timeline_push timelines m]
    replace inside : m < r.context.timelines.size + 1 := by rw [← size]; exact inside
  · rw [more]
    by_cases mine : m = r.context.timelines.size
    · simp [mine, Holder.timeline, none]
    · simp [mine, Holder.timeline, sound.holders m (by omega)]
  · by_cases mine : m = r.context.timelines.size
    · simp only [mine, ↓reduceIte]
      exact (sound.lastAccepted_beyond (Nat.le_refl _)).symm
    · simp only [mine, ↓reduceIte]
      exact sound.gpuPending m (by omega)
  · rw [log, Array.toList_push, List.count_append, more]
    by_cases mine : m = r.context.timelines.size
    · simp [mine, Holder.timeline, none, unused.destroyed]
    · simp [mine, Holder.timeline, sound.destroyed m (by omega)]
  · by_cases mine : m = r.context.timelines.size
    · simp [more, mine, Holder.timeline] at gone
    · simp only [more, mine, Holder.timeline, ↓reduceIte, Nat.add_zero] at gone
      obtain ⟨a, b, o, split⟩ := sound.last m (by omega) gone
      simp only [mine, ↓reduceIte]
      exact ⟨a, b ++ [.create ⟨.semaphore, r.context.device.next⟩], o, by rw [log, Array.toList_push, split]; simp [LifeRun.lastAccepted]⟩

structure Start (c : Context) : Prop where
  empty : c.timelines.size = 0
  ring : c.RingHolds

theorem Sound.start {c : Context} (start : Start c) : Sound ⟨c, [], []⟩ := by
  have none : ∀ j, ¬j < c.timelines.size := fun j => by rw [start.empty]; omega
  refine ⟨⟨?_, ?_, ?_⟩, start.ring, (fun _ member => absurd member List.not_mem_nil), (fun _ member => absurd member List.not_mem_nil), ?_, ?_, ?_, ?_⟩ <;>
    intro j inside <;> exact absurd inside (none j)

theorem holders_pos {r : LifeRun} {x : Holder} (member : x ∈ r.held) : 0 < r.holders x.timeline := by
  have counted : 0 < r.held.countP (·.timeline == x.timeline) := List.countP_pos_iff.mpr ⟨x, member, by simp⟩
  unfold LifeRun.holders
  omega

theorem holders_split {r : LifeRun} {a b : List Holder} {x : Holder} {c' : Context} (accepted : List Ticket)
    (split : r.held = a ++ x :: b) (view : holdView c'.ring = holdView r.context.ring) (j : Nat) :
    (⟨c', a ++ b, accepted⟩ : LifeRun).holders j + (if j = x.timeline then 1 else 0) = r.holders j := by
  unfold LifeRun.holders
  rw [split, countP_split, parked_of_view view, framed_of_view view]
  by_cases mine : j = x.timeline
  · simp [mine]
    omega
  · simp [mine, Ne.symm mine]

section Steps

variable {r : LifeRun} {c' : Context}

theorem Sound.split_holds {a b : List Holder} {x : Holder} (sound : Sound r) (split : r.held = a ++ x :: b) :
    x.timeline < r.context.timelines.size ∧ 0 < (r.context.timeline x.timeline).holders := by
  have member : x ∈ r.held := by rw [split]; simp
  have present := sound.held x member
  exact ⟨present, by rw [sound.holders _ present]; exact holders_pos member⟩

theorem Sound.still (sound : Sound r) (size : c'.timelines.size = r.context.timelines.size)
    (view : holdView c'.ring = holdView r.context.ring)
    (moves : ∀ j < r.context.timelines.size, Moves j (r.context.timeline j).handle 0 [] r.context c') :
    Sound ⟨c', r.held, r.accepted⟩ :=
  sound.moves [] (List.append_nil _).symm size (sound.ring.of_view view size.ge) sound.held (fun _ none => absurd none List.not_mem_nil)
    fun j inside => ⟨0, by simp [LifeRun.holders, parked_of_view view, framed_of_view view], moves j inside⟩

theorem Sound.reframes {accepted : List Ticket} (sound : Sound r) (new : List Ticket)
    (same : accepted = r.accepted ++ new) (fresh : ∀ t ∈ new, t.timeline < r.context.timelines.size)
    (size : c'.timelines.size = r.context.timelines.size) (holds : RingHolds c')
    (moves : ∀ j < r.context.timelines.size, ∃ k, c'.parked j + c'.framed j + k = r.context.parked j + r.context.framed j ∧
      Moves j (r.context.timeline j).handle k (Ticket.valuesOn j new) r.context c') :
    Sound ⟨c', r.held, accepted⟩ :=
  sound.moves new same size holds sound.held fresh fun j inside =>
    let ⟨k, count, moved⟩ := moves j inside
    ⟨k, by simp only [LifeRun.holders]; omega, moved⟩

theorem Sound.drops {a b : List Holder} {x : Holder} {accepted : List Ticket} (sound : Sound r) (new : List Ticket)
    (same : accepted = r.accepted ++ new) (split : r.held = a ++ x :: b)
    (fresh : ∀ t ∈ new, t.timeline < r.context.timelines.size)
    (size : c'.timelines.size = r.context.timelines.size) (ring : c'.ring = r.context.ring)
    (moves : ∀ j < r.context.timelines.size,
      Moves j (r.context.timeline j).handle (if j = x.timeline then 1 else 0) (Ticket.valuesOn j new) r.context c') :
    Sound ⟨c', a ++ b, accepted⟩ := by
  have view : holdView c'.ring = holdView r.context.ring := by rw [ring]
  refine sound.moves new same size (sound.ring.of_view view size.ge) (fun y member => ?_) fresh
    fun j inside => ⟨_, holders_split _ split view j, moves j inside⟩
  apply sound.held
  rw [split]
  rcases List.mem_append.mp member with left | right
  · exact List.mem_append_left _ left
  · exact List.mem_append_right _ (List.mem_cons_of_mem _ right)

theorem Sound.dropsAfter {a b : List Holder} {x : Holder} {c₁ : Context} (sound : Sound r)
    (split : r.held = a ++ x :: b)
    (still : ∀ j < r.context.timelines.size, Moves j (r.context.timeline j).handle 0 [] r.context c₁)
    (size : c₁.timelines.size = r.context.timelines.size) (ring : c₁.ring = r.context.ring)
    (run : (letGo x.timeline).run c₁ = .ok () c') : Sound ⟨c', a ++ b, r.accepted⟩ := by
  obtain ⟨present, held⟩ := sound.split_holds split
  have held₁ : 0 < (c₁.timeline x.timeline).holders := by
    have moved := (still _ present).holders
    omega
  have moved := moves_letGo (sound.alive.moves (fun j inside => ⟨0, [], still j inside⟩) size) (size ▸ present)
    held₁ run
  refine sound.drops [] (List.append_nil _).symm split (fun _ none => absurd none List.not_mem_nil)
    ((countKept_blind.respects_letGo _ _ _ _ run).trans size) (((keepsRing_letGo _).ring run).trans ring) fun j inside => ?_
  have first := still j inside
  exact first.still_trans (first.handles j ▸ moved j (size ▸ inside))

theorem Sound.hands {x : Holder} {j : Nat} (sound : Sound r) (owner : .semaphore j ∈ r.held) (mine : x.timeline = j)
    (gains : Gains j 1 r.context c') : Sound ⟨c', r.held ++ [x], r.accepted⟩ :=
  sound.gains (mine ▸ sound.held _ owner) (mine ▸ holders_pos owner) (mine ▸ gains)

theorem Sound.letGo {a b : List Holder} {x : Holder} (sound : Sound r) (split : r.held = a ++ x :: b)
    (run : (letGo x.timeline).run r.context = .ok () c') : Sound ⟨c', a ++ b, r.accepted⟩ :=
  sound.dropsAfter split (fun _ _ => Moves.refl _) rfl rfl run

theorem Sound.signal {a b : List Holder} {p : Promise} (sound : Sound r) (split : r.held = a ++ .promise p :: b)
    (settled : Settled (Context.signal p) r.context c') : Sound ⟨c', a ++ b, r.accepted⟩ := by
  have present : p.timeline < r.context.timelines.size := (sound.split_holds split).1
  have held : 0 < (r.context.timeline p.timeline).holders := (sound.split_holds split).2
  rcases settled with ⟨u, run⟩ | ⟨err, run, unblocked⟩
  · have moved := moves_signal sound.alive present held run
    exact sound.drops [] (List.append_nil _).symm split (fun _ none => absurd none List.not_mem_nil) (moved _ present).size
      ((keepsRing_signal p).ring run) moved
  · obtain ⟨c₁, waited, ran⟩ := run_signal_fatal run
    have still : ∀ j < r.context.timelines.size, Moves j (r.context.timeline j).handle 0 [] r.context c₁ :=
      fun _ _ => movesBy_waitFor _ _ () c₁ waited
    have size : c₁.timelines.size = r.context.timelines.size := countKept_blind.respects_waitFor _ _ _ _ _ waited
    have live : (c₁.timeline p.timeline).handle ∈ c₁.device.live := by
      have moved := still _ present
      refine (sound.alive.moves (fun j inside => ⟨0, [], still j inside⟩) size).live _ (size ▸ present) ?_
      have counted := moved.holders
      omega
    exact sound.dropsAfter split still size ((keepsRing_waitFor _ _).ring waited)
      (unblocked.settles ⟨_, log_waitFor waited⟩ (fun _ faulted => letGo_blocked live faulted) ran)

theorem Sound.submitted {a b : List Holder} {t : Ticket} (sound : Sound r) (split : r.held = a ++ .ticket t :: b)
    (run : (submitted t).run r.context = .ok () c') : Sound ⟨c', a ++ b, r.accepted ++ [t]⟩ := by
  have present : t.timeline < r.context.timelines.size := (sound.split_holds split).1
  have held : 0 < (r.context.timeline t.timeline).holders := (sound.split_holds split).2
  exact sound.drops [t] rfl split (fun _ joined => by rw [List.mem_singleton.mp joined]; exact present)
    (countKept_blind.respects_submitted _ _ _ _ run) ((keepsRing_submitted t).ring run) (moves_submitted sound.alive present held run)

theorem held_of_split {a b : List Holder} {x y : Holder} {held : List Holder} (split : held = a ++ x :: b)
    (member : y ∈ a ++ b) : y ∈ held := by
  rw [split]
  rcases List.mem_append.mp member with left | right
  · exact List.mem_append_left _ left
  · exact List.mem_append_right _ (List.mem_cons_of_mem _ right)

theorem Sound.spared {d' : Device} (sound : Sound r) (spared : ∀ h, Device.Spared h r.context.device d') :
    Sound ⟨{ r.context with device := d' }, r.held, r.accepted⟩ :=
  sound.still rfl rfl fun _ _ => Moves.of_device (spared _)

section Quiet

variable {α : Type} {x : Act Context α} {a : α}

theorem Sound.quiet (sound : Sound r) (still : ∀ i h, MovesBy i h 0 [] x r.context)
    (view : Keeps (fun c => holdView c.ring) x) (run : x.run r.context = .ok a c') : Sound ⟨c', r.held, r.accepted⟩ :=
  sound.still (size_of_still still run) (view _ _ _ run) fun _ _ => still _ _ _ _ run

theorem Sound.rehold (sound : Sound r) (still : ∀ i h, MovesBy i h 0 [] x r.context) (run : x.run r.context = .ok a c')
    (holds : RingHolds c') (counts : ∀ j, c'.parked j = r.context.parked j ∧ c'.framed j = r.context.framed j) :
    Sound ⟨c', r.held, r.accepted⟩ :=
  sound.reframes [] (List.append_nil _).symm (fun _ none => absurd none List.not_mem_nil) (size_of_still still run)
    holds fun j _ => ⟨0, by obtain ⟨parked, framed⟩ := counts j; omega, still _ _ _ _ run⟩

end Quiet

theorem Sound.waitFor {j : Nat} {v : UInt64} (sound : Sound r) (run : (waitFor j v).run r.context = .ok () c') :
    Sound ⟨c', r.held, r.accepted⟩ :=
  sound.quiet (fun _ _ => movesBy_waitFor j v) ((keepsRing_waitFor j v).map holdView) run

theorem Sound.query {j : Nat} {v : UInt64} (sound : Sound r) (run : (query j).run r.context = .ok v c') :
    Sound ⟨c', r.held, r.accepted⟩ :=
  sound.quiet (fun _ _ => movesBy_query j) ((keepsRing_query j).map holdView) run

theorem Sound.poll {w : Waiter} {b : Bool} (sound : Sound r) (run : (poll w).run r.context = .ok b c') :
    Sound ⟨c', r.held, r.accepted⟩ :=
  sound.quiet (fun _ _ => movesBy_poll w) ((keepsRing_poll w).map holdView) run

theorem Sound.beginFrame {f : Frame} (sound : Sound r) (run : beginFrame.run r.context = .ok f c') :
    Sound ⟨c', r.held, r.accepted⟩ := by
  have size : c'.timelines.size = r.context.timelines.size := countKept_blind.respects_beginFrame _ _ _ run
  obtain ⟨holds, counts⟩ := holds_beginFrame sound.ring size run
  refine sound.reframes [] (List.append_nil _).symm (fun _ none => absurd none List.not_mem_nil) size holds fun j inside =>
    ⟨_, ?_, movesBy_beginFrame (sound.alive.tracked j inside) (sound.ring.slot _) (fun parks => ?_) f c' run⟩
  · obtain ⟨parked, framed⟩ := counts j
    omega
  · -- the slot's waiter is one of the holders
    have ring := parks_le_parked parks
    rw [sound.holders j inside]
    simp only [LifeRun.holders]
    omega

theorem Sound.surface {f : Frame} {o : Option Handle} (sound : Sound r) (run : (surface f).run r.context = .ok o c') :
    Sound ⟨c', r.held, r.accepted⟩ :=
  sound.quiet (fun _ _ => movesBy_surface f) (keepsView_surface f) run

theorem Sound.scratch {f : Frame} {name : String} {size : UInt64} {usage : BufferUsage} {b : Scratch} (sound : Sound r)
    (recording : r.context.ring.recording = some f) (run : (scratch f name size usage).run r.context = .ok b c') :
    Sound ⟨c', r.held, r.accepted⟩ := by
  have still : ∀ i h, MovesBy i h 0 [] (Context.scratch f name size usage) r.context :=
    fun _ _ => movesBy_scratch name size usage
  obtain ⟨holds, counts⟩ := holds_scratch sound.ring recording (size_of_still still run) run
  exact sound.rehold still run holds counts

theorem Sound.writeScratch {b : Scratch} {offset : UInt64} {len : Nat} {res : Except Error Unit} (sound : Sound r)
    (run : (writeScratch b offset len).run r.context = .ok res c') : Sound ⟨c', r.held, r.accepted⟩ :=
  sound.quiet (fun _ _ => movesBy_writeScratch b offset len) (keepsView_writeScratch b offset len) run

theorem Sound.commandBuffer {f : Frame} {name : String} {h : Handle} (sound : Sound r)
    (recording : r.context.ring.recording = some f) (run : (commandBuffer f name).run r.context = .ok h c') :
    Sound ⟨c', r.held, r.accepted⟩ := by
  have still : ∀ i h, MovesBy i h 0 [] (Context.commandBuffer f name) r.context := fun _ _ => movesBy_commandBuffer name
  obtain ⟨holds, counts⟩ := holds_commandBuffer sound.ring recording (size_of_still still run) run
  exact sound.rehold still run holds counts

theorem Sound.waitPoint {p : SyncPoint} (sound : Sound r) (run : (waitPoint p).run r.context = .ok () c') :
    Sound ⟨c', r.held, r.accepted⟩ :=
  sound.quiet (fun _ _ => movesBy_waitPoint p) (keepsView_waitPoint p) run

theorem Sound.deferDestroy {f : Frame} {d : Destroyer} (sound : Sound r) (recording : r.context.ring.recording = some f)
    (kept : ∀ x, d ≠ .destroy x) (run : (deferDestroy f d).run r.context = .ok () c') :
    Sound ⟨c', r.held, r.accepted⟩ := by
  obtain ⟨holds, counts⟩ := holds_deferDestroy sound.ring recording kept run
  exact sound.rehold (fun _ _ => movesBy_deferDestroy d) run holds counts

theorem Sound.queueDestroy {d : Destroyer} (sound : Sound r) (kept : ∀ x, d ≠ .destroy x)
    (run : (queueDestroy d).run r.context = .ok () c') : Sound ⟨c', r.held, r.accepted⟩ := by
  obtain ⟨holds, counts⟩ := holds_queueDestroy sound.ring kept run
  exact sound.rehold (fun _ _ => movesBy_queueDestroy d) run holds counts

theorem Sound.signalTicket {f : Frame} {a b : List Holder} {t : Ticket} (sound : Sound r)
    (recording : r.context.ring.recording = some f) (split : r.held = a ++ .ticket t :: b)
    (run : (signalTicket t).run r.context = .ok () c') : Sound ⟨c', a ++ b, r.accepted⟩ := by
  have present : t.timeline < r.context.timelines.size := (sound.split_holds split).1
  have still : ∀ i h, MovesBy i h 0 [] (Context.signalTicket t) r.context := fun _ _ => movesBy_signalTicket t
  obtain ⟨holds, counts⟩ := holds_signalTicket sound.ring recording present run
  refine sound.moves [] (List.append_nil _).symm (size_of_still still run) holds
    (fun y member => sound.held y (held_of_split split member)) (fun _ none => absurd none List.not_mem_nil)
    fun j _ => ⟨0, ?_, still _ _ _ _ run⟩
  have counted : (a ++ .ticket t :: b).countP (·.timeline == j) =
      (a ++ b).countP (·.timeline == j) + if t.timeline = j then 1 else 0 := countP_split j
  obtain ⟨parked, framed⟩ := counts j
  simp only [LifeRun.holders, split, parked, framed, counted]
  omega

section Release

variable {f : Frame}

theorem Sound.droppable (sound : Sound r) (recording : r.context.ring.recording = some f) {j : Nat}
    (inside : j < r.context.timelines.size) : Droppable j (r.context.timeline j).handle f r.context := by
  obtain ⟨-, unparked, inRange, -⟩ := sound.ring.recording f recording
  refine ⟨sound.alive.tracked j inside, unparked, inRange, ?_⟩
  rw [← framed_of_recording recording, sound.holders j inside]
  simp only [LifeRun.holders]
  omega

theorem Sound.releasable (sound : Sound r) (recording : r.context.ring.recording = some f) : Releasable f r.context :=
  sound.ring.releasable recording fun j inside => by
    rw [framed_of_recording recording]
    exact (sound.droppable recording inside).held

theorem Sound.releases (sound : Sound r) (recording : r.context.ring.recording = some f)
    (size : c'.timelines.size = r.context.timelines.size) (ring : c'.ring = { r.context.ring with recording := none })
    (moves : ∀ j < r.context.timelines.size, Droppable j (r.context.timeline j).handle f r.context →
      Moves j (r.context.timeline j).handle (f.tickets.countP (·.timeline == j)) [] r.context c') :
    Sound ⟨c', r.held, r.accepted⟩ := by
  obtain ⟨holds, counts⟩ := holds_stopped sound.ring size ring
  refine sound.reframes [] (List.append_nil _).symm (fun _ none => absurd none List.not_mem_nil) size holds fun j inside =>
    ⟨_, ?_, moves j inside (sound.droppable recording inside)⟩
  rw [(counts j).1, (counts j).2, framed_of_recording recording]
  omega

theorem Sound.cancel (sound : Sound r) (recording : r.context.ring.recording = some f)
    (settled : Settled (cancel f) r.context c') : Sound ⟨c', r.held, r.accepted⟩ := by
  have unparked := (sound.ring.recording f recording).2.1
  rcases settled with ⟨u, run⟩ | ⟨err, run, unblocked⟩
  · have ring : c'.ring = { r.context.ring with recording := none } := by
      rw [(ring_cancel run).2, modify_unparked unparked]
    exact sound.releases recording (countKept_blind.respects_cancel f _ _ _ run) ring fun _ _ ready => movesBy_cancel ready _ _ run
  · obtain ⟨-, abandoned⟩ := cancel_fatal sound.alive (sound.releasable recording) unblocked run
    exact sound.releases recording (countKept_blind.respects_abandon f _ _ _ abandoned) (ring_abandon unparked abandoned)
      fun _ _ ready => movesBy_abandon ready _ _ abandoned

theorem Sound.dropFrame (sound : Sound r) (recording : r.context.ring.recording = some f)
    (settled : Settled (dropFrame f) r.context c') : Sound ⟨c', r.held, r.accepted⟩ := by
  have unparked := (sound.ring.recording f recording).2.1
  rcases settled with ⟨u, run⟩ | ⟨err, run, unblocked⟩
  · exact sound.releases recording (countKept_blind.respects_dropFrame f _ _ _ run) (ring_dropFrame unparked run)
      fun _ _ ready => movesBy_dropFrame ready _ _ run
  · obtain ⟨-, dropped⟩ := dropFrame_fatal sound.alive (sound.releasable recording) unblocked run
    exact sound.releases recording (countKept_blind.respects_dropTickets f _ _ _ dropped) (ring_dropTickets dropped)
      fun _ _ ready => movesBy_dropTickets ready.tracked ready.inRange ready.held _ _ dropped

end Release

section Unparking

variable {res : Except Error Unit}

theorem Sound.unparks (sound : Sound r) (idle : r.context.ring.recording = none)
    (size : c'.timelines.size = r.context.timelines.size) (holds : RingHolds c')
    (counts : ∀ j, c'.parked j = 0 ∧ c'.framed j = 0)
    (moves : ∀ j < r.context.timelines.size, r.context.parked j ≤ (r.context.timeline j).holders →
      Moves j (r.context.timeline j).handle (r.context.parked j) [] r.context c') :
    Sound ⟨c', r.held, r.accepted⟩ := by
  refine sound.reframes [] (List.append_nil _).symm (fun _ none => absurd none List.not_mem_nil) size holds
    fun j inside => ⟨r.context.parked j, ?_, moves j inside ?_⟩
  · rw [(counts j).1, (counts j).2, framed_of_idle idle]
    omega
  · -- the parked waiters are among the holders
    rw [sound.holders j inside]
    simp only [LifeRun.holders]
    omega

theorem Sound.waitAll {res : Except Error Nat} (sound : Sound r) (run : waitAll.run r.context = .ok res c') :
    Sound ⟨c', r.held, r.accepted⟩ := by
  cases idle : r.context.ring.recording with
  | some f =>
    simp only [Context.waitAll, EStateM.run_bind, EStateM.run_get, idle, Option.isSome_some, if_true,
      EStateM.run_pure, EStateM.Result.ok.injEq] at run
    obtain ⟨-, rfl⟩ := run
    exact sound.still rfl rfl fun _ _ => Moves.refl _
  | none =>
    obtain ⟨holds, counts⟩ := holds_waitAll sound.ring idle (ring_waitAll idle run)
    exact sound.unparks idle (countKept_blind.respects_waitAll _ _ _ run) holds counts fun j inside held =>
      movesBy_waitAll (sound.alive.tracked j inside) idle sound.ring.slots sound.ring.mailbox held _ _ run

theorem Sound.resizeRing {n : Nat} (sound : Sound r) (run : (resizeRing n).run r.context = .ok res c') :
    Sound ⟨c', r.held, r.accepted⟩ := by
  by_cases grows : 0 < n
  · cases idle : r.context.ring.recording with
    | some f =>
      simp only [Context.resizeRing, Nat.pos_iff_ne_zero.mp grows, if_false, EStateM.run_bind, EStateM.run_get, idle,
        Option.isSome_some, if_true, EStateM.run_pure, EStateM.Result.ok.injEq] at run
      obtain ⟨-, rfl⟩ := run
      exact sound.still rfl rfl fun _ _ => Moves.refl _
    | none =>
      obtain ⟨holds, counts⟩ := holds_resizeRing sound.ring grows idle run
      exact sound.unparks idle (countKept_blind.respects_resizeRing n _ _ _ run) holds counts fun j inside held =>
        movesBy_resizeRing grows (sound.alive.tracked j inside) idle sound.ring.slots held _ _ run
  · obtain rfl : n = 0 := by omega
    simp only [Context.resizeRing, if_true, EStateM.run_pure, EStateM.Result.ok.injEq] at run
    obtain ⟨-, rfl⟩ := run
    exact sound.still rfl rfl fun _ _ => Moves.refl _

theorem Sound.resize {width height : UInt32} (sound : Sound r) (run : (resize width height).run r.context = .ok () c') :
    Sound ⟨c', r.held, r.accepted⟩ := by
  obtain ⟨_, c₁, extent, run⟩ := Act.run_bind_ok run
  rw [EStateM.run_modify, EStateM.Result.ok.injEq] at extent
  obtain ⟨-, rfl⟩ := extent
  have sized : Sound ⟨{ r.context with extent := (width, height) }, r.held, r.accepted⟩ :=
    sound.still rfl rfl fun _ _ => Moves.of_same rfl rfl
  split at run
  · rw [modifyRing, EStateM.run_modify, EStateM.Result.ok.injEq] at run
    obtain ⟨-, rfl⟩ := run
    exact sized.still rfl rfl fun _ _ => Moves.of_ring _
  · obtain ⟨res, c₂, waited, run⟩ := Act.run_bind_ok run
    obtain ⟨_, c₃, checked, woken⟩ := Act.run_bind_ok run
    -- a refused wait fails the resize; a finished one is where the ring wakes
    obtain rfl : c₃ = c₂ := by
      cases res with
      | error e => simp [Act.orFail] at checked
      | ok m =>
        simp only [Act.orFail, Act.run_discard, EStateM.run_pure, EStateM.Result.ok.injEq] at checked
        exact checked.2.symm
    rw [modifyRing, EStateM.run_modify, EStateM.Result.ok.injEq] at woken
    obtain ⟨-, rfl⟩ := woken
    exact (sized.waitAll waited).still rfl rfl fun _ _ => Moves.of_ring _

end Unparking

theorem countP_waiter (w : Option Waiter) (j : Nat) :
    (w.map Holder.waiter).toList.countP (·.timeline == j) = if w.any (·.timeline == j) then 1 else 0 := by
  cases w <;> simp [Holder.timeline]

theorem Sound.endFrame {c₁ : Context} {held : List Holder} {accepted : List Ticket} {f : Frame}
    {w : Option Waiter} {ds : List Destroyer} (sound : Sound ⟨c₁, held ++ (w.map Holder.waiter).toList, accepted⟩)
    (recording : c₁.ring.recording = some f) (kept : ∀ d ∈ ds, ∀ x, d ≠ .destroy x)
    (settled : Settled (endFrame f w ds) c₁ c') :
    Sound ⟨c', held, accepted ++ if submitAccepted c₁ f w then f.tickets else []⟩ := by
  obtain ⟨-, -, inRange, signalled⟩ := sound.ring.recording f recording
  have waiting : ∀ x ∈ w, x.timeline < c₁.timelines.size := fun x member =>
    sound.held (.waiter x) (List.mem_append_right _ (by simp [Option.mem_def.mp member]))
  have outside : ∀ x ∈ held, x.timeline < c₁.timelines.size := fun x member =>
    sound.held x (List.mem_append_left _ member)
  have fresh : ∀ t ∈ (if submitAccepted c₁ f w then f.tickets else []), t.timeline < c₁.timelines.size := by
    intro t member
    split at member
    · exact inRange t member
    · cases member
  -- what holds timeline `j` at the end, and what held it before: the waiter moved into the ring
  have before : ∀ j, LifeRun.holders ⟨c₁, held ++ (w.map Holder.waiter).toList, accepted⟩ j =
      held.countP (·.timeline == j) + (if w.any (·.timeline == j) then 1 else 0) + c₁.parked j +
        f.tickets.countP (·.timeline == j) := fun j => by
    simp only [LifeRun.holders, List.countP_append, countP_waiter, framed_of_recording recording]
  rcases settled with ⟨u, run⟩ | ⟨err, run, unblocked⟩
  · have size : c'.timelines.size = c₁.timelines.size := countKept_blind.respects_endFrame f w ds _ _ _ run
    obtain ⟨holds, counts⟩ := holds_endFrame sound.ring recording size waiting kept run
    have values : ∀ j, Ticket.valuesOn j f.tickets =
        Ticket.valuesOn j (if submitAccepted c₁ f w then f.tickets else []) := fun j => by
      rcases endFrame_accepts signalled run with accepted | none
      · rw [if_pos accepted]
      · rw [none]
        split <;> rfl
    refine sound.moves _ rfl size holds outside fresh fun j inside => ⟨_, ?_, values j ▸ movesBy_endFrame w ds
      (sound.alive.tracked j inside) inRange ?_ signalled _ _ run⟩
    · rw [before j]
      simp only [LifeRun.holders, (counts j).1, (counts j).2]
      omega
    · rw [sound.holders j inside, before j]
      omega
  · have spares : Spares f w c₁ := fun x member => by
      refine ⟨waiting x member, ?_⟩
      rw [sound.holders _ (waiting x member), before]
      simp [Option.mem_def.mp member]
    obtain ⟨refused, size, ring, moves⟩ := endFrame_fatal sound.alive (sound.releasable recording) spares unblocked run
    obtain ⟨holds, counts⟩ := holds_stopped sound.ring size ring
    rw [refused, if_neg Bool.false_ne_true]
    refine sound.moves [] rfl size holds outside (fun _ none => absurd none List.not_mem_nil) fun j inside => ⟨_, ?_, moves j inside⟩
    rw [before j]
    simp only [LifeRun.holders, (counts j).1, (counts j).2]
    omega

theorem Sound.step {r' : LifeRun} (sound : Sound r) (step : Step r r') : Sound r' := by
  cases step with
  | newTimeline name unused run => exact sound.newTimeline unused run
  | newTimelineRefused name run =>
    obtain ⟨d', spared, rfl⟩ := run_newTimeline_refused run
    exact sound.spared spared
  | promise j owner run => exact sound.hands owner (promise_timeline run) (gains_promise (sound.held _ owner) run)
  | signalInfo j stage owner run =>
    exact sound.hands owner (signalInfo_timeline run) (gains_signalInfo (sound.held _ owner) run)
  | waiterPending j owner run =>
    exact sound.hands owner (waiterPending_timeline run) (gains_waiterPending (sound.held _ owner) run)
  | waiterCurrent j owner run =>
    exact sound.hands owner (waiterCurrent_timeline run) (gains_waiterCurrent (sound.held _ owner) run)
  | letGo split run => exact sound.letGo split run
  | signal split settled => exact sound.signal split settled
  | submitted split run => exact sound.submitted split run
  | waitFor j v run => exact sound.waitFor run
  | query j run => exact sound.query run
  | poll w run => exact sound.poll run
  | device d log live poolSets =>
    exact sound.spared fun _ => ⟨⟨[], by rw [log, List.append_nil], rfl⟩, fun _ member => live ▸ member,
      fun filed => poolSets ▸ filed⟩
  | beginFrame run => exact sound.beginFrame run
  | surface recording run => exact sound.surface run
  | scratch name size usage recording run => exact sound.scratch recording run
  | writeScratch b offset len run => exact sound.writeScratch run
  | commandBuffer name recording run => exact sound.commandBuffer recording run
  | waitPoint p run => exact sound.waitPoint run
  | signalTicket recording split run => exact sound.signalTicket recording split run
  | deferDestroy d recording kept run => exact sound.deferDestroy recording kept run
  | queueDestroy d kept run => exact sound.queueDestroy kept run
  | endFrame w ds recording kept clone settled =>
    -- the session's waiter is held once more for the frame's slot before the frame ends
    cases w with
    | none =>
      obtain rfl : _ = r.context := clone
      have unchanged : Sound ⟨r.context, r.held ++ [], r.accepted⟩ := by
        rw [List.append_nil]
        exact sound
      exact unchanged.endFrame recording kept settled
    | some x =>
      obtain ⟨member, held⟩ := clone
      have present : (Holder.waiter x).timeline < r.context.timelines.size := sound.held _ member
      have gains := gains_hold present held
      exact (sound.gains present (holders_pos member) gains).endFrame (gains.ring ▸ recording) kept settled
  | cancel recording settled => exact sound.cancel recording settled
  | dropFrame recording settled => exact sound.dropFrame recording settled
  | waitAll run => exact sound.waitAll run
  | resize width height run => exact sound.resize run
  | setFramesInFlight n run =>
    simp only [Context.setFramesInFlight, EStateM.run_bind, EStateM.run_get] at run
    exact sound.resizeRing run

theorem Sound.run {r' : LifeRun} (sound : Sound r) (run : ReflTransGen Step r r') : Sound r' := by
  induction run with
  | refl => exact sound
  | tail _ step sound' => exact sound'.step step

end Steps

theorem semaphore_destroyed_once_after_last_holder {c₀ : Context} {r : LifeRun} (start : Start c₀)
    (run : ReflTransGen Step ⟨c₀, [], []⟩ r) {j : Nat} (present : j < r.context.timelines.size) :
    (r.context.timeline j).holders = r.holders j ∧ (r.context.timeline j).gpuPending = r.lastAccepted j ∧
      (0 < r.holders j → (r.context.timeline j).handle ∈ r.context.device.live) ∧
      r.context.device.log.toList.count (.destroy (r.context.timeline j).handle) =
        (if 0 < r.holders j then 0 else 1) ∧
      (r.holders j = 0 → ∃ a b o, r.context.device.log.toList =
        a ++ lastWait (r.context.timeline j).handle o (r.lastAccepted j) ++ .destroy (r.context.timeline j).handle :: b) ∧
      (r.holders j = 1 → ∀ c', (letGo j).run r.context = .ok () c' → c'.device.log.toList =
        r.context.device.log.toList ++ lastWait (r.context.timeline j).handle (r.context.timeline j).observed
          (r.lastAccepted j) ++ [.destroy (r.context.timeline j).handle]) := by
  have sound := (Sound.start start).run run
  have counted := sound.holders j present
  refine ⟨counted, sound.gpuPending j present, fun held => sound.alive.live j present (counted ▸ held),
    sound.destroyed j present, sound.last j present, fun one c' dropped => ?_⟩
  rw [← sound.gpuPending j present]
  exact log_letGo_last present (counted ▸ one) dropped

-- A renderer started with two frames in flight makes a timeline and lets its semaphore, the device's
-- third object, go: the device destroys it once.
theorem started_timeline_destroyed_once_when_let_go :
    ∃ c₀ c₂, (start {} {}).run default = .ok (.ok ()) c₀ ∧ ReflTransGen Step ⟨c₀, [], []⟩ ⟨c₂, [], []⟩ ∧
      c₂.device.log.toList.count (.destroy ⟨.semaphore, 0x1002⟩) = 1 := by
  obtain ⟨c₀, c₁, c₂, started, made, dropped, ring, empty, log, poolSets, handle, size, ring₂⟩ : ∃ c₀ c₁ c₂,
      (start {} {}).run default = .ok (.ok ()) c₀ ∧ (newTimeline "s").run c₀ = .ok (.ok 0) c₁ ∧
      (letGo 0).run c₁ = .ok () c₂ ∧
      c₀.ring = { slots := [{ handle := ⟨.frame, 0x1000⟩ }, { handle := ⟨.frame, 0x1001⟩ }], len := 2 } ∧
      c₀.timelines.size = 0 ∧ c₀.device.log.toList.count (.destroy ⟨.semaphore, c₀.device.next⟩) = 0 ∧
      c₀.device.poolSets = [] ∧ (c₂.timeline 0).handle = ⟨.semaphore, 0x1002⟩ ∧ c₂.timelines.size = 1 ∧
      c₂.ring = c₀.ring :=
    ⟨_, _, _, rfl, rfl, rfl, rfl, rfl, by decide, rfl, rfl, rfl, rfl⟩
  have fresh : ∀ s ∈ c₀.ring.slots, s.Clean c₀.timelines.size := by
    rw [ring]
    intro s member
    simp only [List.mem_cons, List.not_mem_nil, or_false] at member
    rcases member with rfl | rfl <;> exact Slot.clean_of_empty rfl rfl rfl (by decide)
  have ready : Start c₀ := ⟨empty, ⟨fresh, (by rw [ring]; exact fun _ none => absurd none List.not_mem_nil), (by rw [ring]; decide),
    (by rw [ring]; exact fun _ none => absurd none (Option.not_mem_none _))⟩⟩
  have unused : Unused c₀ :=
    ⟨(fun _ inside => absurd inside (by omega)), log, (by rw [poolSets]; exact fun _ none => absurd none List.not_mem_nil)⟩
  have run : ReflTransGen Step ⟨c₀, [], []⟩ ⟨c₂, [], []⟩ :=
    .tail (.single (.newTimeline "s" unused made)) (.letGo (a := []) (b := []) rfl dropped)
  obtain ⟨-, -, -, destroyed, -, -⟩ := semaphore_destroyed_once_after_last_holder ready run (j := 0) (by rw [size]; decide)
  have none : LifeRun.holders ⟨c₂, [], []⟩ 0 = 0 := by
    simp only [LifeRun.holders, parked, framed, ring₂, ring]
    decide
  rw [none, handle] at destroyed
  exact ⟨c₀, c₂, started, run, destroyed⟩

end LifeRun

end RenderCore
