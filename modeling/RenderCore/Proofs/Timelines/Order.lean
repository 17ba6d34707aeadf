import Mathlib
import RenderCore.Proofs.Timelines.Actions
namespace RenderCore

open Relation Context

structure TimelineRun where
  context : Context
  issued : List UInt64

namespace TimelineRun

def tickets (n : Nat) : List UInt64 :=
  (List.range n).map fun k => UInt64.ofNat (k + 1)

theorem tickets_succ (n : Nat) : tickets (n + 1) = tickets n ++ [UInt64.ofNat (n + 1)] := by
  simp [tickets, List.range_succ]

inductive Step (i : Nat) : TimelineRun → TimelineRun → Prop
  | promise {r : TimelineRun} {p : Promise} {c' : Context} (run : (Context.promise i).run r.context = .ok p c') :
      Step i r ⟨c', r.issued ++ [p.value]⟩
  | signalInfo {r : TimelineRun} (stage : UInt64) {t : Ticket} {c' : Context}
      (run : (Context.signalInfo i stage).run r.context = .ok t c') : Step i r ⟨c', r.issued ++ [t.point.value]⟩
  | signal {r : TimelineRun} (p : Promise) (mine : p.timeline = i) {c' : Context}
      (ran : Act.Ran (Context.signal p) r.context c') : Step i r ⟨c', r.issued⟩
  | submitted {r : TimelineRun} (t : Ticket) (mine : t.timeline = i) {c' : Context}
      (ran : Act.Ran (Context.submitted t) r.context c') : Step i r ⟨c', r.issued⟩
  | waiterPending {r : TimelineRun} {c' : Context} (ran : Act.Ran (Context.waiterPending i) r.context c') :
      Step i r ⟨c', r.issued⟩
  | waiterCurrent {r : TimelineRun} {c' : Context} (ran : Act.Ran (Context.waiterCurrent i) r.context c') :
      Step i r ⟨c', r.issued⟩
  | waitFor {r : TimelineRun} (v : UInt64) {c' : Context} (ran : Act.Ran (Context.waitFor i v) r.context c') :
      Step i r ⟨c', r.issued⟩
  | poll {r : TimelineRun} (w : Waiter) (mine : w.timeline = i) {c' : Context}
      (ran : Act.Ran (Context.poll w) r.context c') : Step i r ⟨c', r.issued⟩
  | query {r : TimelineRun} {c' : Context} (ran : Act.Ran (Context.query i) r.context c') : Step i r ⟨c', r.issued⟩
  | letGo {r : TimelineRun} {c' : Context} (ran : Act.Ran (Context.letGo i) r.context c') : Step i r ⟨c', r.issued⟩
  | advance {r : TimelineRun} (h : Handle) (v : UInt64) {c' : Context}
      (ran : Act.Ran (device! (Device.advance h v)) r.context c') : Step i r ⟨c', r.issued⟩

structure Sound (i : Nat) (r : TimelineRun) : Prop where
  present : i < r.context.timelines.size
  ordered : r.issued = tickets r.issued.length
  pending : (r.context.timeline i).pending = UInt64.ofNat r.issued.length
  bounded : Bounded i r.context

variable {i : Nat} {r r' : TimelineRun}

theorem Sound.tamed {c' : Context} (sound : Sound i r) (tamed : Tamed i r.context c') : Sound i ⟨c', r.issued⟩ :=
  ⟨tamed.forward.size ▸ sound.present, sound.ordered, tamed.pending.trans sound.pending, tamed.bounded⟩

theorem Sound.issued {c' : Context} {v : UInt64} (sound : Sound i r) (issued : Issued i r.context c')
    (next : v = (r.context.timeline i).pending + 1) : Sound i ⟨c', r.issued ++ [v]⟩ := by
  have value : v = UInt64.ofNat (r.issued.length + 1) := by
    rw [next, sound.pending, UInt64.ofNat_add]
    rfl
  refine ⟨issued.forward.size ▸ sound.present, ?_, ?_, issued.bounded⟩
  · rw [List.length_append, List.length_singleton, tickets_succ, ← sound.ordered, value]
  · rw [issued.pending, List.length_append, List.length_singleton, ← next, value]

theorem Sound.step (sound : Sound i r) (step : Step i r r') : Sound i r' ∧ Forward i r.context r'.context := by
  have bounded := sound.bounded
  cases step with
  | promise run =>
    obtain ⟨next, issued⟩ := promise_issues run sound.present bounded
    exact ⟨sound.issued issued next, issued.forward⟩
  | signalInfo stage run =>
    obtain ⟨next, issued⟩ := signalInfo_issues run sound.present bounded
    exact ⟨sound.issued issued next, issued.forward⟩
  | signal p mine ran =>
    have tamed := tameAt_signal p mine r.context bounded _ ran
    exact ⟨sound.tamed tamed, tamed.forward⟩
  | submitted t mine ran =>
    have tamed := tameAt_submitted t mine r.context bounded _ ran
    exact ⟨sound.tamed tamed, tamed.forward⟩
  | waiterPending ran =>
    have tamed := tameAt_waiterPending r.context bounded _ ran
    exact ⟨sound.tamed tamed, tamed.forward⟩
  | waiterCurrent ran =>
    have tamed := tameAt_waiterCurrent r.context bounded _ ran
    exact ⟨sound.tamed tamed, tamed.forward⟩
  | waitFor v ran =>
    have tamed := tameAt_waitFor v r.context bounded _ ran
    exact ⟨sound.tamed tamed, tamed.forward⟩
  | poll w mine ran =>
    have tamed := tameAt_poll w mine r.context bounded _ ran
    exact ⟨sound.tamed tamed, tamed.forward⟩
  | query ran =>
    have tamed := tameAt_query r.context bounded _ ran
    exact ⟨sound.tamed tamed, tamed.forward⟩
  | letGo ran =>
    have tamed := tameAt_letGo r.context bounded _ ran
    exact ⟨sound.tamed tamed, tamed.forward⟩
  | advance h v ran =>
    have tamed := tameAt_advance h v r.context bounded _ ran
    exact ⟨sound.tamed tamed, tamed.forward⟩

theorem Sound.run (sound : Sound i r) (run : ReflTransGen (Step i) r r') :
    Sound i r' ∧ Forward i r.context r'.context := by
  induction run with
  | refl => exact ⟨sound, Forward.refl i r.context⟩
  | tail _ step ih =>
    obtain ⟨sound', forward⟩ := ih
    obtain ⟨sound'', forward'⟩ := sound'.step step
    exact ⟨sound'', forward.trans forward'⟩

end TimelineRun

namespace Context

structure Fresh (i : Nat) (c : Context) : Prop where
  present : i < c.timelines.size
  pending : (c.timeline i).pending = 0
  observed : (c.timeline i).observed = 0

theorem newTimeline_fresh {name : String} {c c' : Context} {i : Nat}
    (made : (newTimeline name).run c = .ok (.ok i) c') : Fresh i c' := by
  obtain ⟨created, c₁, -, rest⟩ := Act.run_bind_ok made
  cases created with
  | error f => cases rest
  | ok h =>
    simp only [EStateM.run_bind, EStateM.run_get, EStateM.run_set, EStateM.run_pure,
      EStateM.Result.ok.injEq, Except.ok.injEq] at rest
    obtain ⟨rfl, rfl⟩ := rest
    refine ⟨by simp, ?_, ?_⟩ <;> simp [timeline]

end Context

namespace TimelineRun

theorem Sound.start {c : Context} (fresh : Fresh i c) : Sound i ⟨c, []⟩ := by
  refine ⟨fresh.present, rfl, fresh.pending, ?_⟩
  unfold Bounded
  rw [fresh.observed]
  exact UInt64.le_iff_toNat_le.mpr (Nat.zero_le _)

theorem timeline_orders_tickets {name : String} {c c₀ : Context} {r : TimelineRun}
    (made : (newTimeline name).run c = .ok (.ok i) c₀) (run : ReflTransGen (Step i) ⟨c₀, []⟩ r) :
    r.issued = tickets r.issued.length ∧ (r.context.timeline i).observed ≤ r.context.counter i ∧
      (∀ r', ReflTransGen (Step i) r r' → (r.context.timeline i).observed ≤ (r'.context.timeline i).observed) ∧
      ∀ w : Waiter, w.timeline = i →
        (∃ c', (poll w).run r.context = .ok (decide (w.value ≤ r.context.counter i)) c') ∧
        ((∃ c', (waitFor i w.value).run r.context = .ok () c') ↔ w.value ≤ r.context.counter i) ∧
        ∀ r', ReflTransGen (Step i) r r' → (∃ c', (poll w).run r.context = .ok true c') →
          ∃ c', (poll w).run r'.context = .ok true c' := by
  obtain ⟨sound, -⟩ := (Sound.start (newTimeline_fresh made)).run run
  refine ⟨sound.ordered, sound.bounded, fun r' later => ((sound.run later).2).observed, fun w mine => ?_⟩
  refine ⟨poll_answers w mine sound.present sound.bounded, waitFor_finishes_iff w.value sound.bounded, ?_⟩
  intro r' later ⟨c', yes⟩
  obtain ⟨sound', forward⟩ := sound.run later
  -- the poll said yes, so the counter had reached the value, and the counter only grows
  obtain ⟨c₁, answer⟩ := poll_answers w mine sound.present sound.bounded
  rw [yes] at answer
  have reached : w.value ≤ r.context.counter i := by
    simpa using (EStateM.Result.ok.inj answer).1.symm
  obtain ⟨c₂, answer'⟩ := poll_answers w mine sound'.present sound'.bounded
  rw [decide_eq_true (UInt64.le_trans reached forward.counter_le)] at answer'
  exact ⟨c₂, answer'⟩

-- A timeline made on a fresh device hands out a promise, then a ticket for a submission, and the
-- promise is signalled: they were handed out as 1 and 2.
theorem timeline_orders_tickets_from_creation :
    ∃ c₀ r, (newTimeline "s").run { (default : Context) with device := {} } = .ok (.ok 0) c₀ ∧
      ReflTransGen (Step 0) ⟨c₀, []⟩ r ∧ r.issued = [1, 2] ∧ (r.context.timeline 0).observed ≤ r.context.counter 0 := by
  have ran : Act.answers ((newTimeline "s").run { (default : Context) with device := {} }) (fun i c₀ =>
      i == 0 && Act.finishes ((promise 0).run c₀) fun p c₁ =>
        Act.finishes ((signalInfo 0 0).run c₁) fun _ c₂ =>
          Act.finishes ((signal p).run c₂) fun _ _ => p.timeline == 0) = true := by
    cbv
  obtain ⟨i, c₀, made, ran⟩ := Act.answers_eq_true.mp ran
  rw [Bool.and_eq_true, beq_iff_eq] at ran
  obtain ⟨rfl, ran⟩ := ran
  obtain ⟨p, c₁, promised, ran⟩ := Act.finishes_eq_true.mp ran
  obtain ⟨t, c₂, ticketed, ran⟩ := Act.finishes_eq_true.mp ran
  obtain ⟨⟨⟩, c₃, signalled, ran⟩ := Act.finishes_eq_true.mp ran
  have run : ReflTransGen (Step 0) ⟨c₀, []⟩ ⟨c₃, [p.value, t.point.value]⟩ :=
    .tail (.tail (.single (.promise promised)) (.signalInfo 0 ticketed)) (.signal p (beq_iff_eq.mp ran) (.inl ⟨_, signalled⟩))
  obtain ⟨ordered, bounded, -⟩ := timeline_orders_tickets made run
  exact ⟨c₀, _, made, run, ordered.trans rfl, bounded⟩

end TimelineRun

end RenderCore
