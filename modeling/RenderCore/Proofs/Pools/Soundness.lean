import Mathlib
import RenderCore.Context.Frame
import RenderCore.Proofs.Pools.Release
namespace RenderCore.PoolSession

open Relation

inductive Step : PoolSession → PoolSession → Prop
  | allocate {s : PoolSession} (layout : SetLayout) {r : Except Error DescriptorSet} {c' : Context}
      (run : (Context.allocate layout).run s.context = .ok r c') (grows : s.context.device.next ≤ c'.device.next) :
      Step s ⟨c', handOut s.unreleased r⟩
  | release {s : PoolSession} (before after : List DescriptorSet) (x : DescriptorSet) {c' : Context}
      (held : s.unreleased = before ++ x :: after) (run : (Context.runDestroyer (.release x)).run s.context = .ok () c') :
      Step s ⟨c', before ++ after⟩
  | destroyAll {s : PoolSession} {n : Nat} {c' : Context} (run : Context.destroyPools.run s.context = .ok n c') :
      Step s ⟨c', s.unreleased⟩
  | arm {s : PoolSession} (failNext : Option (HandleKind × DeviceFailure)) :
      Step s ⟨{ s.context with device := { s.context.device with failNext } }, s.unreleased⟩

structure Fresh (c : Context) : Prop where
  empty : c.pools.pools = []
  sized : 0 < c.pools.bankSize
  numbered : c.device.Numbered
  filed : c.device.SetsFiled

theorem Sound.start {c : Context} (fresh : Fresh c) : Sound c [] :=
  Sound.of_no_banks c [] fresh.empty fresh.numbered fresh.filed fresh.sized (by simp) (by simp) (by simp)

theorem later_empty (p : Pools) : Later p { p with pools := [] } :=
  ⟨Nat.le_refl _, by simp [Pools.allBanks]⟩

variable {s s' : PoolSession}

theorem Sound.step (sound : Sound s.context s.unreleased) (step : Step s s') :
    Sound s'.context s'.unreleased ∧ Later s.context.pools s'.context.pools := by
  cases step with
  | allocate layout run grows => exact sound.allocate layout run grows
  | release before after x held run =>
    simp only [Context.runDestroyer, EStateM.run_modify, EStateM.Result.ok.injEq, true_and] at run
    subst run
    rw [held] at sound
    exact ⟨sound.release, later_release _ x sound.keys⟩
  | destroyAll run =>
    obtain ⟨c', teardown, emptied, sound'⟩ := sound.destroyPools
    rw [teardown, EStateM.Result.ok.injEq] at run
    obtain ⟨-, rfl⟩ := run
    refine ⟨sound', ?_⟩
    show Later s.context.pools c'.pools
    rw [emptied]
    exact later_empty _
  | arm failNext => exact ⟨sound.disarm failNext, Later.refl _⟩

theorem Sound.run (sound : Sound s.context s.unreleased) (steps : ReflTransGen Step s s') :
    Sound s'.context s'.unreleased ∧ Later s.context.pools s'.context.pools := by
  induction steps with
  | refl => exact ⟨sound, Later.refl _⟩
  | tail _ step ih =>
    obtain ⟨sound', later⟩ := ih
    obtain ⟨sound'', later'⟩ := sound'.step step
    exact ⟨sound'', later.trans later'⟩

theorem Later.retired {p p' : Pools} (later : Later p p') (n : Nat) (issued : n < p.nextBankId)
    (gone : n ∉ p.allBanks.map (·.id)) : n ∉ p'.allBanks.map (·.id) := by
  intro back
  obtain ⟨b, member, rfl⟩ := List.mem_map.mp back
  rcases later.kept b member with old | fresh
  · exact gone old
  · exact Nat.lt_irrefl _ (Nat.lt_of_lt_of_le issued fresh)

theorem Sound.bank_nodup {c : Context} {unreleased : List DescriptorSet} (sound : Sound c unreleased) (k : Key)
    (i : Nat) (b : Bank) (found : (c.pools.banks k)[i]? = some b) :
    (b.free ++ (madeFrom unreleased k i b).map (·.handle)).Nodup := by
  have member : b.free ∈ c.pools.allBanks.map (·.free) :=
    List.mem_map_of_mem (c.pools.mem_allBanks k b (List.mem_of_getElem? found))
  have free : List.Sublist b.free (freeHandles c.pools) := List.sublist_flatten_of_mem member
  have handed : List.Sublist ((madeFrom unreleased k i b).map (·.handle)) (unreleased.map (·.handle)) :=
    (List.filter_sublist).map _
  exact (free.append handed).nodup sound.distinct

structure Balanced (s : PoolSession) : Prop where
  bounded : ∀ (k : Key) (i : Nat) (b : Bank), (s.context.pools.banks k)[i]? = some b → b.len ≤ b.cap ∧ b.cap = s.context.pools.bankSize
  full : ∀ (k : Key) (i : Nat) (b : Bank), (s.context.pools.banks k)[i]? = some b → i + 1 < (s.context.pools.banks k).length → b.len = b.cap
  accounted : ∀ (k : Key) (i : Nat) (b : Bank), (s.context.pools.banks k)[i]? = some b →
    (b.free ++ (madeFrom s.unreleased k i b).map (·.handle)).Nodup ∧
    (b.free ++ (madeFrom s.unreleased k i b).map (·.handle)).Perm (s.context.device.setsOf b.handle) ∧
    (s.context.device.setsOf b.handle).length = b.len.toNat
  freeOnce : (s.context.pools.allBanks.flatMap (·.free)).Nodup
  idsApart : (s.context.pools.allBanks.map (·.id)).Nodup
  handsOutFresh : ∀ (layout : SetLayout) (x : DescriptorSet) (c' : Context), (Context.allocate layout).run s.context = .ok (.ok x) c' →
    s.context.device.next ≤ c'.device.next → x.handle ∉ s.unreleased.map (·.handle)
  idsRetired : ∀ s' : PoolSession, ReflTransGen Step s s' → ∀ n < s.context.pools.nextBankId,
    n ∉ s.context.pools.allBanks.map (·.id) → n ∉ s'.context.pools.allBanks.map (·.id)
  staleRelease : ∀ x ∈ s.unreleased, x.bankId ∉ s.context.pools.allBanks.map (·.id) →
    ∀ s' : PoolSession, ReflTransGen Step s s' → s'.context.pools.release x = s'.context.pools

theorem Sound.balanced (sound : Sound s.context s.unreleased) : Balanced s where
  bounded k i b found := sound.capped b (s.context.pools.mem_allBanks k b (List.mem_of_getElem? found))
  full := sound.full
  accounted k i b found := ⟨sound.bank_nodup k i b found, sound.made k i b found⟩
  freeOnce := (List.nodup_append.mp sound.distinct).1
  idsApart := sound.ids
  handsOutFresh layout x c' run grows := by
    have after := (sound.allocate layout run grows).1.distinct
    simp only [handOut, setHandles, List.map_append, List.map_cons, List.map_nil] at after
    exact fun held => (List.nodup_append.mp (List.nodup_append.mp after).2.1).2.2 _ held _
      (List.mem_singleton_self _) rfl
  idsRetired s' steps n issued gone := ((sound.run steps).2).retired n issued gone
  staleRelease x held gone s' steps := by
    have retired := ((sound.run steps).2).retired x.bankId (sound.setIdsBelow x held) gone
    refine s'.context.pools.release_of_stale x fun b found same => retired ?_
    rw [← same]
    exact List.mem_map_of_mem (s'.context.pools.mem_allBanks _ b (List.mem_of_getElem? found))

theorem pools_stay_balanced {start : Context} (fresh : Fresh start) (reach : ReflTransGen Step ⟨start, []⟩ s) :
    Balanced s :=
  ((Sound.start fresh).run reach).1.balanced

-- With banks of one set, a layout allocates two sets, then releases the first: the cache keeps its
-- promises along the way.
theorem pools_stay_balanced_from_empty :
    let layout : SetLayout :=
      { key := ⟨"k"⟩, name := "k", handle := ⟨.setLayout, 7⟩, slots := [some ⟨.vertex, .uniformBuffer, 1⟩] }
    let c₀ : Context := { (default : Context) with device := {}, pools := { bankSize := 1 } }
    ∃ s : PoolSession, ReflTransGen Step ⟨c₀, []⟩ s ∧ s.unreleased.length = 1 ∧ Balanced s := by
  intro layout c₀
  have fresh : Fresh c₀ := ⟨rfl, by decide, ⟨by simp [c₀], by simp [c₀], by simp [c₀]⟩, by simp [c₀, Device.SetsFiled]⟩
  have ran : Act.answers ((Context.allocate layout).run c₀) (fun x₁ c₁ =>
      Act.answers ((Context.allocate layout).run c₁) fun _ c₂ =>
        Act.finishes ((Context.runDestroyer (.release x₁)).run c₂) fun _ _ =>
          decide (c₀.device.next ≤ c₁.device.next) && decide (c₁.device.next ≤ c₂.device.next)) = true := by
    cbv
  obtain ⟨x₁, c₁, first, ran⟩ := Act.answers_eq_true.mp ran
  obtain ⟨x₂, c₂, second, ran⟩ := Act.answers_eq_true.mp ran
  obtain ⟨⟨⟩, c₃, released, ran⟩ := Act.finishes_eq_true.mp ran
  simp only [Bool.and_eq_true, decide_eq_true_eq] at ran
  obtain ⟨grows₁, grows₂⟩ := ran
  have run : ReflTransGen Step ⟨c₀, []⟩ ⟨c₃, [x₂]⟩ :=
    .tail (.tail (.single (.allocate layout first grows₁)) (.allocate layout second grows₂))
      (.release [] [x₂] x₁ rfl released)
  exact ⟨_, run, rfl, pools_stay_balanced fresh run⟩

end RenderCore.PoolSession
