import Mathlib
import RenderCore.Proofs.Pools.Soundness
namespace RenderCore.PoolSession

open Relation

variable {c : Context} {unreleased : List DescriptorSet}

section Choice

theorem Sound.drained_of_first (sound : Sound c unreleased) {k : Key} {i : Nat}
    (found : (c.pools.banks k).findIdx? (·.available) = some i) {b : Bank} (chosen : (c.pools.banks k)[i]? = some b)
    (empty : b.free = []) : ∀ b' ∈ c.pools.banks k, b'.free = [] := by
  obtain ⟨inside, available, before⟩ := List.findIdx?_eq_some_iff_getElem.mp found
  have same : (c.pools.banks k)[i] = b := Option.some.inj ((List.getElem?_eq_getElem inside).symm.trans chosen)
  have roomy : b.len < b.cap := roomy_of_available b (same ▸ available) empty
  have last : (c.pools.banks k).length = i + 1 := by
    rcases Nat.lt_or_ge (i + 1) (c.pools.banks k).length with later | notLater
    · exact absurd (sound.full k i b chosen later) (UInt32.ne_of_lt roomy)
    · omega
  intro b' member
  obtain ⟨j, bound, rfl⟩ := List.getElem_of_mem member
  rcases Nat.lt_or_ge j i with earlier | notEarlier
  · have unavailable := before j earlier
    simp only [Bank.available, Bool.or_eq_true, Bool.not_eq_true', List.isEmpty_eq_false_iff,
      decide_eq_true_eq, not_or, ne_eq, Decidable.not_not] at unavailable
    exact unavailable.1
  · obtain rfl : j = i := by omega
    rw [same]
    exact empty

theorem Sound.full_of_none (sound : Sound c unreleased) {k : Key}
    (none : (c.pools.banks k).findIdx? (·.available) = none) : ∀ b ∈ c.pools.banks k, b.free = [] ∧ b.len = b.cap := by
  intro b member
  have unavailable := List.findIdx?_eq_none_iff.mp none b member
  simp only [Bank.available, Bool.or_eq_false_iff, Bool.not_eq_false', List.isEmpty_iff,
    decide_eq_false_iff_not, UInt32.not_lt] at unavailable
  have capped := (sound.capped b (c.pools.mem_allBanks k b member)).1
  exact ⟨unavailable.1, UInt32.le_antisymm capped unavailable.2⟩

end Choice

inductive Drawn (layout : SetLayout) (c c' : Context) (r : Except Error DescriptorSet) : Prop
  | kept (lens : (c'.pools.banks layout.key).map (·.len) = (c.pools.banks layout.key).map (·.len))
      (log : c'.device.log = c.device.log)
  | made (i : Nat) (b : Bank) (found : (c.pools.banks layout.key)[i]? = some b)
      (drained : ∀ b ∈ c.pools.banks layout.key, b.free = []) (room : b.len < b.cap)
      (after : c'.pools.banks layout.key = (c.pools.banks layout.key).set i { b with len := b.len + 1 })
  | grown (b : Bank) (full : ∀ b ∈ c.pools.banks layout.key, b.free = [] ∧ b.len = b.cap) (empty : b.free = [])
      (after : c'.pools.banks layout.key = c.pools.banks layout.key ++ [b])
      (occupied : (∀ context f, r ≠ .error (.device context f)) → b.len = 1)

theorem Sound.drawn (sound : Sound c unreleased) (layout : SetLayout) {r : Except Error DescriptorSet}
    {c' : Context} (run : (Context.allocate layout).run c = .ok r c') :
    Drawn layout c c' r ∧ ∀ k ≠ layout.key, c'.pools.banks k = c.pools.banks k := by
  cases found : (c.pools.banks layout.key).findIdx? (·.available) with
  | some i =>
    obtain ⟨inside, available, -⟩ := List.findIdx?_eq_some_iff_getElem.mp found
    have chosen := List.getElem?_eq_getElem inside
    have listed : ((Context.withPool layout c).pools.banks layout.key)[i]? = some (c.pools.banks layout.key)[i] := by
      simp [inside]
    have placed := Context.run_bankFor_found layout c i found
    cases last : (c.pools.banks layout.key)[i].free.getLast? with
    | some h =>
      rw [Context.run_allocate_reuse placed listed h last, EStateM.Result.ok.injEq] at run
      obtain ⟨-, rfl⟩ := run
      refine ⟨.kept ?_ rfl, fun k other => by simp [other]⟩
      have unchanged := List.set_getElem_self (by simpa using inside : i < ((c.pools.banks layout.key).map (·.len)).length)
      simpa [List.map_set] using unchanged
    | none =>
      have empty : (c.pools.banks layout.key)[i].free = [] := List.getLast?_eq_none_iff.mp last
      by_cases armed : ∃ f, c.device.failNext = some (.set, f)
      · obtain ⟨f, armed⟩ := armed
        obtain ⟨context, refused⟩ := Context.run_allocate_refused placed listed empty f armed
        rw [refused, EStateM.Result.ok.injEq] at run
        obtain ⟨-, rfl⟩ := run
        exact ⟨.kept (by simp) rfl, fun k other => by simp [other]⟩
      · rw [Context.run_allocate_make placed listed empty (fun f same => armed ⟨f, same⟩),
          EStateM.Result.ok.injEq] at run
        obtain ⟨-, rfl⟩ := run
        exact ⟨.made i _ chosen (sound.drained_of_first found chosen empty) (roomy_of_available _ available empty)
          (by simp), fun k other => by simp [other]⟩
  | none =>
    have full := sound.full_of_none found
    cases sized : layout.poolSizes c.pools.bankSize with
    | error v =>
      have refused := Context.run_newBank_invalid layout (Context.withPool layout c)
        (c.pools.banks layout.key).length v (by simpa using sized)
      rw [Context.run_allocate_unplaced _ (Context.run_bankFor_stunted layout c found _ _ refused),
        EStateM.Result.ok.injEq] at run
      obtain ⟨-, rfl⟩ := run
      exact ⟨.kept (by simp) rfl, fun k other => by simp [other]⟩
    | ok sizes =>
      have sized' : layout.poolSizes (Context.withPool layout c).pools.bankSize = .ok sizes := by simpa using sized
      by_cases armedPool : ∃ f, c.device.failNext = some (.pool, f)
      · obtain ⟨f, armedPool⟩ := armedPool
        obtain ⟨context, refused⟩ :=
          Context.run_newBank_refused layout (Context.withPool layout c) _ sizes sized' f armedPool
        rw [Context.run_allocate_unplaced _ (Context.run_bankFor_stunted layout c found _ _ refused),
          EStateM.Result.ok.injEq] at run
        obtain ⟨-, rfl⟩ := run
        exact ⟨.kept (by simp) rfl, fun k other => by simp [other]⟩
      · have placed := Context.run_bankFor_grown layout c found _ _
          (Context.run_newBank_made layout (Context.withPool layout c) _ sizes sized' fun f same => armedPool ⟨f, same⟩)
        by_cases armedSet : ∃ f, c.device.failNext = some (.set, f)
        · obtain ⟨f, armedSet⟩ := armedSet
          obtain ⟨context, refused⟩ := Context.run_allocate_refused placed (by simp; rfl) rfl f armedSet
          rw [refused, EStateM.Result.ok.injEq] at run
          obtain ⟨rfl, rfl⟩ := run
          refine ⟨.grown _ full ?_ (by simp; rfl) ?_, fun k other => ?_⟩
          · rfl
          · exact fun made => absurd rfl (made context f)
          · simp only [Pools.banks_setBanks, if_neg other]
            exact (c.pools.banks_setBanks layout.key k _).trans (if_neg other)
        · rw [Context.run_allocate_make placed (by simp; rfl) rfl fun f same => armedSet ⟨f, same⟩,
            EStateM.Result.ok.injEq] at run
          obtain ⟨-, rfl⟩ := run
          refine ⟨.grown _ full ?_ (by simp; rfl) ?_, fun k other => ?_⟩
          · rfl
          · exact fun _ => rfl
          · simp only [Pools.banks_setBanks, if_neg other]
            exact (c.pools.banks_setBanks layout.key k _).trans (if_neg other)

theorem Sound.allocate_drains (sound : Sound c unreleased) (layout : SetLayout) {r : Except Error DescriptorSet}
    {c' : Context} (run : (Context.allocate layout).run c = .ok r c') :
    (c'.device.log ≠ c.device.log → ∀ b ∈ c.pools.banks layout.key, b.free = []) ∧
      ((c.pools.banks layout.key).length < (c'.pools.banks layout.key).length →
        ∀ b ∈ c.pools.banks layout.key, b.free = [] ∧ b.len = b.cap) := by
  cases (sound.drawn layout run).1 with
  | kept lens log =>
    have same : (c'.pools.banks layout.key).length = (c.pools.banks layout.key).length := by
      simpa using congrArg List.length lens
    exact ⟨fun changed => absurd log changed, fun longer => absurd same (Nat.ne_of_gt longer)⟩
  | made i b found drained room after =>
    refine ⟨fun _ => drained, fun longer => ?_⟩
    rw [after, List.length_set] at longer
    exact absurd longer (Nat.lt_irrefl _)
  | grown b full empty after occupied => exact ⟨fun _ b' member => (full b' member).1, fun _ => full⟩

section Measures

def created (p : Pools) (k : Key) : Nat := ((p.banks k).map (·.len.toNat)).sum

def waiting (p : Pools) (k : Key) : Nat := ((p.banks k).map (·.free.length)).sum

def held (s : PoolSession) (k : Key) : Nat :=
  s.unreleased.countP fun x => x.layout.key == k && (s.context.pools.banks k)[x.bank]?.any (·.id == x.bankId)

theorem names_count (x : DescriptorSet) (k : Key) : ∀ (banks : List Bank) (n : Nat),
    ((banks.zipIdx n).map fun p => if x.names k p.2 p.1 then 1 else 0).sum =
      if x.layout.key = k ∧ n ≤ x.bank ∧ banks[x.bank - n]?.any (·.id == x.bankId) then 1 else 0
  | [], n => by simp
  | b :: rest, n => by
    rw [List.zipIdx_cons, List.map_cons, List.sum_cons, names_count x k rest (n + 1)]
    rcases Nat.lt_trichotomy x.bank n with before | here | after
    · have skipped : x.bank ≠ n := Nat.ne_of_lt before
      simp [DescriptorSet.names, skipped, Nat.not_le_of_lt before, Nat.not_le_of_lt (Nat.lt_succ_of_lt before)]
    · simp [DescriptorSet.names, here, @eq_comm _ b.id]
    · have position : x.bank - n = x.bank - (n + 1) + 1 := by omega
      simp [DescriptorSet.names, Nat.ne_of_gt after, position, Nat.le_of_lt after, Nat.succ_le_of_lt after]

theorem countP_current (k : Key) (banks : List Bank) (u : List DescriptorSet) :
    u.countP (fun x => x.layout.key == k && banks[x.bank]?.any (·.id == x.bankId)) =
      (banks.zipIdx.map fun p => (madeFrom u k p.2 p.1).length).sum := by
  induction u with
  | nil => simp [madeFrom]
  | cons x rest ih =>
    have one := names_count x k banks 0
    simp only [Nat.zero_le, Nat.sub_zero, true_and] at one
    have split : (banks.zipIdx.map fun p => (madeFrom (x :: rest) k p.2 p.1).length) =
        banks.zipIdx.map fun p => (madeFrom rest k p.2 p.1).length + if x.names k p.2 p.1 then 1 else 0 := by
      refine List.map_congr_left fun p _ => ?_
      by_cases named : x.names k p.2 p.1 <;> simp [madeFrom, named]
    rw [List.countP_cons, ih, split, List.sum_map_add, one]
    simp

theorem Sound.accounted {s : PoolSession} (sound : Sound s.context s.unreleased) (k : Key) :
    waiting s.context.pools k + held s k = created s.context.pools k := by
  have perBank : ∀ p ∈ (s.context.pools.banks k).zipIdx,
      p.1.free.length + (madeFrom s.unreleased k p.2 p.1).length = p.1.len.toNat := by
    intro p member
    obtain ⟨perm, counted⟩ := sound.made k p.2 p.1 (List.mem_zipIdx_iff_getElem?.mp member)
    simpa [counted] using perm.length_eq
  have byPosition (f : Bank → Nat) :
      (s.context.pools.banks k).map f = (s.context.pools.banks k).zipIdx.map fun p => f p.1 := by
    conv_lhs => rw [← List.zipIdx_map_fst 0 (s.context.pools.banks k)]
    rw [List.map_map]
    rfl
  unfold waiting created held
  rw [countP_current, byPosition, byPosition, ← List.sum_map_add]
  exact congrArg List.sum (List.map_congr_left perBank)

theorem map_set_of_same {l : List Bank} {i : Nat} {b b' : Bank} {β : Type} (f : Bank → β) (found : l[i]? = some b)
    (same : f b' = f b) : (l.set i b').map f = l.map f := by
  obtain ⟨inside, rfl⟩ := List.getElem?_eq_some_iff.mp found
  have unchanged := List.set_getElem_self (by simpa using inside : i < (l.map f).length)
  rw [List.map_set, same]
  simpa using unchanged

theorem sum_map_set_succ {l : List Bank} {i : Nat} {b b' : Bank} (f : Bank → Nat) (found : l[i]? = some b)
    (more : f b' = f b + 1) : ((l.set i b').map f).sum = (l.map f).sum + 1 := by
  induction l generalizing i with
  | nil => simp at found
  | cons a rest ih =>
    cases i with
    | zero =>
      obtain rfl : a = b := by simpa using found
      simp [more]
      omega
    | succ j =>
      simp only [List.getElem?_cons_succ] at found
      simp only [List.set_cons_succ, List.map_cons, List.sum_cons, ih found]
      omega

end Measures

section Epoch

def Occupied (p : Pools) (k : Key) : Prop := ∀ b ∈ p.banks k, 0 < b.len.toNat

structure Tight (k : Key) (p p' : Pools) : Prop where
  occupied : Occupied p k → Occupied p' k
  grows : created p' k = created p k ∨ (created p' k = created p k + 1 ∧ waiting p' k = 0)

theorem tight_of_lens {k : Key} {p p' : Pools} (lens : (p'.banks k).map (·.len) = (p.banks k).map (·.len)) :
    Tight k p p' where
  occupied before b member := by
    obtain ⟨b₀, old, same⟩ := List.mem_map.mp (lens ▸ List.mem_map_of_mem member : b.len ∈ (p.banks k).map (·.len))
    rw [← same]
    exact before b₀ old
  grows := by
    have counted := congrArg (fun l => (l.map UInt32.toNat).sum) lens
    simp only [List.map_map] at counted
    exact .inl counted

inductive Calm : PoolSession → PoolSession → Prop
  | allocate {s : PoolSession} (layout : SetLayout) {r : Except Error DescriptorSet} {c' : Context}
      (run : (Context.allocate layout).run s.context = .ok r c') (grows : s.context.device.next ≤ c'.device.next)
      (made : ∀ context f, r ≠ .error (.device context f)) : Calm s ⟨c', handOut s.unreleased r⟩
  | release {s : PoolSession} (before after : List DescriptorSet) (x : DescriptorSet) {c' : Context}
      (held : s.unreleased = before ++ x :: after) (run : (Context.runDestroyer (.release x)).run s.context = .ok () c') :
      Calm s ⟨c', before ++ after⟩
  | arm {s : PoolSession} (failNext : Option (HandleKind × DeviceFailure)) :
      Calm s ⟨{ s.context with device := { s.context.device with failNext } }, s.unreleased⟩

variable {s s' : PoolSession}

theorem Calm.step : Calm s s' → Step s s'
  | .allocate layout run grows _ => .allocate layout run grows
  | .release before after x held run => .release before after x held run
  | .arm failNext => .arm failNext

inductive Since (k : Key) (s₀ : PoolSession) : PoolSession → Nat → Prop
  | start : Since k s₀ s₀ (held s₀ k)
  | step {s s' : PoolSession} {peak : Nat} (before : Since k s₀ s peak) (calm : Calm s s') :
      Since k s₀ s' (max peak (held s' k))

theorem Drawn.tight {layout : SetLayout} {c c' : Context} {r : Except Error DescriptorSet} (drawn : Drawn layout c c' r)
    (made : ∀ context f, r ≠ .error (.device context f)) : Tight layout.key c.pools c'.pools := by
  cases drawn with
  | kept lens _ => exact tight_of_lens lens
  | made i b found drained room after =>
    have grown : (b.len + 1).toNat = b.len.toNat + 1 := toNat_succ_of_lt _ _ room
    refine ⟨fun before b' member => ?_, .inr ⟨?_, ?_⟩⟩
    · rw [after] at member
      rcases List.mem_or_eq_of_mem_set member with old | rfl
      · exact before b' old
      · simp [grown]
    · unfold created
      rw [after]
      exact sum_map_set_succ (·.len.toNat) found grown
    · unfold waiting
      rw [after]
      refine List.sum_eq_zero fun n listed => ?_
      obtain ⟨b', member, rfl⟩ := List.mem_map.mp listed
      rcases List.mem_or_eq_of_mem_set member with old | rfl
      · simp [drained b' old]
      · simp [drained b (List.mem_of_getElem? found)]
  | grown b full empty after occupied =>
    have single : b.len = 1 := occupied made
    refine ⟨fun before b' member => ?_, .inr ⟨?_, ?_⟩⟩
    · rw [after] at member
      rcases List.mem_append.mp member with old | added
      · exact before b' old
      · rw [List.mem_singleton.mp added, single]
        decide
    · simp [created, after, single]
    · unfold waiting
      rw [after]
      refine List.sum_eq_zero fun n listed => ?_
      obtain ⟨b', member, rfl⟩ := List.mem_map.mp listed
      rcases List.mem_append.mp member with old | added
      · simp [(full b' old).1]
      · simp [List.mem_singleton.mp added, empty]

theorem lens_release (p : Pools) (x : DescriptorSet) (k : Key) :
    ((p.release x).banks k).map (·.len) = (p.banks k).map (·.len) := by
  by_cases current : ∃ b, (p.banks x.layout.key)[x.bank]? = some b ∧ b.id = x.bankId
  · obtain ⟨b, found, same⟩ := current
    rw [p.release_of_bank x b found same]
    by_cases key : k = x.layout.key
    · subst key
      simpa using map_set_of_same (·.len) found rfl
    · simp [key]
  · rw [p.release_of_stale x fun b found same => current ⟨b, found, same⟩]

theorem Sound.tight (sound : Sound s.context s.unreleased) (k : Key) (calm : Calm s s') :
    Tight k s.context.pools s'.context.pools := by
  cases calm with
  | allocate layout run grows made =>
    obtain ⟨drawn, others⟩ := sound.drawn layout run
    by_cases same : k = layout.key
    · subst same
      exact drawn.tight made
    · exact tight_of_lens (by rw [others k same])
  | release before after x held run =>
    simp only [Context.runDestroyer, EStateM.run_modify, EStateM.Result.ok.injEq, true_and] at run
    subst run
    exact tight_of_lens (lens_release _ x k)
  | arm failNext => exact tight_of_lens rfl

structure Steady (k : Key) (s : PoolSession) (peak : Nat) : Prop where
  sound : Sound s.context s.unreleased
  made : created s.context.pools k = peak
  occupied : Occupied s.context.pools k

theorem Steady.start {k : Key} (sound : Sound s.context s.unreleased) (unused : s.context.pools.banks k = []) :
    Steady k s (held s k) where
  sound := sound
  made := by simp [created, held, unused]
  occupied := by simp [Occupied, unused]

theorem Steady.step {k : Key} {peak : Nat} (steady : Steady k s peak) (calm : Calm s s') :
    Steady k s' (max peak (held s' k)) := by
  have sound' := (steady.sound.step calm.step).1
  have tight := steady.sound.tight k calm
  have accounted := sound'.accounted k
  have made := steady.made
  refine ⟨sound', ?_, tight.occupied steady.occupied⟩
  rcases tight.grows with same | ⟨more, drained⟩
  · omega
  · omega

theorem Steady.run {k : Key} {s₀ : PoolSession} {peak : Nat} (steady : Steady k s₀ (held s₀ k))
    (since : Since k s₀ s peak) : Steady k s peak := by
  induction since with
  | start => exact steady
  | step _ calm ih => exact ih.step calm

end Epoch

section Shape

theorem Sound.sets_made (sound : Sound c unreleased) (k : Key) :
    ((c.pools.banks k).map fun b => (c.device.setsOf b.handle).length).sum = created c.pools k := by
  refine congrArg List.sum (List.map_congr_left fun b member => ?_)
  obtain ⟨i, found⟩ := List.mem_iff_getElem?.mp member
  exact (sound.made k i b found).2

theorem Sound.length_banks (sound : Sound c unreleased) (k : Key) (occupied : Occupied c.pools k) :
    (c.pools.banks k).length = (created c.pools k + c.pools.bankSize.toNat - 1) / c.pools.bankSize.toNat := by
  have sized : 0 < c.pools.bankSize.toNat := sound.sized
  have capped (b : Bank) (member : b ∈ c.pools.banks k) : b.len.toNat ≤ c.pools.bankSize.toNat := by
    obtain ⟨bounded, sizedBank⟩ := sound.capped b (c.pools.mem_allBanks k b member)
    rw [← sizedBank]
    exact bounded
  rcases List.eq_nil_or_concat (c.pools.banks k) with empty | ⟨front, last, split⟩
  · simp only [created, empty, List.map_nil, List.sum_nil, List.length_nil, Nat.zero_add]
    exact (Nat.div_eq_of_lt (by omega)).symm
  · have full (b : Bank) (member : b ∈ front) : b.len.toNat = c.pools.bankSize.toNat := by
      obtain ⟨j, found⟩ := List.mem_iff_getElem?.mp member
      have inside := (List.getElem?_eq_some_iff.mp found).1
      have listed : (c.pools.banks k)[j]? = some b := by
        rw [split, List.concat_eq_append, List.getElem?_append_left inside]
        exact found
      have filled := sound.full k j b listed (by rw [split]; simp; omega)
      rw [filled, (sound.capped b (c.pools.mem_allBanks k b (List.mem_of_getElem? listed))).2]
    have lastMember : last ∈ c.pools.banks k := by simp [split]
    have lastSize := capped last lastMember
    have lastUsed := occupied last lastMember
    have total : created c.pools k = front.length * c.pools.bankSize.toNat + last.len.toNat := by
      unfold created
      rw [split, List.concat_eq_append, List.map_append, List.sum_append, List.map_congr_left full]
      simp [List.sum_replicate]
    rw [total, split, List.length_concat]
    symm
    apply Nat.div_eq_of_lt_le
    · rw [Nat.add_mul, Nat.one_mul]
      omega
    · rw [Nat.add_mul, Nat.add_mul, Nat.one_mul]
      omega

end Shape

theorem pools_grow_to_peak_in_fewest_banks {c₀ : Context} (fresh : Fresh c₀) :
    (∀ s, ReflTransGen Step ⟨c₀, []⟩ s → ∀ (layout : SetLayout) (r : Except Error DescriptorSet) (c' : Context),
      (Context.allocate layout).run s.context = .ok r c' →
        (c'.device.log ≠ s.context.device.log → ∀ b ∈ s.context.pools.banks layout.key, b.free = []) ∧
        ((s.context.pools.banks layout.key).length < (c'.pools.banks layout.key).length →
          ∀ b ∈ s.context.pools.banks layout.key, b.free = [] ∧ b.len = b.cap)) ∧
    (∀ (s₀ s : PoolSession) (k : Key) (peak : Nat), ReflTransGen Step ⟨c₀, []⟩ s₀ →
      s₀.context.pools.banks k = [] → Since k s₀ s peak →
        ((s.context.pools.banks k).map fun b => (s.context.device.setsOf b.handle).length).sum = peak ∧
        (s.context.pools.banks k).length = (peak + s.context.pools.bankSize.toNat - 1) / s.context.pools.bankSize.toNat) := by
  refine ⟨fun s reach layout r c' run => ((Sound.start fresh).run reach).1.allocate_drains layout run, ?_⟩
  intro s₀ s k peak reach unused since
  have steady := (Steady.start ((Sound.start fresh).run reach).1 unused).run since
  rw [steady.sound.sets_made, steady.sound.length_banks k steady.occupied, steady.made]
  exact ⟨rfl, rfl⟩

-- With banks of one set, a layout allocates two sets, then releases the first: it keeps two banks, as
-- many as the most of its sets held at once.
theorem single_set_banks_match_peak :
    let layout : SetLayout :=
      { key := ⟨"k"⟩, name := "k", handle := ⟨.setLayout, 7⟩, slots := [some ⟨.vertex, .uniformBuffer, 1⟩] }
    let c₀ : Context := { (default : Context) with device := {}, pools := { bankSize := 1 } }
    ∃ (s : PoolSession) (peak : Nat), Since layout.key ⟨c₀, []⟩ s peak ∧ s.unreleased.length = 1 ∧
      (s.context.pools.banks layout.key).length = 2 ∧ peak = 2 := by
  intro layout c₀
  have fresh : Fresh c₀ := ⟨rfl, by decide, ⟨by simp [c₀], by simp [c₀], by simp [c₀]⟩, by simp [c₀, Device.SetsFiled]⟩
  -- two allocations and a release are computed once; their equations are what the theorem is applied to
  have ran : Act.answers ((Context.allocate layout).run c₀) (fun x₁ c₁ =>
      Act.answers ((Context.allocate layout).run c₁) fun _ c₂ =>
        Act.finishes ((Context.runDestroyer (.release x₁)).run c₂) fun _ c₃ =>
          decide (c₀.device.next ≤ c₁.device.next) && decide (c₁.device.next ≤ c₂.device.next) &&
            decide ((c₃.pools.banks layout.key).length = 2) && decide (c₃.pools.bankSize = 1)) = true := by
    cbv
  obtain ⟨x₁, c₁, first, ran⟩ := Act.answers_eq_true.mp ran
  obtain ⟨x₂, c₂, second, ran⟩ := Act.answers_eq_true.mp ran
  obtain ⟨⟨⟩, c₃, released, ran⟩ := Act.finishes_eq_true.mp ran
  simp only [Bool.and_eq_true, decide_eq_true_eq] at ran
  obtain ⟨⟨⟨grows₁, grows₂⟩, banks⟩, sized⟩ := ran
  have since : Since layout.key ⟨c₀, []⟩ ⟨c₃, [x₂]⟩ _ :=
    .step (.step (.step .start (.allocate layout first grows₁ fun _ _ refused => by cases refused))
      (.allocate layout second grows₂ fun _ _ refused => by cases refused))
      (.release [] [x₂] x₁ rfl released)
  obtain ⟨-, counted⟩ := (pools_grow_to_peak_in_fewest_banks fresh).2 _ _ layout.key _ .refl rfl since
  refine ⟨_, _, since, rfl, banks, ?_⟩
  rw [banks, sized] at counted
  simpa using counted.symm

end RenderCore.PoolSession
