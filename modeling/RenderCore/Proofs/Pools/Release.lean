import RenderCore.Proofs.Pools.Allocation
namespace RenderCore.PoolSession

variable {c : Context} {before after : List DescriptorSet} {x : DescriptorSet}

theorem Sound.of_no_banks (c : Context) (unreleased : List DescriptorSet) (empty : c.pools.pools = [])
    (numbered : c.device.Numbered) (filed : c.device.SetsFiled) (sized : 0 < c.pools.bankSize)
    (setIdsBelow : ∀ x ∈ unreleased, x.bankId < c.pools.nextBankId) (distinct : (unreleased.map (·.handle)).Nodup)
    (setsFresh : ∀ h ∈ unreleased.map (·.handle), h.kind = .set ∧ h.raw < c.device.next) :
    Sound c unreleased := by
  have noBanks : ∀ k, c.pools.banks k = [] := fun k => by simp [Pools.banks, empty]
  have none : c.pools.allBanks = [] := by simp [Pools.allBanks, empty]
  have free : freeHandles c.pools = [] := by simp [freeHandles, none]
  exact
    { numbered, filed, sized, setIdsBelow
      keys := by simp [empty]
      capped := by simp [none]
      full := by simp [noBanks]
      ids := by simp [none]
      idsBelow := by simp [none]
      poolHandles := by simp [none]
      apart := by simp [Apart, noBanks]
      poolsLive := by simp [none]
      distinct := by simpa [setHandles, free] using distinct
      setsFresh := by simpa [setHandles, free] using setsFresh
      made := by simp [noBanks] }

theorem Sound.forget (sound : Sound c (before ++ x :: after))
    (stale : ∀ b, (c.pools.banks x.layout.key)[x.bank]? = some b → b.id ≠ x.bankId) : Sound c (before ++ after) := by
  have kept : List.Sublist (before ++ after) (before ++ x :: after) := (List.sublist_cons_self x after).append_left before
  have handles : List.Sublist (setHandles c.pools (before ++ after)) (setHandles c.pools (before ++ x :: after)) :=
    (kept.map _).append_left _
  refine { sound with
    setIdsBelow := fun s member => sound.setIdsBelow s (kept.subset member)
    distinct := handles.nodup sound.distinct
    setsFresh := fun h member => sound.setsFresh h (handles.subset member)
    made := fun k i b found => ?_ }
  -- the set names no bank, so no bank's sets change
  have unnamed : x.names k i b = false := by
    simp only [DescriptorSet.names, Bool.and_eq_false_iff, beq_eq_false_iff_ne, ne_eq]
    by_cases place : k = x.layout.key ∧ i = x.bank
    · obtain ⟨rfl, rfl⟩ := place
      exact .inr fun same => stale b found same.symm
    · by_cases key : k = x.layout.key
      · exact .inl (.inr fun index => place ⟨key, index.symm⟩)
      · exact .inl (.inl fun same => key same.symm)
  have moved := madeFrom_remove before after x k i b
  rw [unnamed, if_neg Bool.false_ne_true, List.nil_append] at moved
  obtain ⟨perm, counted⟩ := sound.made k i b found
  exact ⟨((moved.map _).append_left _).symm.trans perm, counted⟩

theorem Sound.giveBack (sound : Sound c (before ++ x :: after)) {b : Bank}
    (found : (c.pools.banks x.layout.key)[x.bank]? = some b) (same : b.id = x.bankId) :
    Sound
      { c with
        pools := c.pools.setBanks x.layout.key
          ((c.pools.banks x.layout.key).set x.bank { b with free := b.free ++ [x.handle] }) }
      (before ++ after) := by
  have keys := sound.keys
  have member : b ∈ c.pools.allBanks := c.pools.mem_allBanks _ b (List.mem_of_getElem? found)
  let freed : Bank := { b with free := b.free ++ [x.handle] }
  have kept : List.Sublist (before ++ after) (before ++ x :: after) := (List.sublist_cons_self x after).append_left before
  -- the handle moves from the sets handed out to the free list
  have handles : (setHandles (c.pools.setBanks x.layout.key ((c.pools.banks x.layout.key).set x.bank freed))
      (before ++ after)).Perm (setHandles c.pools (before ++ x :: after)) := by
    have moved := freed_set c.pools x.layout.key x.bank b freed keys found
    rw [List.perm_iff_count] at moved ⊢
    intro a
    have counted := moved a
    simp only [setHandles, freed, List.map_append, List.map_cons, List.count_append, List.count_cons,
      List.count_nil] at counted ⊢
    omega
  have moved := moved_set c.pools x.layout.key x.bank freed keys
  refine
    { numbered := sound.numbered
      filed := sound.filed
      sized := by simpa using sound.sized
      keys := c.pools.keys_setBanks _ _ keys
      capped := fun b' member' => ?capped
      full := fun k j b' found' longer => ?full
      ids := (mapped_set (·.id) c.pools _ _ b freed keys found rfl).nodup_iff.mpr sound.ids
      idsBelow := fun b' member' => ?idsBelow
      setIdsBelow := fun s member' => ?setIdsBelow
      poolHandles := (mapped_set (·.handle) c.pools _ _ b freed keys found rfl).nodup_iff.mpr sound.poolHandles
      apart := apart_set c.pools _ _ b freed found rfl sound.apart
      poolsLive := fun b' member' => ?poolsLive
      distinct := handles.nodup_iff.mpr sound.distinct
      setsFresh := fun h member' => sound.setsFresh h (handles.mem_iff.mp member')
      made := fun k j b' found' => ?made }
  case capped =>
    simp only [Pools.bankSize_setBanks]
    rcases moved b' member' with old | rfl
    · exact sound.capped b' old
    · exact sound.capped b member
  case full =>
    rw [Pools.length_setBanks_set] at longer
    rcases c.pools.position_setBanks_set _ _ _ k j b' found' with ⟨-, old⟩ | ⟨rfl, rfl, rfl⟩
    · exact sound.full k j b' old longer
    · exact sound.full _ _ b found longer
  case idsBelow =>
    simp only [Pools.nextBankId_setBanks]
    rcases moved b' member' with old | rfl
    · exact sound.idsBelow b' old
    · exact sound.idsBelow b member
  case setIdsBelow =>
    simp only [Pools.nextBankId_setBanks]
    exact sound.setIdsBelow s (kept.subset member')
  case poolsLive =>
    rcases moved b' member' with old | rfl
    · exact sound.poolsLive b' old
    · exact sound.poolsLive b member
  case made =>
    rcases c.pools.position_setBanks_set _ _ _ k j b' found' with ⟨other, old⟩ | ⟨rfl, rfl, rfl⟩
    · -- another bank: the released set does not name it
      have unnamed : x.names k j b' = false := by
        simp only [DescriptorSet.names, Bool.and_eq_false_iff, beq_eq_false_iff_ne, ne_eq]
        by_cases key : k = x.layout.key
        · exact .inl (.inr fun index => other ⟨key, index.symm⟩)
        · exact .inl (.inl fun same => key same.symm)
      have moved := madeFrom_remove before after x k j b'
      rw [unnamed, if_neg Bool.false_ne_true, List.nil_append] at moved
      obtain ⟨perm, counted⟩ := sound.made k j b' old
      exact ⟨((moved.map _).append_left _).symm.trans perm, counted⟩
    · have named : x.names x.layout.key x.bank b = true := by simp [DescriptorSet.names, same]
      have moved := madeFrom_remove before after x x.layout.key x.bank b
      rw [named, if_pos rfl] at moved
      obtain ⟨perm, counted⟩ := sound.made _ _ b found
      rw [madeFrom_of_id _ _ _ b freed rfl]
      refine ⟨List.Perm.trans ?_ perm, counted⟩
      -- the handle left the sets naming the bank and went to the end of its free list
      have shifted : (b.free ++ [x.handle] ++ (madeFrom (before ++ after) x.layout.key x.bank b).map (·.handle)).Perm
          (b.free ++ ([x] ++ madeFrom (before ++ after) x.layout.key x.bank b).map (·.handle)) := by
        simp
      exact shifted.trans ((moved.map _).append_left _).symm

theorem Sound.release (sound : Sound c (before ++ x :: after)) :
    Sound { c with pools := c.pools.release x } (before ++ after) := by
  by_cases named : ∃ b, (c.pools.banks x.layout.key)[x.bank]? = some b ∧ b.id = x.bankId
  · obtain ⟨b, found, same⟩ := named
    rw [c.pools.release_of_bank x b found same]
    exact sound.giveBack found same
  · rw [c.pools.release_of_stale x fun b found same => named ⟨b, found, same⟩]
    exact sound.forget fun b found same => named ⟨b, found, same⟩

theorem later_release (p : Pools) (x : DescriptorSet) (keys : (p.pools.map (·.1)).Nodup) : Later p (p.release x) := by
  by_cases named : ∃ b, (p.banks x.layout.key)[x.bank]? = some b ∧ b.id = x.bankId
  · obtain ⟨b, found, same⟩ := named
    rw [p.release_of_bank x b found same]
    exact later_set p _ _ b _ keys found rfl
  · rw [p.release_of_stale x fun b found same => named ⟨b, found, same⟩]
    exact Later.refl p

-- The teardown loop, with the banks still to go: their pools are distinct and live, and the pools
-- record is already empty.
structure Draining (c₀ : Context) (rest : List Bank) (c : Context) : Prop where
  pools : c.pools = { c₀.pools with pools := [] }
  next : c.device.next = c₀.device.next
  numbered : c.device.Numbered
  filed : c.device.SetsFiled
  distinct : (rest.map (·.handle)).Nodup
  live : ∀ b ∈ rest, b.handle.kind = .pool ∧ b.handle ∈ c.device.live

theorem Draining.step {c₀ : Context} {b : Bank} {rest : List Bank} (draining : Draining c₀ (b :: rest) c) :
    ∃ c', (Context.device! (Device.destroy b.handle)).run c = .ok () c' ∧ Draining c₀ rest c' := by
  obtain ⟨-, live⟩ := draining.live b (List.mem_cons_self ..)
  have split := draining.distinct
  rw [List.map_cons, List.nodup_cons] at split
  obtain ⟨fresh, distinct⟩ := split
  refine ⟨_, by rw [Context.run_device!, Device.run_destroy_live _ _ live], ?_⟩
  refine
    { pools := draining.pools
      next := draining.next
      numbered := Device.numbered_destroy _ draining.numbered _
      filed := Device.setsFiled_destroy _ draining.filed _
      distinct
      live := fun b' member => ?_ }
  obtain ⟨pool, live'⟩ := draining.live b' (List.mem_cons_of_mem _ member)
  -- the other pool survives: it is not the one destroyed, and it is no set of it
  have other : b'.handle ≠ b.handle := fun same => fresh (same ▸ List.mem_map_of_mem member)
  have unfiled := Device.not_mem_setsOf c.device draining.filed b.handle b'.handle pool
  refine ⟨pool, List.mem_filter.mpr ⟨(List.mem_erase_of_ne other).mpr live', ?_⟩⟩
  simpa using unfiled

theorem Sound.destroyPools {unreleased : List DescriptorSet} (sound : Sound c unreleased) :
    ∃ c', Context.destroyPools.run c = .ok c.pools.allBanks.length c' ∧
      c'.pools = { c.pools with pools := [] } ∧ Sound c' unreleased := by
  have start : Draining c c.pools.allBanks { c with pools := { c.pools with pools := [] } } :=
    { pools := rfl
      next := rfl
      numbered := sound.numbered
      filed := sound.filed
      distinct := sound.poolHandles
      live := fun b member => ⟨(sound.poolsLive b member).1, (sound.poolsLive b member).2.1⟩ }
  obtain ⟨c', loop, drained⟩ := Act.run_forIn_of_step c.pools.allBanks
    (fun b _ => do Context.device! (Device.destroy b.handle); pure (ForInStep.yield ())) (Draining c)
    (fun _ _ _ draining => by
      obtain ⟨c', ran, next⟩ := draining.step
      exact ⟨c', by simp [ran], next⟩) _ start
  refine ⟨c', Context.run_destroyPools c c' loop, drained.pools, ?_⟩
  have handed := (List.nodup_append.mp sound.distinct).2.1
  refine Sound.of_no_banks c' unreleased (by rw [drained.pools]) drained.numbered drained.filed
    (by rw [drained.pools]; exact sound.sized) (by rw [drained.pools]; exact sound.setIdsBelow) handed ?_
  intro h member
  rw [drained.next]
  exact sound.setsFresh h (List.mem_append_right _ member)

end RenderCore.PoolSession
