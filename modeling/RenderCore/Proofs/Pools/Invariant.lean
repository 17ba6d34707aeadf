import RenderCore.Proofs.Pools.Actions
namespace RenderCore

def DescriptorSet.names (s : DescriptorSet) (k : Key) (index : Nat) (b : Bank) : Bool :=
  s.layout.key == k && s.bank == index && s.bankId == b.id

structure PoolSession where
  context : Context
  unreleased : List DescriptorSet

namespace PoolSession

def freeHandles (p : Pools) : List Handle :=
  p.allBanks.flatMap (·.free)

def setHandles (p : Pools) (unreleased : List DescriptorSet) : List Handle :=
  freeHandles p ++ unreleased.map (·.handle)

def madeFrom (unreleased : List DescriptorSet) (k : Key) (i : Nat) (b : Bank) : List DescriptorSet :=
  unreleased.filter (·.names k i b)

def Apart (p : Pools) : Prop :=
  ∀ (k : Key) (i : Nat) (b : Bank) (k' : Key) (j : Nat) (b' : Bank), (p.banks k)[i]? = some b →
    (p.banks k')[j]? = some b' → b.handle = b'.handle → k = k' ∧ i = j

structure Sound (c : Context) (unreleased : List DescriptorSet) : Prop where
  numbered : c.device.Numbered
  filed : c.device.SetsFiled
  sized : 0 < c.pools.bankSize
  keys : (c.pools.pools.map (·.1)).Nodup
  capped : ∀ b ∈ c.pools.allBanks, b.len ≤ b.cap ∧ b.cap = c.pools.bankSize
  full : ∀ k i b, (c.pools.banks k)[i]? = some b → i + 1 < (c.pools.banks k).length → b.len = b.cap
  ids : (c.pools.allBanks.map (·.id)).Nodup
  idsBelow : ∀ b ∈ c.pools.allBanks, b.id < c.pools.nextBankId
  setIdsBelow : ∀ x ∈ unreleased, x.bankId < c.pools.nextBankId
  poolHandles : (c.pools.allBanks.map (·.handle)).Nodup
  apart : Apart c.pools
  poolsLive : ∀ b ∈ c.pools.allBanks,
    b.handle.kind = .pool ∧ b.handle ∈ c.device.live ∧ b.handle.raw < c.device.next
  distinct : (setHandles c.pools unreleased).Nodup
  setsFresh : ∀ h ∈ setHandles c.pools unreleased, h.kind = .set ∧ h.raw < c.device.next
  made : ∀ k i b, (c.pools.banks k)[i]? = some b →
    (b.free ++ (madeFrom unreleased k i b).map (·.handle)).Perm (c.device.setsOf b.handle) ∧
      (c.device.setsOf b.handle).length = b.len.toNat

theorem moved_set (p : Pools) (k : Key) (i : Nat) (b' : Bank) (keys : (p.pools.map (·.1)).Nodup) :
    ∀ b ∈ (p.setBanks k ((p.banks k).set i b')).allBanks, b ∈ p.allBanks ∨ b = b' := fun b member =>
  (p.mem_allBanks_setBanks k _ keys b member).elim .inl fun inside =>
    (List.mem_or_eq_of_mem_set inside).elim (fun old => .inl (p.mem_allBanks k b old)) .inr

theorem mapped_set {β : Type} (f : Bank → β) (p : Pools) (k : Key) (i : Nat) (b b' : Bank)
    (keys : (p.pools.map (·.1)).Nodup) (found : (p.banks k)[i]? = some b) (agree : f b' = f b) :
    ((p.setBanks k ((p.banks k).set i b')).allBanks.map f).Perm (p.allBanks.map f) := by
  refine p.perm_map_allBanks_setBanks f k _ keys (List.ext_getElem? fun j => ?_)
  by_cases same : i = j
  · subst same
    obtain ⟨inside, position⟩ := List.getElem?_eq_some_iff.mp found
    simp [inside, agree, position]
  · simp [same]

theorem freed_set (p : Pools) (k : Key) (i : Nat) (b b' : Bank) (keys : (p.pools.map (·.1)).Nodup)
    (found : (p.banks k)[i]? = some b) :
    (freeHandles (p.setBanks k ((p.banks k).set i b')) ++ b.free).Perm (freeHandles p ++ b'.free) := by
  have whole := p.flatMap_allBanks_setBanks (·.free) k ((p.banks k).set i b') keys
  have single := Pools.flatMap_set (·.free) (p.banks k) i b b' found
  rw [List.perm_iff_count] at whole single ⊢
  intro h
  have wholeCount := whole h
  have singleCount := single h
  simp only [List.count_append] at wholeCount singleCount ⊢
  unfold freeHandles
  omega

theorem madeFrom_append_one (unreleased : List DescriptorSet) (x : DescriptorSet) (k : Key) (i : Nat) (b : Bank) :
    madeFrom (unreleased ++ [x]) k i b = madeFrom unreleased k i b ++ if x.names k i b then [x] else [] := by
  by_cases named : x.names k i b <;> simp [madeFrom, List.filter_append, named]

theorem madeFrom_of_id (unreleased : List DescriptorSet) (k : Key) (i : Nat) (b b' : Bank) (kept : b'.id = b.id) :
    madeFrom unreleased k i b' = madeFrom unreleased k i b := by
  simp [madeFrom, DescriptorSet.names, kept]

theorem madeFrom_append_own (unreleased : List DescriptorSet) (x : DescriptorSet) (k : Key) (i : Nat) (b b' : Bank)
    (key : x.layout.key = k) (index : x.bank = i) (same : x.bankId = b.id) (kept : b'.id = b.id) :
    madeFrom (unreleased ++ [x]) k i b' = madeFrom unreleased k i b ++ [x] := by
  have named : x.names k i b' = true := by simp [DescriptorSet.names, key, index, same, kept]
  rw [madeFrom_append_one, if_pos named, madeFrom_of_id unreleased k i b b' kept]

theorem madeFrom_remove (before after : List DescriptorSet) (x : DescriptorSet) (k : Key) (i : Nat) (b : Bank) :
    (madeFrom (before ++ x :: after) k i b).Perm
      ((if x.names k i b then [x] else []) ++ madeFrom (before ++ after) k i b) := by
  by_cases named : x.names k i b <;> simp [madeFrom, List.filter_append, named]

theorem madeFrom_append_other (unreleased : List DescriptorSet) (x : DescriptorSet) (k : Key) (j : Nat) (b : Bank)
    (other : ¬(k = x.layout.key ∧ j = x.bank)) : madeFrom (unreleased ++ [x]) k j b = madeFrom unreleased k j b := by
  have unnamed : x.names k j b = false := by
    simp only [DescriptorSet.names, Bool.and_eq_false_iff, beq_eq_false_iff_ne, ne_eq]
    by_cases key : k = x.layout.key
    · exact .inl (.inr fun same => other ⟨key, same.symm⟩)
    · exact .inl (.inl fun same => key same.symm)
  rw [madeFrom_append_one, unnamed]
  simp

theorem apart_set (p : Pools) (k : Key) (i : Nat) (b b' : Bank) (found : (p.banks k)[i]? = some b)
    (same : b'.handle = b.handle) (apart : Apart p) : Apart (p.setBanks k ((p.banks k).set i b')) := by
  -- every bank of the new pools sits where a bank on the same pool sat before
  have back (k' : Key) (j : Nat) (b'' : Bank) (position : ((p.setBanks k ((p.banks k).set i b')).banks k')[j]? = some b'') :
      ∃ old, (p.banks k')[j]? = some old ∧ old.handle = b''.handle := by
    rcases p.position_setBanks_set k i b' k' j b'' position with ⟨-, old⟩ | ⟨rfl, rfl, rfl⟩
    · exact ⟨b'', old, rfl⟩
    · exact ⟨b, found, same.symm⟩
  intro k₁ i₁ b₁ k₂ i₂ b₂ first second shared
  obtain ⟨old₁, position₁, handle₁⟩ := back k₁ i₁ b₁ first
  obtain ⟨old₂, position₂, handle₂⟩ := back k₂ i₂ b₂ second
  exact apart k₁ i₁ old₁ k₂ i₂ old₂ position₁ position₂ (handle₁.trans (shared.trans handle₂.symm))

-- Bank ids only move forward from `p` to `p'`: every bank of `p'` kept an id it had in `p`, or has
-- one that `p` had not issued yet.
structure Later (p p' : Pools) : Prop where
  issued : p.nextBankId ≤ p'.nextBankId
  kept : ∀ b ∈ p'.allBanks, b.id ∈ p.allBanks.map (·.id) ∨ p.nextBankId ≤ b.id

theorem Later.refl (p : Pools) : Later p p :=
  ⟨Nat.le_refl _, fun _ member => .inl (List.mem_map_of_mem member)⟩

theorem Later.trans {p p' p'' : Pools} (first : Later p p') (second : Later p' p'') : Later p p'' where
  issued := Nat.le_trans first.issued second.issued
  kept b member := by
    rcases second.kept b member with old | fresh
    · obtain ⟨b', member', same⟩ := List.mem_map.mp old
      rw [← same]
      exact first.kept b' member'
    · exact .inr (Nat.le_trans first.issued fresh)

theorem later_of_perm {p p' : Pools} (issued : p.nextBankId ≤ p'.nextBankId)
    (ids : (p'.allBanks.map (·.id)).Perm (p.allBanks.map (·.id))) : Later p p' :=
  ⟨issued, fun _ member => .inl (ids.mem_iff.mp (List.mem_map_of_mem member))⟩

theorem later_set (p : Pools) (k : Key) (i : Nat) (b b' : Bank) (keys : (p.pools.map (·.1)).Nodup)
    (found : (p.banks k)[i]? = some b) (same : b'.id = b.id) : Later p (p.setBanks k ((p.banks k).set i b')) :=
  later_of_perm (by simp) (mapped_set (·.id) p k i b b' keys found same)

theorem later_setBanks_same (p : Pools) (k : Key) (keys : (p.pools.map (·.1)).Nodup) :
    Later p (p.setBanks k (p.banks k)) :=
  later_of_perm (by simp) (p.perm_map_allBanks_setBanks (·.id) k _ keys rfl)

theorem later_grow (p : Pools) (k : Key) (fresh : Bank) (keys : (p.pools.map (·.1)).Nodup)
    (issued : fresh.id = p.nextBankId) :
    Later p (({ p with nextBankId := p.nextBankId + 1 } : Pools).setBanks k (p.banks k ++ [fresh])) where
  issued := by simp
  kept b member := by
    rcases Pools.mem_allBanks_setBanks { p with nextBankId := p.nextBankId + 1 } k _ keys b member with old | new
    · exact .inl (List.mem_map_of_mem old)
    · rcases List.mem_append.mp new with old | single
      · exact .inl (List.mem_map_of_mem (p.mem_allBanks k b old))
      · rw [List.mem_singleton.mp single, issued]
        exact .inr (Nat.le_refl _)

variable {c : Context} {unreleased : List DescriptorSet}

theorem Sound.withPool (sound : Sound c unreleased) (layout : SetLayout) :
    Sound (Context.withPool layout c) unreleased := by
  have sameBanks : ∀ k, (c.pools.setBanks layout.key (c.pools.banks layout.key)).banks k = c.pools.banks k := by
    intro k
    by_cases same : k = layout.key <;> simp [same]
  have keys := sound.keys
  have moved (b : Bank) (member : b ∈ (c.pools.setBanks layout.key (c.pools.banks layout.key)).allBanks) :
      b ∈ c.pools.allBanks :=
    (c.pools.mem_allBanks_setBanks _ _ keys b member).elim id (c.pools.mem_allBanks _ b)
  have sameFree : (freeHandles (c.pools.setBanks layout.key (c.pools.banks layout.key))).Perm (freeHandles c.pools) :=
    (List.perm_append_right_iff _).mp (c.pools.flatMap_allBanks_setBanks (·.free) layout.key _ keys)
  refine
    { numbered := sound.numbered
      filed := sound.filed
      sized := by simpa using sound.sized
      keys := c.pools.keys_setBanks _ _ keys
      capped := fun b member => by simpa using sound.capped b (moved b member)
      full := fun k i b => by simpa only [sameBanks] using sound.full k i b
      ids := (c.pools.perm_map_allBanks_setBanks (·.id) _ _ keys rfl).nodup_iff.mpr sound.ids
      idsBelow := fun b member => by simpa using sound.idsBelow b (moved b member)
      setIdsBelow := fun x member => by simpa using sound.setIdsBelow x member
      poolHandles := (c.pools.perm_map_allBanks_setBanks (·.handle) _ _ keys rfl).nodup_iff.mpr sound.poolHandles
      poolsLive := fun b member => sound.poolsLive b (moved b member)
      apart := fun k i b k' j b' => by simpa only [sameBanks] using sound.apart k i b k' j b'
      distinct := (sameFree.append_right _).nodup_iff.mpr sound.distinct
      setsFresh := fun h member => sound.setsFresh h ((sameFree.append_right _).mem_iff.mp member)
      made := fun k i b => by simpa only [sameBanks] using sound.made k i b }

theorem Sound.disarm (sound : Sound c unreleased) (failNext : Option (HandleKind × DeviceFailure)) :
    Sound { c with device := { c.device with failNext } } unreleased := by
  obtain ⟨⟨live, pools, sets⟩, filed, sized, keys, capped, full, ids, idsBelow, setIdsBelow, poolHandles, apart,
    poolsLive, distinct, setsFresh, made⟩ := sound
  exact ⟨⟨live, pools, sets⟩, filed, sized, keys, capped, full, ids, idsBelow, setIdsBelow, poolHandles, apart,
    poolsLive, distinct, setsFresh, made⟩

end PoolSession

end RenderCore
