import RenderCore.Proofs.Pools.Invariant
namespace RenderCore.PoolSession

theorem succ_le_of_lt (a b : UInt32) (lt : a < b) : a + 1 ≤ b := by
  have bound := b.toNat_lt
  simp only [UInt32.le_iff_toNat_le, UInt32.lt_iff_toNat_lt, UInt32.toNat_add, UInt32.toNat_one] at lt ⊢
  omega

theorem toNat_succ_of_lt (a b : UInt32) (lt : a < b) : (a + 1).toNat = a.toNat + 1 := by
  have bound := b.toNat_lt
  simp only [UInt32.lt_iff_toNat_lt, UInt32.toNat_add, UInt32.toNat_one] at lt ⊢
  omega

theorem roomy_of_available (b : Bank) (available : b.available = true) (empty : b.free = []) : b.len < b.cap := by
  simpa [Bank.available, empty] using available

variable {c : Context} {unreleased : List DescriptorSet}

theorem Sound.grow (sound : Sound c unreleased) (k : Key) (name : String)
    (exhausted : ∀ b ∈ c.pools.banks k, b.available = false) (room : c.device.next < c.device.next + 1) :
    Sound
      { c with
        device :=
          { c.device with
            next := c.device.next + 1
            live := c.device.live ++ [⟨.pool, c.device.next⟩]
            log := c.device.log.push (.create ⟨.pool, c.device.next⟩) }
        pools :=
          ({ c.pools with nextBankId := c.pools.nextBankId + 1 } : Pools).setBanks k
            (c.pools.banks k ++
              [{ id := c.pools.nextBankId, name, handle := ⟨.pool, c.device.next⟩, len := 0,
                 cap := c.pools.bankSize }]) }
      unreleased := by
  have keys : (c.pools.pools.map (·.1)).Nodup := sound.keys
  let grown : Pools := { c.pools with nextBankId := c.pools.nextBankId + 1 }
  let fresh : Bank :=
    { id := c.pools.nextBankId, name, handle := ⟨.pool, c.device.next⟩, len := 0, cap := c.pools.bankSize }
  have moved (b : Bank) (member : b ∈ (grown.setBanks k (c.pools.banks k ++ [fresh])).allBanks) :
      b ∈ c.pools.allBanks ∨ b = fresh := by
    rcases grown.mem_allBanks_setBanks k _ keys b member with old | new
    · exact .inl old
    · rcases List.mem_append.mp new with old | single
      · exact .inl (c.pools.mem_allBanks k b old)
      · exact .inr (List.mem_singleton.mp single)
  have mapped {β : Type} (f : Bank → β) :
      ((grown.setBanks k (c.pools.banks k ++ [fresh])).allBanks.map f).Perm (c.pools.allBanks.map f ++ [f fresh]) := by
    have joined : ((grown.setBanks k (c.pools.banks k ++ [fresh])).allBanks.flatMap fun b => [f b]).Perm
        (c.pools.allBanks.flatMap (fun b => [f b]) ++ [fresh].flatMap fun b => [f b]) :=
      grown.flatMap_allBanks_setBanks_append (fun b => [f b]) k [fresh] keys
    simpa only [← List.map_eq_flatMap, List.flatMap_singleton] using joined
  have freed : (freeHandles (grown.setBanks k (c.pools.banks k ++ [fresh]))).Perm (freeHandles c.pools) := by
    have joined : ((grown.setBanks k (c.pools.banks k ++ [fresh])).allBanks.flatMap (·.free)).Perm
        (c.pools.allBanks.flatMap (·.free) ++ [fresh].flatMap (·.free)) :=
      grown.flatMap_allBanks_setBanks_append (·.free) k [fresh] keys
    simpa [freeHandles, fresh] using joined
  -- the old banks sit where they sat; the new one is last, on a pool numbered after all others
  have placed (k' : Key) (j : Nat) (b : Bank)
      (found : ((grown.setBanks k (c.pools.banks k ++ [fresh])).banks k')[j]? = some b) :
      (c.pools.banks k')[j]? = some b ∨ (k' = k ∧ j = (c.pools.banks k).length ∧ b = fresh) := by
    have position := grown.position_setBanks_append k fresh k' j b found
    simpa only [Pools.banks] using position
  have older (k' : Key) (j : Nat) (b : Bank) (found : (c.pools.banks k')[j]? = some b) :
      b.handle ≠ fresh.handle := by
    intro same
    have below := (sound.poolsLive b (c.pools.mem_allBanks k' b (List.mem_of_getElem? found))).2.2
    rw [same] at below
    exact UInt64.lt_irrefl _ below
  refine
    { numbered := Device.numbered_create_fresh c.device sound.numbered .pool room
      filed := sound.filed
      sized := by simpa using sound.sized
      keys := grown.keys_setBanks k _ keys
      capped := fun b member => ?capped
      full := fun k' j b found longer => ?full
      ids := (mapped (·.id)).nodup_iff.mpr ?ids
      idsBelow := fun b member => ?idsBelow
      setIdsBelow := fun x member => by simpa using Nat.lt_succ_of_lt (sound.setIdsBelow x member)
      poolHandles := (mapped (·.handle)).nodup_iff.mpr ?poolHandles
      apart := fun k₁ i₁ b₁ k₂ i₂ b₂ first second shared => ?apart
      poolsLive := fun b member => ?poolsLive
      distinct := (freed.append_right _).nodup_iff.mpr sound.distinct
      setsFresh := fun h member => ?setsFresh
      made := fun k' j b found => ?made }
  case capped =>
    simp only [Pools.bankSize_setBanks]
    rcases moved b member with old | rfl
    · exact sound.capped b old
    · exact ⟨UInt32.zero_le, rfl⟩
  case full =>
    rcases placed k' j b found with old | ⟨rfl, rfl, -⟩
    · by_cases key : k' = k
      · -- a bank before the new one: it had no room left, so it is full
        subst key
        have member : b ∈ c.pools.banks k' := List.mem_of_getElem? old
        have unavailable := exhausted b member
        have bounds := sound.capped b (c.pools.mem_allBanks k' b member)
        simp only [Bank.available, Bool.or_eq_false_iff, Bool.not_eq_false', List.isEmpty_iff,
          decide_eq_false_iff_not, UInt32.not_lt] at unavailable
        exact UInt32.le_antisymm bounds.1 unavailable.2
      · simp only [Pools.banks_setBanks, key, if_false] at longer
        exact sound.full k' j b old longer
    · simp at longer
  case ids =>
    refine List.nodup_append.mpr ⟨sound.ids, by simp, ?_⟩
    intro a old b single
    obtain ⟨bank, member, rfl⟩ := List.mem_map.mp old
    simp only [List.mem_singleton] at single
    exact single ▸ Nat.ne_of_lt (sound.idsBelow bank member)
  case idsBelow =>
    simp only [Pools.nextBankId_setBanks]
    rcases moved b member with old | rfl
    · exact Nat.lt_succ_of_lt (sound.idsBelow b old)
    · exact Nat.lt_succ_self _
  case poolHandles =>
    refine List.nodup_append.mpr ⟨sound.poolHandles, by simp, ?_⟩
    intro a old b single
    obtain ⟨bank, member, rfl⟩ := List.mem_map.mp old
    simp only [List.mem_singleton] at single
    obtain ⟨k', j, found⟩ := c.pools.exists_of_mem_allBanks keys bank member
    exact single ▸ older k' j bank found
  case apart =>
    rcases placed k₁ i₁ b₁ first with old₁ | ⟨rfl, rfl, rfl⟩ <;>
      rcases placed k₂ i₂ b₂ second with old₂ | ⟨rfl, rfl, rfl⟩
    · exact sound.apart k₁ i₁ b₁ k₂ i₂ b₂ old₁ old₂ shared
    · exact absurd shared (older k₁ i₁ b₁ old₁)
    · exact absurd shared.symm (older k₂ i₂ b₂ old₂)
    · exact ⟨rfl, rfl⟩
  case poolsLive =>
    rcases moved b member with old | rfl
    · obtain ⟨kind, live, below⟩ := sound.poolsLive b old
      exact ⟨kind, List.mem_append_left _ live, UInt64.lt_trans below room⟩
    · exact ⟨rfl, List.mem_append_right _ (List.mem_singleton_self _), room⟩
  case setsFresh =>
    obtain ⟨kind, below⟩ := sound.setsFresh h ((freed.append_right _).mem_iff.mp member)
    exact ⟨kind, UInt64.lt_trans below room⟩
  case made =>
    have sameSets : ∀ q, Device.setsOf
        { c.device with
          next := c.device.next + 1
          live := c.device.live ++ [⟨.pool, c.device.next⟩]
          log := c.device.log.push (.create ⟨.pool, c.device.next⟩) } q = c.device.setsOf q := fun _ => rfl
    simp only [sameSets]
    rcases placed k' j b found with old | ⟨rfl, rfl, rfl⟩
    · exact sound.made k' j b old
    · -- the new bank's pool is fresh: no set was made from it, and none names its id
      have none : madeFrom unreleased k' (c.pools.banks k').length fresh = [] := by
        refine List.filter_eq_nil_iff.mpr fun x member => ?_
        have below := sound.setIdsBelow x member
        simp only [DescriptorSet.names, Bool.and_eq_true, beq_iff_eq, not_and]
        intro _ same
        exact Nat.ne_of_lt below same
      simp [none, fresh, Device.setsOf_eq_nil_of_fresh c.device sound.numbered ⟨.pool, c.device.next⟩ (UInt64.le_refl _)]

theorem Sound.reuse (sound : Sound c unreleased) (layout : SetLayout) (i : Nat) (b : Bank)
    (found : (c.pools.banks layout.key)[i]? = some b) (h : Handle) (last : b.free.getLast? = some h) :
    Sound
      { c with pools := c.pools.setBanks layout.key ((c.pools.banks layout.key).set i { b with free := b.free.dropLast }) }
      (unreleased ++ [{ layout, handle := h, bank := i, bankId := b.id }]) := by
  have keys := sound.keys
  have member : b ∈ c.pools.allBanks := c.pools.mem_allBanks _ b (List.mem_of_getElem? found)
  obtain ⟨kept, split⟩ := List.getLast?_eq_some_iff.mp last
  have dropped : b.free.dropLast = kept := by rw [split, List.dropLast_concat]
  rw [dropped]
  let x : DescriptorSet := { layout, handle := h, bank := i, bankId := b.id }
  -- the popped handle moves from the free list to the sets handed out
  have handles : (setHandles (c.pools.setBanks layout.key ((c.pools.banks layout.key).set i { b with free := kept }))
      (unreleased ++ [x])).Perm (setHandles c.pools unreleased) := by
    have freed := freed_set c.pools layout.key i b { b with free := kept } keys found
    rw [List.perm_iff_count] at freed ⊢
    intro a
    have counted := freed a
    rw [split] at counted
    simp only [setHandles, x, List.map_append, List.count_append, List.map_cons, List.map_nil] at counted ⊢
    omega
  have moved := moved_set c.pools layout.key i { b with free := kept } keys
  refine
    { numbered := sound.numbered
      filed := sound.filed
      sized := by simpa using sound.sized
      keys := c.pools.keys_setBanks _ _ keys
      capped := fun b' member' => ?capped
      full := fun k j b' found' longer => ?full
      ids := (mapped_set (·.id) c.pools _ i b { b with free := kept } keys found rfl).nodup_iff.mpr sound.ids
      idsBelow := fun b' member' => ?idsBelow
      setIdsBelow := fun x' member' => ?setIdsBelow
      poolHandles := (mapped_set (·.handle) c.pools _ i b { b with free := kept } keys found rfl).nodup_iff.mpr sound.poolHandles
      apart := apart_set c.pools _ i b _ found rfl sound.apart
      poolsLive := fun b' member' => ?poolsLive
      distinct := handles.nodup_iff.mpr sound.distinct
      setsFresh := fun a member' => sound.setsFresh a (handles.mem_iff.mp member')
      made := fun k j b' found' => ?made }
  case capped =>
    simp only [Pools.bankSize_setBanks]
    rcases moved b' member' with old | rfl
    · exact sound.capped b' old
    · exact sound.capped b member
  case full =>
    rw [Pools.length_setBanks_set] at longer
    rcases c.pools.position_setBanks_set _ i _ k j b' found' with ⟨-, old⟩ | ⟨rfl, rfl, rfl⟩
    · exact sound.full k j b' old longer
    · exact sound.full _ _ b found longer
  case idsBelow =>
    simp only [Pools.nextBankId_setBanks]
    rcases moved b' member' with old | rfl
    · exact sound.idsBelow b' old
    · exact sound.idsBelow b member
  case setIdsBelow =>
    simp only [Pools.nextBankId_setBanks]
    rcases List.mem_append.mp member' with old | single
    · exact sound.setIdsBelow x' old
    · rw [List.mem_singleton.mp single]
      exact sound.idsBelow b member
  case poolsLive =>
    rcases moved b' member' with old | rfl
    · exact sound.poolsLive b' old
    · exact sound.poolsLive b member
  case made =>
    rcases c.pools.position_setBanks_set _ i _ k j b' found' with ⟨other, old⟩ | ⟨rfl, rfl, rfl⟩
    · rw [madeFrom_append_other unreleased x k j b' other]
      exact sound.made k j b' old
    · obtain ⟨perm, counted⟩ := sound.made _ _ _ found
      rw [madeFrom_append_own unreleased x layout.key j b { b with free := kept } rfl rfl rfl rfl]
      refine ⟨List.Perm.trans ?_ perm, counted⟩
      -- the handle left the end of the free list and joined the sets made from the bank
      rw [split, List.map_append, List.append_assoc]
      exact List.Perm.append_left kept List.perm_append_comm

theorem Sound.make (sound : Sound c unreleased) (layout : SetLayout) (i : Nat) (b : Bank)
    (found : (c.pools.banks layout.key)[i]? = some b) (empty : b.free = []) (roomy : b.len < b.cap)
    (room : c.device.next < c.device.next + 1) :
    Sound
      { c with
        device :=
          { c.device with
            next := c.device.next + 1
            live := c.device.live ++ [⟨.set, c.device.next⟩]
            log := c.device.log.push (.create ⟨.set, c.device.next⟩)
            poolSets :=
              (b.handle, c.device.setsOf b.handle ++ [⟨.set, c.device.next⟩]) ::
                c.device.poolSets.filter (·.1 != b.handle) }
        pools := c.pools.setBanks layout.key ((c.pools.banks layout.key).set i { b with len := b.len + 1 }) }
      (unreleased ++ [{ layout, handle := ⟨.set, c.device.next⟩, bank := i, bankId := b.id }]) := by
  have keys := sound.keys
  have member : b ∈ c.pools.allBanks := c.pools.mem_allBanks _ b (List.mem_of_getElem? found)
  let x : DescriptorSet := { layout, handle := ⟨.set, c.device.next⟩, bank := i, bankId := b.id }
  -- the free lists stay as they were; the new handle joins the sets handed out
  have handles : (setHandles (c.pools.setBanks layout.key ((c.pools.banks layout.key).set i { b with len := b.len + 1 }))
      (unreleased ++ [x])).Perm (setHandles c.pools unreleased ++ [x.handle]) := by
    have freed := freed_set c.pools layout.key i b { b with len := b.len + 1 } keys found
    rw [List.perm_append_right_iff] at freed
    simpa only [setHandles, List.map_append, List.map_cons, List.map_nil, List.append_assoc] using
      freed.append_right _
  have fresh : x.handle ∉ setHandles c.pools unreleased := fun listed =>
    UInt64.lt_irrefl _ (sound.setsFresh _ listed).2
  have moved := moved_set c.pools layout.key i { b with len := b.len + 1 } keys
  have known := (sound.poolsLive b member).2.2
  have sameSets : ∀ q, Device.setsOf
      { c.device with
        next := c.device.next + 1
        live := c.device.live ++ [⟨.set, c.device.next⟩]
        log := c.device.log.push (.create ⟨.set, c.device.next⟩)
        poolSets :=
          (b.handle, c.device.setsOf b.handle ++ [⟨.set, c.device.next⟩]) ::
            c.device.poolSets.filter (·.1 != b.handle) } q =
      if q = b.handle then c.device.setsOf b.handle ++ [⟨.set, c.device.next⟩] else c.device.setsOf q :=
    fun q => Device.setsOf_file c.device b.handle q _
  refine
    { numbered := Device.numbered_create_from c.device sound.numbered .set b.handle known room
      filed := Device.setsFiled_create_from c.device sound.filed b.handle
      sized := by simpa using sound.sized
      keys := c.pools.keys_setBanks _ _ keys
      capped := fun b' member' => ?capped
      full := fun k j b' found' longer => ?full
      ids := (mapped_set (·.id) c.pools _ i b { b with len := b.len + 1 } keys found rfl).nodup_iff.mpr sound.ids
      idsBelow := fun b' member' => ?idsBelow
      setIdsBelow := fun x' member' => ?setIdsBelow
      poolHandles := (mapped_set (·.handle) c.pools _ i b { b with len := b.len + 1 } keys found rfl).nodup_iff.mpr sound.poolHandles
      apart := apart_set c.pools _ i b _ found rfl sound.apart
      poolsLive := fun b' member' => ?poolsLive
      distinct := handles.nodup_iff.mpr (List.nodup_append.mpr ⟨sound.distinct, by simp, ?distinct⟩)
      setsFresh := fun a member' => ?setsFresh
      made := fun k j b' found' => ?made }
  case capped =>
    simp only [Pools.bankSize_setBanks]
    rcases moved b' member' with old | rfl
    · exact sound.capped b' old
    · exact ⟨succ_le_of_lt _ _ roomy, (sound.capped b member).2⟩
  case full =>
    rw [Pools.length_setBanks_set] at longer
    rcases c.pools.position_setBanks_set _ i _ k j b' found' with ⟨-, old⟩ | ⟨rfl, rfl, rfl⟩
    · exact sound.full k j b' old longer
    · -- only the last bank of a layout has room
      exact absurd (sound.full _ _ b found longer) (UInt32.ne_of_lt roomy)
  case idsBelow =>
    simp only [Pools.nextBankId_setBanks]
    rcases moved b' member' with old | rfl
    · exact sound.idsBelow b' old
    · exact sound.idsBelow b member
  case setIdsBelow =>
    simp only [Pools.nextBankId_setBanks]
    rcases List.mem_append.mp member' with old | single
    · exact sound.setIdsBelow x' old
    · rw [List.mem_singleton.mp single]
      exact sound.idsBelow b member
  case poolsLive =>
    rcases moved b' member' with old | rfl
    all_goals
      obtain ⟨kind, live, below⟩ := sound.poolsLive _ (by assumption)
      exact ⟨kind, List.mem_append_left _ live, UInt64.lt_trans below room⟩
  case distinct =>
    intro a listed a' single
    rw [List.mem_singleton.mp single]
    exact fun same => fresh (same ▸ listed)
  case setsFresh =>
    rcases List.mem_append.mp (handles.mem_iff.mp member') with old | single
    · obtain ⟨kind, below⟩ := sound.setsFresh a old
      exact ⟨kind, UInt64.lt_trans below room⟩
    · rw [List.mem_singleton.mp single]
      exact ⟨rfl, room⟩
  case made =>
    simp only [sameSets]
    rcases c.pools.position_setBanks_set _ i _ k j b' found' with ⟨other, old⟩ | ⟨rfl, rfl, rfl⟩
    · -- another bank sits on another pool, whose sets did not change
      have apartFrom : b'.handle ≠ b.handle := fun same => other (sound.apart k j b' _ i b old found same)
      rw [madeFrom_append_other unreleased x k j b' other, if_neg apartFrom]
      exact sound.made k j b' old
    · obtain ⟨perm, counted⟩ := sound.made _ _ _ found
      rw [madeFrom_append_own unreleased x layout.key j b { b with len := b.len + 1 } rfl rfl rfl rfl, if_pos rfl]
      refine ⟨?_, ?_⟩
      · rw [empty, List.nil_append] at perm
        simp only [empty, List.nil_append, List.map_append, List.map_cons, List.map_nil]
        exact perm.append_right _
      · simp only [List.length_append, List.length_singleton, counted]
        exact (toNat_succ_of_lt _ _ roomy).symm

def handOut (unreleased : List DescriptorSet) : Except Error DescriptorSet → List DescriptorSet
  | .ok s => unreleased ++ [s]
  | .error _ => unreleased

theorem Sound.allocate_placed {c₀ : Context} {layout : SetLayout} {i : Nat} {b : Bank}
    {r : Except Error DescriptorSet} {c' : Context} (sound : Sound c unreleased)
    (placed : (Context.bankFor layout).run c₀ = .ok (.ok i) c) (found : (c.pools.banks layout.key)[i]? = some b)
    (available : b.available = true) (run : (Context.allocate layout).run c₀ = .ok r c')
    (room : c'.device.next = c.device.next + 1 → c.device.next < c.device.next + 1) :
    Sound c' (handOut unreleased r) ∧ Later c.pools c'.pools := by
  cases last : b.free.getLast? with
  | some h =>
    rw [Context.run_allocate_reuse placed found h last, EStateM.Result.ok.injEq] at run
    obtain ⟨rfl, rfl⟩ := run
    exact ⟨sound.reuse layout i b found h last, later_set c.pools _ i b _ sound.keys found rfl⟩
  | none =>
    have empty : b.free = [] := List.getLast?_eq_none_iff.mp last
    by_cases armed : ∃ f, c.device.failNext = some (.set, f)
    · obtain ⟨f, armed⟩ := armed
      obtain ⟨context, refused⟩ := Context.run_allocate_refused placed found empty f armed
      rw [refused, EStateM.Result.ok.injEq] at run
      obtain ⟨rfl, rfl⟩ := run
      exact ⟨sound.disarm none, Later.refl _⟩
    · have unarmed : ∀ f, c.device.failNext ≠ some (.set, f) := fun f same => armed ⟨f, same⟩
      rw [Context.run_allocate_make placed found empty unarmed, EStateM.Result.ok.injEq] at run
      obtain ⟨rfl, rfl⟩ := run
      exact ⟨sound.make layout i b found empty (roomy_of_available b available empty) (room rfl),
        later_set c.pools _ i b _ sound.keys found rfl⟩

theorem Sound.allocate_grown {layout : SetLayout} {sizes : List PoolSize} {r : Except Error DescriptorSet}
    {c' : Context} (sound : Sound (Context.withPool layout c) unreleased)
    (full : (c.pools.banks layout.key).findIdx? (·.available) = none)
    (sized : layout.poolSizes (Context.withPool layout c).pools.bankSize = .ok sizes)
    (unarmed : ∀ f, c.device.failNext ≠ some (.pool, f)) (run : (Context.allocate layout).run c = .ok r c')
    (grows : c.device.next ≤ c'.device.next) :
    Sound c' (handOut unreleased r) ∧ Later (Context.withPool layout c).pools c'.pools := by
  have placed := Context.run_bankFor_grown layout c full _ _
    (Context.run_newBank_made layout (Context.withPool layout c) _ sizes sized unarmed)
  have exhausted : ∀ b ∈ (Context.withPool layout c).pools.banks layout.key, b.available = false := by
    simpa using List.findIdx?_eq_none_iff.mp full
  by_cases armed : ∃ f, c.device.failNext = some (.set, f)
  · obtain ⟨f, armed⟩ := armed
    obtain ⟨context, refused⟩ := Context.run_allocate_refused placed (by simp; rfl) rfl f armed
    rw [refused, EStateM.Result.ok.injEq] at run
    obtain ⟨rfl, rfl⟩ := run
    exact ⟨(sound.grow layout.key _ exhausted (Device.room_of_le_succ _ grows)).disarm none,
      later_grow _ _ _ sound.keys rfl⟩
  · have unarmedSet : ∀ f, c.device.failNext ≠ some (.set, f) := fun f same => armed ⟨f, same⟩
    rw [Context.run_allocate_make placed (by simp; rfl) rfl unarmedSet, EStateM.Result.ok.injEq] at run
    obtain ⟨rfl, rfl⟩ := run
    -- two objects were made: the pool of the new bank, then the set
    obtain ⟨roomPool, roomSet⟩ := Device.room_of_le_succ_succ _ grows
    refine ⟨(sound.grow layout.key _ exhausted roomPool).make layout _ _ (by simp) rfl (by simpa using sound.sized)
      roomSet, ?_⟩
    exact (later_grow _ _ _ sound.keys rfl).trans
      (later_set _ _ _ _ _ (Pools.keys_setBanks _ _ _ sound.keys) (by simp; rfl) (by rfl))

theorem Sound.allocate (sound : Sound c unreleased) (layout : SetLayout) {r : Except Error DescriptorSet}
    {c' : Context} (run : (Context.allocate layout).run c = .ok r c') (grows : c.device.next ≤ c'.device.next) :
    Sound c' (handOut unreleased r) ∧ Later c.pools c'.pools := by
  have pooled := sound.withPool layout
  have later := later_setBanks_same c.pools layout.key sound.keys
  cases found : (c.pools.banks layout.key).findIdx? (·.available) with
  | some i =>
    obtain ⟨inside, available, -⟩ := List.findIdx?_eq_some_iff_getElem.mp found
    have listed : ((Context.withPool layout c).pools.banks layout.key)[i]? = some (c.pools.banks layout.key)[i] := by
      simp [inside]
    have placed := pooled.allocate_placed (Context.run_bankFor_found layout c i found) listed available run
      fun counted => by
        rw [counted] at grows
        exact Device.room_of_le_succ _ grows
    exact ⟨placed.1, later.trans placed.2⟩
  | none =>
    cases sized : layout.poolSizes c.pools.bankSize with
    | error v =>
      have refused := Context.run_newBank_invalid layout (Context.withPool layout c)
        (c.pools.banks layout.key).length v (by simpa using sized)
      rw [Context.run_allocate_unplaced _ (Context.run_bankFor_stunted layout c found _ _ refused),
        EStateM.Result.ok.injEq] at run
      obtain ⟨rfl, rfl⟩ := run
      exact ⟨pooled, later⟩
    | ok sizes =>
      have sized' : layout.poolSizes (Context.withPool layout c).pools.bankSize = .ok sizes := by simpa using sized
      by_cases armed : ∃ f, c.device.failNext = some (.pool, f)
      · obtain ⟨f, armed⟩ := armed
        obtain ⟨context, refused⟩ := Context.run_newBank_refused layout (Context.withPool layout c) _ sizes sized' f armed
        rw [Context.run_allocate_unplaced _ (Context.run_bankFor_stunted layout c found _ _ refused),
          EStateM.Result.ok.injEq] at run
        obtain ⟨rfl, rfl⟩ := run
        exact ⟨pooled.disarm none, later⟩
      · have grown := pooled.allocate_grown found sized' (fun f same => armed ⟨f, same⟩) run grows
        exact ⟨grown.1, later.trans grown.2⟩

end RenderCore.PoolSession
