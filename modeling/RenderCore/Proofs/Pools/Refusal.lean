import RenderCore.Proofs.Pools.Actions
namespace RenderCore

namespace Pools

theorem map_replace_of_lookup (entries : List (Key × List Bank)) (k : Key) (banks : List Bank)
    (keys : (entries.map (·.1)).Nodup) (found : entries.lookup k = some banks) :
    entries.map (fun e => if e.1 = k then (k, banks) else e) = entries := by
  induction entries with
  | nil => rfl
  | cons e rest ih =>
    obtain ⟨k', v⟩ := e
    simp only [List.map_cons, List.nodup_cons, List.mem_map] at keys
    by_cases same : k' = k
    · subst same
      have stored : v = banks := by simpa [List.lookup_cons] using found
      -- the key is stored once, so the rest of the list has no entry to replace
      have untouched : rest.map (fun e => if e.1 = k' then (k', banks) else e) = rest := by
        refine (List.map_congr_left fun e inside => if_neg fun hit => keys.1 ⟨e, inside, hit⟩).trans ?_
        exact List.map_id' rest
      simp [stored, untouched]
    · have skipped : (k == k') = false := beq_eq_false_iff_ne.mpr (Ne.symm same)
      simp only [List.lookup_cons, skipped] at found
      simp [same, ih keys.2 found]

theorem setBanks_banks_self (p : Pools) (k : Key) (keys : (p.pools.map (·.1)).Nodup) :
    (p.setBanks k (p.banks k)).pools = p.pools ∨
      p.pools.lookup k = none ∧ (p.setBanks k (p.banks k)).pools = p.pools ++ [(k, [])] := by
  unfold setBanks
  cases found : p.pools.lookup k with
  | some banks =>
    left
    simp only [found, Option.isSome_some, if_true, Pools.banks, Option.getD_some]
    exact map_replace_of_lookup p.pools k banks keys found
  | none =>
    right
    simp [found, Pools.banks]

end Pools

namespace Context

structure BanksKept (layout : SetLayout) (c c' : Context) : Prop where
  banks : ∀ k, c'.pools.banks k = c.pools.banks k
  pools : c'.pools.pools = c.pools.pools ∨
    c.pools.pools.lookup layout.key = none ∧ c'.pools.pools = c.pools.pools ++ [(layout.key, [])]
  live : c'.device.live = c.device.live
  log : c'.device.log = c.device.log

structure BankLeftEmpty (layout : SetLayout) (c c' : Context) (b : Bank) : Prop where
  others : ∀ k ≠ layout.key, c'.pools.banks k = c.pools.banks k
  banks : c'.pools.banks layout.key = c.pools.banks layout.key ++ [b]
  empty : b.len = 0 ∧ b.free = [] ∧ b.cap = c.pools.bankSize
  pool : b.handle.kind = .pool
  live : c'.device.live = c.device.live ++ [b.handle]
  log : c'.device.log = c.device.log.push (.create b.handle)

variable {layout : SetLayout} {c c' : Context} {e : Error}

theorem banksKept_withPool (keys : (c.pools.pools.map (·.1)).Nodup) {d : Device} (live : d.live = c.device.live)
    (log : d.log = c.device.log) : BanksKept layout c { withPool layout c with device := d } where
  banks k := by
    by_cases same : k = layout.key
    · subst same
      simp
    · simp [same]
  pools := c.pools.setBanks_banks_self layout.key keys
  live := live
  log := log

theorem banksKept_of_available {i : Nat} (keys : (c.pools.pools.map (·.1)).Nodup)
    (found : (c.pools.banks layout.key).findIdx? (·.available) = some i)
    (run : (allocate layout).run c = .ok (.error e) c') : BanksKept layout c c' := by
  obtain ⟨inside, -, -⟩ := List.findIdx?_eq_some_iff_getElem.mp found
  have listed : ((withPool layout c).pools.banks layout.key)[i]? = some (c.pools.banks layout.key)[i] := by
    simp [inside]
  have placed := run_bankFor_found layout c i found
  cases last : (c.pools.banks layout.key)[i].free.getLast? with
  | some h =>
    rw [run_allocate_reuse placed listed h last] at run
    cases run
  | none =>
    have empty : (c.pools.banks layout.key)[i].free = [] := List.getLast?_eq_none_iff.mp last
    by_cases armed : ∃ f, c.device.failNext = some (.set, f)
    · obtain ⟨f, armed⟩ := armed
      obtain ⟨context, refused⟩ := run_allocate_refused placed listed empty f armed
      rw [refused, EStateM.Result.ok.injEq] at run
      obtain ⟨-, rfl⟩ := run
      exact banksKept_withPool keys rfl rfl
    · rw [run_allocate_make placed listed empty fun f same => armed ⟨f, same⟩] at run
      cases run

theorem bankLeftEmpty_of_grown {sizes} (found : (c.pools.banks layout.key).findIdx? (·.available) = none)
    (sized : layout.poolSizes c.pools.bankSize = .ok sizes) (made : ¬∃ f, c.device.failNext = some (.pool, f))
    (run : (allocate layout).run c = .ok (.error e) c') :
    ∃ b f, BankLeftEmpty layout c c' b ∧
      e = .device s!"allocating descriptor set {layout.name}_{b.name}_set_{b.len}" f := by
  have placed := run_bankFor_grown layout c found _ _
    (run_newBank_made layout (withPool layout c) _ sizes (by simpa using sized) fun f same => made ⟨f, same⟩)
  by_cases armed : ∃ f, c.device.failNext = some (.set, f)
  · obtain ⟨f, armed⟩ := armed
    rw [run_allocate_refused_named placed (by simp; rfl) rfl f armed, EStateM.Result.ok.injEq,
      Except.error.injEq] at run
    obtain ⟨rfl, rfl⟩ := run
    let index := (c.pools.banks layout.key).length
    let b : Bank :=
      { id := c.pools.nextBankId, name := s!"bank_{index}", handle := ⟨.pool, c.device.next⟩
        len := 0, cap := c.pools.bankSize }
    refine ⟨b, f, ⟨fun k other => ?_, by simp [b, index], ⟨rfl, rfl, rfl⟩, rfl, rfl, rfl⟩, rfl⟩
    -- the bank's id moved on, which the banks do not read
    simp only [Pools.banks_setBanks, if_neg other]
    exact (c.pools.banks_setBanks layout.key k _).trans (if_neg other)
  · rw [run_allocate_make placed (by simp; rfl) rfl fun f same => armed ⟨f, same⟩] at run
    cases run

theorem refused_allocation_makes_no_set (keys : (c.pools.pools.map (·.1)).Nodup)
    (run : (allocate layout).run c = .ok (.error e) c') :
    BanksKept layout c c' ∨
      ∃ b f, BankLeftEmpty layout c c' b ∧
        e = .device s!"allocating descriptor set {layout.name}_{b.name}_set_{b.len}" f := by
  cases found : (c.pools.banks layout.key).findIdx? (·.available) with
  | some i => exact .inl (banksKept_of_available keys found run)
  | none =>
    -- every bank is full: the new bank is sized, its pool made, then the set
    cases sized : layout.poolSizes c.pools.bankSize with
    | error v =>
      have refused := run_newBank_invalid layout (withPool layout c) (c.pools.banks layout.key).length v
        (by simpa using sized)
      rw [run_allocate_unplaced _ (run_bankFor_stunted layout c found _ _ refused), EStateM.Result.ok.injEq] at run
      obtain ⟨-, rfl⟩ := run
      exact .inl (banksKept_withPool keys rfl rfl)
    | ok sizes =>
      by_cases armed : ∃ f, c.device.failNext = some (.pool, f)
      · obtain ⟨f, armed⟩ := armed
        obtain ⟨context, refused⟩ := run_newBank_refused layout (withPool layout c) _ sizes (by simpa using sized) f armed
        rw [run_allocate_unplaced _ (run_bankFor_stunted layout c found _ _ refused), EStateM.Result.ok.injEq] at run
        obtain ⟨-, rfl⟩ := run
        exact .inl (banksKept_withPool keys rfl rfl)
      · exact .inr (bankLeftEmpty_of_grown found sized armed run)

-- The first allocation of a set of one uniform buffer, with the device refusing the pool of the
-- layout's first bank.
theorem refused_first_pool_keeps_banks :
    ∃ e c', (allocate ⟨⟨"[0x1:0x6:1]"⟩, "[Vertex:UniformBuffer:1]", ⟨.setLayout, 0x1002⟩,
        [some ⟨.vertex, .uniformBuffer, 1⟩]⟩).run
        { (default : Context) with pools := { bankSize := 64 }, device := { failNext := some (.pool, .outOfDeviceMemory) } } =
        .ok (.error e) c' ∧
      (BanksKept ⟨⟨"[0x1:0x6:1]"⟩, "[Vertex:UniformBuffer:1]", ⟨.setLayout, 0x1002⟩, [some ⟨.vertex, .uniformBuffer, 1⟩]⟩
          { (default : Context) with pools := { bankSize := 64 }, device := { failNext := some (.pool, .outOfDeviceMemory) } } c' ∨
        ∃ b f, BankLeftEmpty ⟨⟨"[0x1:0x6:1]"⟩, "[Vertex:UniformBuffer:1]", ⟨.setLayout, 0x1002⟩,
            [some ⟨.vertex, .uniformBuffer, 1⟩]⟩
          { (default : Context) with pools := { bankSize := 64 }, device := { failNext := some (.pool, .outOfDeviceMemory) } } c' b ∧
          e = .device s!"allocating descriptor set [Vertex:UniformBuffer:1]_{b.name}_set_{b.len}" f) :=
  ⟨_, _, rfl, refused_allocation_makes_no_set (by decide) rfl⟩

theorem refused_first_pool_shows_an_empty_pool :
    ∃ e c', (allocate ⟨⟨"[0x1:0x6:1]"⟩, "[Vertex:UniformBuffer:1]", ⟨.setLayout, 0x1002⟩,
        [some ⟨.vertex, .uniformBuffer, 1⟩]⟩).run
        { (default : Context) with pools := { bankSize := 64 }, device := { failNext := some (.pool, .outOfDeviceMemory) } } =
        .ok (.error e) c' ∧
      e.message = "Backend error while creating descriptor pool [Vertex:UniformBuffer:1]_bank_0_maxSets_64 " ++
        "([PoolSize { descriptor_type: UniformBuffer, count: 64 }]): out of device memory" ∧
      c'.pools.banks ⟨"[0x1:0x6:1]"⟩ = [] ∧ c'.pools.pools = [(⟨"[0x1:0x6:1]"⟩, [])] :=
  ⟨_, _, rfl, by decide +kernel, rfl, rfl⟩

end Context

end RenderCore
