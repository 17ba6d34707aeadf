import RenderCore.Proofs.Device
import RenderCore.Proofs.Pools.Banks
import RenderCore.Context.Pool
namespace RenderCore.Context

variable (layout : SetLayout) (c : Context)

theorem run_newBank_invalid (index : Nat) (v : Invalid) (refused : layout.poolSizes c.pools.bankSize = .error v) :
    (newBank layout index).run c = .ok (.error (.invalid v)) c := by
  simp [newBank, refused]

theorem run_newBank_refused (index : Nat) (sizes : List PoolSize)
    (sized : layout.poolSizes c.pools.bankSize = .ok sizes) (f : DeviceFailure)
    (armed : c.device.failNext = some (.pool, f)) :
    ∃ context, (newBank layout index).run c =
      .ok (.error (.device context f)) { c with device := { c.device with failNext := none } } := by
  simp [newBank, sized, Device.run_create_armed _ _ _ _ armed]

theorem run_newBank_made (index : Nat) (sizes : List PoolSize)
    (sized : layout.poolSizes c.pools.bankSize = .ok sizes) (unarmed : ∀ f, c.device.failNext ≠ some (.pool, f)) :
    (newBank layout index).run c =
      .ok (.ok { id := c.pools.nextBankId, name := s!"bank_{index}", handle := ⟨.pool, c.device.next⟩, len := 0,
                 cap := c.pools.bankSize })
        { c with device := { c.device with next := c.device.next + 1, live := c.device.live ++ [⟨.pool, c.device.next⟩],
                                           log := c.device.log.push (.create ⟨.pool, c.device.next⟩) },
                 pools := { c.pools with nextBankId := c.pools.nextBankId + 1 } } := by
  simp [newBank, modifyPools, sized, Device.run_create_fresh _ _ unarmed]

abbrev withPool : Context :=
  { c with pools := c.pools.setBanks layout.key (c.pools.banks layout.key) }

theorem run_bankFor_found (i : Nat) (found : (c.pools.banks layout.key).findIdx? (·.available) = some i) :
    (bankFor layout).run c = .ok (.ok i) (withPool layout c) := by
  simp [bankFor, modifyPools, found]

theorem run_bankFor_grown (full : (c.pools.banks layout.key).findIdx? (·.available) = none)
    (b : Bank) (c' : Context)
    (grown : (newBank layout (c.pools.banks layout.key).length).run (withPool layout c) = .ok (.ok b) c') :
    (bankFor layout).run c = .ok (.ok (c.pools.banks layout.key).length)
      { c' with pools := c'.pools.setBanks layout.key ((withPool layout c).pools.banks layout.key ++ [b]) } := by
  have sameBanks : (withPool layout c).pools.banks layout.key = c.pools.banks layout.key := by simp
  simp only [withPool] at sameBanks grown
  simp [bankFor, modifyPools, sameBanks, full, grown]

theorem run_bankFor_stunted (full : (c.pools.banks layout.key).findIdx? (·.available) = none)
    (e : Error) (c' : Context)
    (refused : (newBank layout (c.pools.banks layout.key).length).run (withPool layout c) = .ok (.error e) c') :
    (bankFor layout).run c = .ok (.error e) c' := by
  have sameBanks : (withPool layout c).pools.banks layout.key = c.pools.banks layout.key := by simp
  simp only [withPool] at sameBanks refused
  simp [bankFor, modifyPools, sameBanks, full, refused]

section Allocate

variable {layout c} {i : Nat} {c' : Context} {b : Bank}

theorem run_allocate_unplaced (e : Error) (refused : (bankFor layout).run c = .ok (.error e) c') :
    (allocate layout).run c = .ok (.error e) c' := by
  simp [allocate, refused]

theorem run_allocate_reuse (placed : (bankFor layout).run c = .ok (.ok i) c')
    (found : (c'.pools.banks layout.key)[i]? = some b) (h : Handle) (last : b.free.getLast? = some h) :
    (allocate layout).run c = .ok (.ok { layout, handle := h, bank := i, bankId := b.id })
      { c' with
        pools := c'.pools.setBanks layout.key ((c'.pools.banks layout.key).set i { b with free := b.free.dropLast }) } := by
  simp [allocate, placed, found, last, modifyPools]

theorem run_allocate_make (placed : (bankFor layout).run c = .ok (.ok i) c')
    (found : (c'.pools.banks layout.key)[i]? = some b) (empty : b.free = [])
    (unarmed : ∀ f, c'.device.failNext ≠ some (.set, f)) :
    (allocate layout).run c =
      .ok (.ok { layout, handle := ⟨.set, c'.device.next⟩, bank := i, bankId := b.id })
        { c' with
          device :=
            { c'.device with
              next := c'.device.next + 1
              live := c'.device.live ++ [⟨.set, c'.device.next⟩]
              log := c'.device.log.push (.create ⟨.set, c'.device.next⟩)
              poolSets :=
                (b.handle, c'.device.setsOf b.handle ++ [⟨.set, c'.device.next⟩]) ::
                  c'.device.poolSets.filter (·.1 != b.handle) }
          pools :=
            c'.pools.setBanks layout.key ((c'.pools.banks layout.key).set i { b with len := b.len + 1 }) } := by
  simp [allocate, placed, found, empty, modifyPools, Device.run_create_from _ _ _ unarmed]

theorem run_allocate_refused_named (placed : (bankFor layout).run c = .ok (.ok i) c')
    (found : (c'.pools.banks layout.key)[i]? = some b) (empty : b.free = []) (f : DeviceFailure)
    (armed : c'.device.failNext = some (.set, f)) :
    (allocate layout).run c =
      .ok (.error (.device s!"allocating descriptor set {layout.name}_{b.name}_set_{b.len}" f))
        { c' with device := { c'.device with failNext := none } } := by
  simp [allocate, placed, found, empty, Device.run_create_armed _ _ _ _ armed]
  -- what is left is the interpolation of an interpolated name
  rfl

theorem run_allocate_refused (placed : (bankFor layout).run c = .ok (.ok i) c')
    (found : (c'.pools.banks layout.key)[i]? = some b) (empty : b.free = []) (f : DeviceFailure)
    (armed : c'.device.failNext = some (.set, f)) :
    ∃ context, (allocate layout).run c =
      .ok (.error (.device context f)) { c' with device := { c'.device with failNext := none } } :=
  ⟨_, run_allocate_refused_named placed found empty f armed⟩

end Allocate

theorem run_destroyPools (c' : Context)
    (loop : (forIn c.pools.allBanks () fun (b : Bank) _ => do
        device! (Device.destroy b.handle)
        pure (ForInStep.yield ())).run { c with pools := { c.pools with pools := [] } } = .ok () c') :
    destroyPools.run c = .ok c.pools.allBanks.length c' := by
  simp [destroyPools, modifyPools, Pools.allBanks] at loop ⊢
  simp [loop]

end RenderCore.Context
