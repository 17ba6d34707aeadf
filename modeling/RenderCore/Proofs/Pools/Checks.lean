import RenderCore.Proofs.Pools.Actions
import RenderCore.Proofs.Layouts.Checks
namespace RenderCore.Context

structure WriteFits (s : DescriptorSet) (binding first : UInt32) (resources : List Resource) (slot : LayoutBinding) :
    Prop where
  inside : binding.toNat < s.layout.slots.length
  present : s.layout.binding? binding.toNat = some slot
  nonempty : resources ≠ []
  room : first.toNat + resources.length ≤ slot.count.toNat
  kinds : ∀ r ∈ resources, r.fits slot.type = true

section Write

variable (s : DescriptorSet) (binding first : UInt32) (resources : List Resource)

theorem checkWrite_ok_iff :
    (∃ t, checkWrite s binding first resources = .ok t) ↔ ∃ slot, WriteFits s binding first resources slot := by
  unfold checkWrite
  by_cases past : s.layout.slots.length ≤ binding.toNat
  · refine iff_of_false (fun ⟨_, stopped⟩ => by simp [past] at stopped) fun ⟨_, fits⟩ => ?_
    exact absurd fits.inside (Nat.not_lt.mpr past)
  cases found : s.layout.binding? binding.toNat with
  | none =>
    refine iff_of_false (fun ⟨_, stopped⟩ => by simp [past] at stopped) fun ⟨_, fits⟩ => ?_
    rw [fits.present] at found
    cases found
  | some b =>
    have slot : ∀ b', WriteFits s binding first resources b' → b' = b := fun b' fits => by
      rw [fits.present] at found
      exact Option.some.inj found
    by_cases empty : resources = []
    · refine iff_of_false (fun ⟨_, stopped⟩ => by simp [past, empty] at stopped) fun ⟨_, fits⟩ => ?_
      exact fits.nonempty empty
    by_cases overruns : b.count.toNat < first.toNat + resources.length
    · refine iff_of_false (fun ⟨_, stopped⟩ => by simp [past, empty, overruns] at stopped) fun ⟨b', fits⟩ => ?_
      rw [slot b' fits] at fits
      exact absurd fits.room (Nat.not_le.mpr overruns)
    cases bad : resources.find? (!·.fits b.type) with
    | some r =>
      refine iff_of_false (fun ⟨_, stopped⟩ => by simp [past, empty, overruns, bad] at stopped) fun ⟨b', fits⟩ => ?_
      rw [slot b' fits] at fits
      have refused := List.find?_some bad
      have listed := List.mem_of_find?_eq_some bad
      simp [fits.kinds r listed] at refused
    | none =>
      refine iff_of_true ⟨b.type, by simp [past, empty, overruns, bad]⟩ ⟨b, ?_⟩
      refine ⟨Nat.not_le.mp past, found, empty, Nat.not_lt.mp overruns, fun r listed => ?_⟩
      simpa using List.find?_eq_none.mp bad r listed

example : (checkWrite ⟨⟨⟨"[0x1:0x1:4]"⟩, "", default, [some ⟨.fragment, .combinedImageSampler, 4⟩]⟩, default, 0, 1⟩
    0 3 [.combined 2 3, .combined 2 3]).isOk = false := by decide

abbrev written (c : Context) : Context :=
  { c with device := { c.device with log := c.device.log.push (.updateSet s.handle binding first resources.length) } }

theorem run_write_refused {v : Invalid} (refused : checkWrite s binding first resources = .error v) (c : Context) :
    (write s binding first resources).run c = .ok (.error (.invalid v)) c := by
  simp [write, refused]

theorem run_write_accepted {t : DescriptorType} (accepted : checkWrite s binding first resources = .ok t) (c : Context) :
    (write s binding first resources).run c = .ok (.ok ()) (written s binding first resources c) := by
  simp [write, accepted, Device.record]

-- A write is logged as one update of its set, binding, first element and count exactly when every check
-- accepts it; any other write is a validation error that leaves the context as it was.
theorem writes_reach_device_exactly_when_valid (c : Context) :
    ((write s binding first resources).run c = .ok (.ok ()) (written s binding first resources c) ↔
      ∃ slot, WriteFits s binding first resources slot) ∧
    ((∃ v, (write s binding first resources).run c = .ok (.error (.invalid v)) c) ↔
      ¬ ∃ slot, WriteFits s binding first resources slot) := by
  rw [← checkWrite_ok_iff]
  cases checked : checkWrite s binding first resources with
  | error v =>
    rw [run_write_refused s binding first resources checked]
    refine ⟨iff_of_false (fun same => ?_) fun ⟨_, accepted⟩ => ?_, iff_of_true ⟨v, rfl⟩ fun ⟨_, accepted⟩ => ?_⟩
    · cases same
    · cases accepted
    · cases accepted
  | ok t =>
    rw [run_write_accepted s binding first resources checked]
    refine ⟨iff_of_true rfl ⟨t, rfl⟩, iff_of_false (fun ⟨_, same⟩ => ?_) fun refused => refused ⟨t, rfl⟩⟩
    cases same

end Write

section Sizing

variable {layout : SetLayout} {c c' c'' : Context} {e : Error}

theorem allocate_refused_by_device {i : Nat} {b : Bank} (placed : (bankFor layout).run c = .ok (.ok i) c')
    (found : (c'.pools.banks layout.key)[i]? = some b) (run : (allocate layout).run c = .ok (.error e) c'') :
    ∃ context f, e = .device context f := by
  cases last : b.free.getLast? with
  | some h =>
    rw [run_allocate_reuse placed found h last] at run
    cases run
  | none =>
    have empty := List.getLast?_eq_none_iff.mp last
    by_cases armed : ∃ f, c'.device.failNext = some (.set, f)
    · obtain ⟨f, armed⟩ := armed
      rw [run_allocate_refused_named placed found empty f armed] at run
      cases run
      exact ⟨_, f, rfl⟩
    · rw [run_allocate_make placed found empty fun f same => armed ⟨f, same⟩] at run
      cases run

variable (layout c)

theorem run_allocate_overflow (full : ∀ b ∈ c.pools.banks layout.key, b.available = false)
    (overflow : ¬ layout.BankFits c.pools.bankSize) :
    ∃ v, (allocate layout).run c = .ok (.error (.invalid v)) (withPool layout c) := by
  cases sized : layout.poolSizes c.pools.bankSize with
  | ok sizes => exact absurd ((layout.poolSizes_sized_iff _).mp ⟨sizes, sized⟩) overflow
  | error v =>
    have none : (c.pools.banks layout.key).findIdx? (·.available) = none :=
      List.findIdx?_eq_none_iff.mpr fun b member => by simp [full b member]
    have refused := run_newBank_invalid layout (withPool layout c) (c.pools.banks layout.key).length v
      (by simpa using sized)
    exact ⟨v, run_allocate_unplaced _ (run_bankFor_stunted layout c none _ _ refused)⟩

variable {layout c}

theorem allocate_invalid {v : Invalid} (run : (allocate layout).run c = .ok (.error (.invalid v)) c') :
    (∀ b ∈ c.pools.banks layout.key, b.available = false) ∧ ¬ layout.BankFits c.pools.bankSize := by
  cases found : (c.pools.banks layout.key).findIdx? (·.available) with
  | some i =>
    obtain ⟨inside, -, -⟩ := List.findIdx?_eq_some_iff_getElem.mp found
    obtain ⟨_, _, differs⟩ :=
      allocate_refused_by_device (run_bankFor_found layout c i found) (by simp [inside]; rfl) run
    cases differs
  | none =>
    have full : ∀ b ∈ c.pools.banks layout.key, b.available = false := by
      simpa using List.findIdx?_eq_none_iff.mp found
    refine ⟨full, fun fit => ?_⟩
    obtain ⟨sizes, sized⟩ := (layout.poolSizes_sized_iff _).mpr fit
    by_cases armed : ∃ f, c.device.failNext = some (.pool, f)
    · obtain ⟨f, armed⟩ := armed
      obtain ⟨context, refused⟩ :=
        run_newBank_refused layout (withPool layout c) _ sizes (by simpa using sized) f armed
      rw [run_allocate_unplaced _ (run_bankFor_stunted layout c found _ _ refused)] at run
      cases run
    · have placed := run_bankFor_grown layout c found _ _
        (run_newBank_made layout (withPool layout c) _ sizes (by simpa using sized) fun f same => armed ⟨f, same⟩)
      obtain ⟨_, _, differs⟩ := allocate_refused_by_device placed (by simp; rfl) run
      cases differs

theorem banks_withPool (k : Key) : (withPool layout c).pools.banks k = c.pools.banks k := by
  by_cases same : k = layout.key
  · subst same
    simp
  · simp [same]

-- Sizing a bank succeeds exactly when no count overflows and then gives the exact products, and an
-- allocation is a validation error exactly when it must grow past them, with no device call made.
theorem pools_sized_exactly_before_requested (layout : SetLayout) :
    (∀ bank, (∃ sizes, layout.poolSizes bank = .ok sizes) ↔ layout.BankFits bank) ∧
    (∀ bank sizes, layout.poolSizes bank = .ok sizes ↔
      layout.BankFits bank ∧
        sizes.map (fun p => (p.type, p.count.toNat)) =
          (layout.slots.filterMap id).map fun b => (b.type, b.count.toNat * bank.toNat)) ∧
    (∀ c : Context, (∃ v c', (allocate layout).run c = .ok (.error (.invalid v)) c') ↔
      (∀ b ∈ c.pools.banks layout.key, b.available = false) ∧ ¬ layout.BankFits c.pools.bankSize) ∧
    (∀ (c c' : Context) (v : Invalid), (allocate layout).run c = .ok (.error (.invalid v)) c' →
      c'.device = c.device ∧ ∀ k, c'.pools.banks k = c.pools.banks k) := by
  refine ⟨layout.poolSizes_sized_iff, layout.poolSizes_eq_ok_iff, fun c => ⟨?_, ?_⟩, fun c c' v run => ?_⟩
  · rintro ⟨_, _, run⟩
    exact allocate_invalid run
  · rintro ⟨full, overflow⟩
    obtain ⟨v, run⟩ := run_allocate_overflow layout c full overflow
    exact ⟨v, _, run⟩
  · obtain ⟨full, overflow⟩ := allocate_invalid run
    obtain ⟨_, refused⟩ := run_allocate_overflow layout c full overflow
    rw [refused] at run
    cases run
    exact ⟨rfl, banks_withPool⟩

-- A compute binding of 2^30 storage buffers cannot have a bank of 64 sets: the first allocation is
-- refused with nothing asked of the device.
theorem overflowing_bank_refused_before_device :
    ∃ v c', (allocate ⟨⟨"[0x20:0x7:1073741824]"⟩, "[Compute:StorageBuffer:1073741824]", ⟨.setLayout, 0x1001⟩,
        [some ⟨.compute, .storageBuffer, 0x40000000⟩]⟩).run { (default : Context) with pools := { bankSize := 64 } } =
        .ok (.error (.invalid v)) c' ∧
      c'.device = (default : Context).device ∧ ∀ k, c'.pools.banks k = [] := by
  have sized := pools_sized_exactly_before_requested ⟨⟨"[0x20:0x7:1073741824]"⟩,
    "[Compute:StorageBuffer:1073741824]", ⟨.setLayout, 0x1001⟩, [some ⟨.compute, .storageBuffer, 0x40000000⟩]⟩
  obtain ⟨v, c', run⟩ := (sized.2.2.1 { (default : Context) with pools := { bankSize := 64 } }).mpr
    ⟨by decide, by decide⟩
  exact ⟨v, c', run, sized.2.2.2 { (default : Context) with pools := { bankSize := 64 } } c' v run⟩

end Sizing

end RenderCore.Context
