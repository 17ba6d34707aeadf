import RenderCore.Proofs.Keys.Fields
namespace RenderCore.Key

section Steps

variable (target rest : List Char)

theorem scanFields_open (outer : List (List Char)) :
    scanFields target ('[' :: rest) outer = scanFields target rest ([] :: extendAll '[' outer) := by
  simp [scanFields]

theorem scanFields_comma (field : List Char) (outer : List (List Char)) :
    scanFields target (',' :: rest) (field :: outer) =
      (decide (field ≠ [] ∧ field = target) || scanFields target rest ([] :: extendAll ',' outer)) := by
  by_cases found : field ≠ [] ∧ field = target <;> simp [scanFields, found]

theorem scanFields_close (field : List Char) (outer : List (List Char)) :
    scanFields target (']' :: rest) (field :: outer) =
      (decide (field ≠ [] ∧ field = target) || scanFields target rest (extendAll ']' outer)) := by
  by_cases found : field ≠ [] ∧ field = target <;> simp [scanFields, found]

theorem scanFields_plain {c : Char} (plain : c ≠ ',' ∧ c ≠ '[' ∧ c ≠ ']') (outer : List (List Char)) :
    scanFields target (c :: rest) outer = scanFields target rest (extendAll c outer) := by
  obtain ⟨comma, opens, closes⟩ := plain
  simp [scanFields, comma, opens, closes]

end Steps

def Scans (w : List Char) (found : List Char → Prop) : Prop :=
  ∀ target outer rest, scanFields target (w ++ rest) outer = true ↔
    (∃ u, found u ∧ u ≠ [] ∧ u.reverse = target) ∨ scanFields target rest (outer.map (w.reverse ++ ·)) = true

theorem scanFields_nil_target (w : List Char) (outer : List (List Char)) : scanFields [] w outer = false := by
  induction w generalizing outer with
  | nil => rfl
  | cons c rest ih =>
    by_cases opens : c = '['
    · subst opens; rw [scanFields_open, ih]
    by_cases ends : c = ',' ∨ c = ']'
    · cases outer with
      | nil => simp [scanFields, opens, ends, ih]
      | cons field outer => simp [scanFields, opens, ends, ih]
    · rw [scanFields_plain _ _ ⟨fun h => ends (.inl h), opens, fun h => ends (.inr h)⟩, ih]

namespace Scans

variable {w : List Char} {found : List Char → Prop}

theorem found_iff (scans : Scans w found) {u : List Char} (nonempty : u ≠ []) :
    found u ↔ scanFields u.reverse w [] = true := by
  have whole := scans u.reverse [] []
  rw [List.append_nil] at whole
  simp only [List.reverse_inj, scanFields, Bool.false_eq_true, or_false] at whole
  rw [whole]
  exact ⟨fun holds => ⟨u, holds, nonempty, rfl⟩, fun ⟨_, holds, _, same⟩ => same ▸ holds⟩

theorem congr (scans : Scans w found) {found' : List Char → Prop} (same : ∀ u ≠ [], found u ↔ found' u) :
    Scans w found' := by
  intro target outer rest
  rw [scans]
  constructor
  · rintro (⟨u, holds, nonempty, rfl⟩ | later)
    · exact .inl ⟨u, (same u nonempty).mp holds, nonempty, rfl⟩
    · exact .inr later
  · rintro (⟨u, holds, nonempty, rfl⟩ | later)
    · exact .inl ⟨u, (same u nonempty).mpr holds, nonempty, rfl⟩
    · exact .inr later

end Scans

theorem scans_plain {w : List Char} (plain : ∀ c ∈ w, c ≠ ',' ∧ c ≠ '[' ∧ c ≠ ']') : Scans w fun _ => False := by
  induction w with
  | nil => simp [Scans]
  | cons c w ih =>
    intro target outer rest
    have later := ih (fun c member => plain c (List.mem_cons_of_mem _ member)) target (extendAll c outer) rest
    -- the character joins every open field, before the rest of the text does
    have extended : (extendAll c outer).map (w.reverse ++ ·) = outer.map ((c :: w).reverse ++ ·) := by
      simp [extendAll, Function.comp_def]
    rw [List.cons_append, scanFields_plain _ _ (plain c List.mem_cons_self), later, extended]

theorem scans_append {a b : List Char} {found found' : List Char → Prop} (first : Scans a found)
    (second : Scans b found') : Scans (a ++ b) fun u => found u ∨ found' u := by
  intro target outer rest
  have extended : (outer.map (a.reverse ++ ·)).map (b.reverse ++ ·) = outer.map ((a ++ b).reverse ++ ·) := by
    simp [Function.comp_def]
  rw [List.append_assoc, first, second, extended]
  simp only [or_and_right, exists_or, or_assoc]

section Lists

variable {α : Type} {text : α → List Char} {found : α → List Char → Prop}

theorem scans_flatMap {items : List α} (each : ∀ x ∈ items, Scans (text x) (found x)) :
    Scans (items.flatMap text) fun u => ∃ x ∈ items, found x u := by
  induction items with
  | nil => simp [Scans]
  | cons x rest ih =>
    have later := scans_append (each x List.mem_cons_self) (ih fun y member => each y (List.mem_cons_of_mem _ member))
    rw [List.flatMap_cons]
    refine later.congr fun u _ => ?_
    simp

variable {w : List Char} {inside : List Char → Prop}

theorem scans_item_comma (scans : Scans w inside) (target : List Char) (outer : List (List Char)) (rest : List Char) :
    scanFields target (w ++ ',' :: rest) ([] :: outer) = true ↔
      (∃ u, (inside u ∨ u = w) ∧ u ≠ [] ∧ u.reverse = target) ∨
        scanFields target rest ([] :: outer.map ((w ++ [',']).reverse ++ ·)) = true := by
  rw [scans, List.map_cons, List.append_nil, scanFields_comma]
  simp [extendAll, Function.comp_def, or_and_right, exists_or, or_assoc]

theorem scans_item_close (scans : Scans w inside) (target : List Char) (outer : List (List Char)) (rest : List Char) :
    scanFields target (w ++ ']' :: rest) ([] :: outer) = true ↔
      (∃ u, (inside u ∨ u = w) ∧ u ≠ [] ∧ u.reverse = target) ∨
        scanFields target rest (outer.map ((w ++ [']']).reverse ++ ·)) = true := by
  rw [scans, List.map_cons, List.append_nil, scanFields_close]
  simp [extendAll, Function.comp_def, or_and_right, exists_or, or_assoc]

theorem scans_items {items : List α} (each : ∀ x ∈ items, Scans (text x) (found x)) (target : List Char)
    (outer : List (List Char)) (rest : List Char) :
    scanFields target ([','].intercalate (items.map text) ++ ']' :: rest) ([] :: outer) = true ↔
      (∃ u, (∃ x ∈ items, found x u ∨ u = text x) ∧ u ≠ [] ∧ u.reverse = target) ∨
        scanFields target rest (outer.map (([','].intercalate (items.map text) ++ [']']).reverse ++ ·)) = true := by
  induction items generalizing outer with
  | nil => simp [scanFields_close, extendAll]
  | cons x later ih =>
    cases later with
    | nil => simpa using scans_item_close (each x List.mem_cons_self) target outer rest
    | cons y later =>
      rw [List.map_cons, List.map_cons, List.intercalate_cons_cons, List.append_assoc, List.append_assoc,
        List.singleton_append, scans_item_comma (each x List.mem_cons_self), ← List.map_cons,
        ih fun z member => each z (List.mem_cons_of_mem _ member)]
      simp [Function.comp_def, or_and_right, exists_or, or_assoc]

theorem scans_list {items : List α} (each : ∀ x ∈ items, Scans (text x) (found x)) :
    Scans ('[' :: ([','].intercalate (items.map text) ++ [']'])) fun u => ∃ x ∈ items, found x u ∨ u = text x := by
  intro target outer rest
  rw [List.cons_append, scanFields_open, List.append_assoc, List.singleton_append, scans_items each]
  simp [extendAll, Function.comp_def]

end Lists

theorem scans_ofFields {fields : List Field} {found : Field → List Char → Prop}
    (each : ∀ f ∈ fields, Scans f.render.toList (found f)) :
    Scans (ofFields fields).text.toList fun u => ∃ f ∈ fields, found f u ∨ u = f.render.toList := by
  rw [toList_ofFields]
  exact scans_list each

def Scannable (w : List Char) : Prop :=
  Scans w fun u => scanFields u.reverse w [] = true

theorem Scans.scannable {w : List Char} {found : List Char → Prop} (scans : Scans w found) : Scannable w :=
  scans.congr fun _ nonempty => scans.found_iff nonempty

theorem Plain.scannable {s : String} (plain : Plain s) : Scannable s.toList :=
  (scans_plain plain).scannable

theorem hasField_iff_of_scans {k : Key} {found : List Char → Prop} (scans : Scans k.text.toList found) (s : String) :
    k.hasField s ↔ k.text = s ∨ (s ≠ "" ∧ found s.toList) := by
  rw [hasField, Bool.or_eq_true, beq_iff_eq]
  by_cases empty : s = ""
  · subst empty
    simp [scanFields_nil_target]
  · have nonempty : s.toList ≠ [] := by simpa [String.toList_eq_nil_iff] using empty
    rw [scans.found_iff nonempty]
    simp [empty]

theorem hasField_ofFields {fields : List Field} (each : ∀ f ∈ fields, Scannable f.render.toList) (s : String) :
    (ofFields fields).hasField s ↔ (ofFields fields).text = s ∨ (s ≠ "" ∧ ∃ f ∈ fields, Key.hasField ⟨f.render⟩ s) := by
  have whole : ∀ f : Field, (scanFields s.toList.reverse f.render.toList [] = true ∨ s.toList = f.render.toList) ↔
      Key.hasField ⟨f.render⟩ s := by
    intro f
    rw [hasField, Bool.or_eq_true, beq_iff_eq, String.toList_inj, or_comm, @eq_comm _ s]
  rw [hasField_iff_of_scans (scans_ofFields each)]
  simp only [whole]

theorem scannable_ofFields {fields : List Field} (each : ∀ f ∈ fields, Scannable f.render.toList) :
    Scannable (ofFields fields).text.toList :=
  (scans_ofFields each).scannable

theorem scannable_ofFields_map {β : Type} (field : β → Field) (plain : ∀ b, Plain (field b).render) (bs : List β) :
    Scannable (ofFields (bs.map field)).text.toList := by
  refine scannable_ofFields fun f member => ?_
  obtain ⟨b, -, rfl⟩ := List.mem_map.mp member
  exact (plain b).scannable

theorem ne_empty_of_hasField {k : Key} {s : String} (written : k.text ≠ "") (found : k.hasField s) : s ≠ "" := by
  rintro rfl
  simp [hasField, written, scanFields_nil_target] at found

theorem text_ofFields_ne_empty (fields : List Field) : (ofFields fields).text ≠ "" := by
  intro empty
  have opens := toList_ofFields fields
  rw [empty] at opens
  simp at opens

@[simp] theorem mk_text (k : Key) : (⟨k.text⟩ : Key) = k := rfl

theorem hasField_plain {t : String} (plain : Plain t) (s : String) : Key.hasField ⟨t⟩ s ↔ t = s := by
  rw [hasField_iff_of_scans (scans_plain plain)]
  simp

end RenderCore.Key
