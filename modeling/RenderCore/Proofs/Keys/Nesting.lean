import Mathlib.Data.List.Induction
import RenderCore.Proofs.Keys.Scan
namespace RenderCore.Key

def advance (c : Char) (open_ : List (List Char)) : List (List Char) :=
  if c = '[' then [] :: extendAll c open_
  else if c = ',' ∨ c = ']' then
    match open_ with
    | [] => []
    | _ :: outer => if c = ',' then [] :: extendAll c outer else extendAll c outer
  else extendAll c open_

def readAll (open_ : List (List Char)) (w : List Char) : List (List Char) :=
  w.foldl (fun o c => advance c o) open_

def Closes (target : List Char) (c : Char) (open_ : List (List Char)) : Prop :=
  (c = ',' ∨ c = ']') ∧ target ≠ [] ∧ open_.head? = some target

@[simp] theorem readAll_nil (open_ : List (List Char)) : readAll open_ [] = open_ := rfl

@[simp] theorem readAll_cons (open_ : List (List Char)) (c : Char) (w : List Char) :
    readAll open_ (c :: w) = readAll (advance c open_) w := rfl

theorem readAll_append (open_ : List (List Char)) (a b : List Char) :
    readAll open_ (a ++ b) = readAll (readAll open_ a) b :=
  List.foldl_append

theorem scanFields_cons_iff (target rest : List Char) (c : Char) (open_ : List (List Char)) :
    scanFields target (c :: rest) open_ = true ↔
      Closes target c open_ ∨ scanFields target rest (advance c open_) = true := by
  by_cases opens : c = '['
  · subst opens
    simp [scanFields_open, Closes, advance]
  by_cases ends : c = ',' ∨ c = ']'
  · cases open_ with
    | nil => simp [scanFields, opens, ends, Closes, advance]
    | cons field outer =>
      rcases ends with rfl | rfl
      · rw [scanFields_comma]
        simp [Closes, advance]
        exact or_congr_left (and_congr_left fun same => by rw [same])
      · rw [scanFields_close]
        simp [Closes, advance]
        exact or_congr_left (and_congr_left fun same => by rw [same])
  · have plain : c ≠ ',' ∧ c ≠ '[' ∧ c ≠ ']' := ⟨fun h => ends (.inl h), opens, fun h => ends (.inr h)⟩
    rw [scanFields_plain _ _ plain]
    simp [Closes, advance, opens, ends]

theorem scanFields_iff_closes (target w : List Char) (open_ : List (List Char)) :
    scanFields target w open_ = true ↔ ∃ a c b, w = a ++ c :: b ∧ Closes target c (readAll open_ a) := by
  induction w generalizing open_ with
  | nil => simp [scanFields]
  | cons c rest ih =>
    rw [scanFields_cons_iff, ih]
    constructor
    · rintro (closes | ⟨a, c', b, rfl, closes⟩)
      · exact ⟨[], c, rest, rfl, closes⟩
      · exact ⟨c :: a, c', b, rfl, closes⟩
    · rintro ⟨a, c', b, split, closes⟩
      cases a with
      | nil =>
        obtain ⟨rfl, rfl⟩ := List.cons.inj split
        exact .inl closes
      | cons x a =>
        obtain ⟨rfl, rfl⟩ := List.cons.inj split
        exact .inr ⟨a, c', b, rfl, closes⟩

theorem advance_of_descend {c : Char} {d d' : Nat} (S rest : List (List Char)) (read : descend comma d c = some d')
    (sized : S.length = d) : ∃ S', S'.length = d' ∧ advance c (S ++ rest) = S' ++ rest.map (c :: ·) := by
  by_cases opens : c = '['
  · subst opens
    have deeper : d' = d + 1 := by simpa [descend, Ends, comma, eq_comm] using read
    exact ⟨[] :: S.map ('[' :: ·), by simp [sized, deeper], by simp [advance, extendAll]⟩
  by_cases ends : c = ',' ∨ c = ']'
  · have inside : d ≠ 0 := fun top => by
      rcases ends with rfl | rfl <;> simp [descend, Ends, comma, top] at read
    obtain ⟨top, S, rfl⟩ := List.exists_cons_of_length_pos (sized ▸ Nat.pos_of_ne_zero inside)
    rcases ends with rfl | rfl
    · have same : d' = d := by simpa [descend, Ends, comma, inside, eq_comm] using read
      exact ⟨[] :: S.map (',' :: ·), by simp [same, ← sized], by simp [advance, extendAll]⟩
    · have shallower : d' = d - 1 := by simpa [descend, Ends, comma, inside, eq_comm] using read
      exact ⟨S.map (']' :: ·), by simp [shallower, ← sized], by simp [advance, extendAll]⟩
  · have plain : d' = d := by
      have kept : c ≠ ',' ∧ c ≠ ']' := ⟨fun h => ends (.inl h), fun h => ends (.inr h)⟩
      simp [descend, Ends, comma, opens, kept] at read
      exact read.symm
    exact ⟨S.map (c :: ·), by simp [plain, sized], by simp [advance, opens, ends, extendAll]⟩

theorem readAll_of_depth (u : List Char) : ∀ {d e : Nat} (S rest : List (List Char)), depth comma d u = some e →
    S.length = d → ∃ S', S'.length = e ∧ readAll (S ++ rest) u = S' ++ rest.map (u.reverse ++ ·) := by
  induction u with
  | nil =>
    intro d e S rest read sized
    simp only [depth, Option.some.injEq] at read
    exact ⟨S, sized.trans read, by simp⟩
  | cons c u ih =>
    intro d e S rest read sized
    obtain ⟨d', stepped, later⟩ : ∃ d', descend comma d c = some d' ∧ depth comma d' u = some e := by
      simpa [depth, Option.bind_eq_some_iff] using read
    obtain ⟨S₁, sized₁, advanced⟩ := advance_of_descend S rest stepped sized
    obtain ⟨S', sized', rest'⟩ := ih S₁ (rest.map (c :: ·)) later sized₁
    refine ⟨S', sized', ?_⟩
    rw [readAll_cons, advanced, rest']
    simp [Function.comp_def]

theorem length_readAll {p : List Char} {d : Nat} (read : depth comma 0 p = some d) : (readAll [] p).length = d := by
  obtain ⟨S', sized, same⟩ := readAll_of_depth p [] [] read rfl
  simp only [List.append_nil, List.map_nil] at same
  rw [same]
  exact sized

theorem extendAll_eq_append {c : Char} {R S outer : List (List Char)} {field : List Char}
    (extended : extendAll c R = S ++ field :: outer) :
    ∃ T f outer', R = T ++ f :: outer' ∧ T.length = S.length ∧ field = c :: f := by
  obtain ⟨T, R', rfl, mappedT, mappedR⟩ := List.map_eq_append_iff.mp extended
  obtain ⟨f, outer', rfl, rfl, -⟩ := List.map_eq_cons_iff.mp mappedR
  exact ⟨T, f, outer', rfl, by rw [← mappedT, List.length_map], rfl⟩

theorem advance_entry {c : Char} {R S outer : List (List Char)} {field : List Char}
    (advanced : advance c R = S ++ field :: outer) :
    (S = [] ∧ field = [] ∧ (c = '[' ∨ (c = ',' ∧ R ≠ []))) ∨
      ∃ T f outer', R = T ++ f :: outer' ∧ field = c :: f ∧ descend comma T.length c = some S.length := by
  by_cases opens : c = '['
  · subst opens
    simp only [advance, if_true] at advanced
    cases S with
    | nil =>
      obtain ⟨rfl, -⟩ := List.cons.inj advanced
      exact .inl ⟨rfl, rfl, .inl rfl⟩
    | cons top S =>
      obtain ⟨-, extended⟩ := List.cons.inj advanced
      obtain ⟨T, f, outer', rfl, sized, rfl⟩ := extendAll_eq_append extended
      exact .inr ⟨T, f, outer', rfl, rfl, by simp [descend, Ends, comma, sized]⟩
  by_cases ends : c = ',' ∨ c = ']'
  · cases R with
    | nil =>
      simp [advance, opens, ends] at advanced
    | cons top R =>
      rcases ends with rfl | rfl
      · simp only [advance, opens, if_false, true_or, if_true] at advanced
        cases S with
        | nil =>
          obtain ⟨rfl, -⟩ := List.cons.inj advanced
          exact .inl ⟨rfl, rfl, .inr ⟨rfl, List.cons_ne_nil _ _⟩⟩
        | cons top' S =>
          obtain ⟨-, extended⟩ := List.cons.inj advanced
          obtain ⟨T, f, outer', rfl, sized, rfl⟩ := extendAll_eq_append extended
          exact .inr ⟨top :: T, f, outer', rfl, rfl, by simp [descend, Ends, comma, sized]⟩
      · simp only [advance, opens, if_false, or_true, if_true] at advanced
        obtain ⟨T, f, outer', rfl, sized, rfl⟩ := extendAll_eq_append advanced
        exact .inr ⟨top :: T, f, outer', rfl, rfl, by simp [descend, Ends, comma, sized]⟩
  · simp only [advance, opens, ends, if_false] at advanced
    obtain ⟨T, f, outer', rfl, sized, rfl⟩ := extendAll_eq_append advanced
    have kept : c ≠ ',' ∧ c ≠ ']' := ⟨fun h => ends (.inl h), fun h => ends (.inr h)⟩
    exact .inr ⟨T, f, outer', rfl, rfl, by simp [descend, Ends, comma, opens, kept, sized]⟩

theorem entry_of_readAll (a : List Char) : ∀ {S outer : List (List Char)} {field : List Char},
    readAll [] a = S ++ field :: outer →
      ∃ p o, a = p ++ o :: field.reverse ∧ (o = '[' ∨ (o = ',' ∧ readAll [] p ≠ [])) ∧
        depth comma 0 field.reverse = some S.length := by
  induction a using List.reverseRecOn with
  | nil =>
    intro S outer field empty
    simp at empty
  | append_singleton a c ih =>
    intro S outer field read
    rw [readAll_append, readAll_cons, readAll_nil] at read
    rcases advance_entry read with ⟨rfl, rfl, starts⟩ | ⟨T, f, outer', before, rfl, stepped⟩
    · exact ⟨a, c, by simp, starts, rfl⟩
    · obtain ⟨p, o, rfl, starts, inner⟩ := ih before
      refine ⟨p, o, by simp, starts, ?_⟩
      rw [List.reverse_cons, depth_append, inner, Option.bind_some]
      simp [depth, stepped]

def ListField (w u : List Char) : Prop :=
  ∃ p o c q, w = p ++ o :: u ++ c :: q ∧ (o = '[' ∨ o = ',') ∧ (c = ',' ∨ c = ']') ∧ Balanced comma u

theorem readAll_starts {p : List Char} {o : Char} (rest : List Char) (balanced : Balanced comma (p ++ o :: rest))
    (starts : o = '[' ∨ o = ',') : ∃ outer, readAll [] (p ++ [o]) = [] :: outer := by
  rw [readAll_append, readAll_cons, readAll_nil]
  rcases starts with rfl | rfl
  · exact ⟨extendAll '[' (readAll [] p), by simp [advance]⟩
  · -- the comma lies inside a list, so a field is open before it
    have reads : (depth comma 0 p).bind (fun d => depth comma d (',' :: rest)) = some 0 := by
      rw [← depth_append]
      exact balanced
    obtain ⟨d, before, after⟩ := Option.bind_eq_some_iff.mp reads
    have inside : d ≠ 0 := fun top => by simp [depth, descend, Ends, comma, top] at after
    obtain ⟨top, R, opened⟩ := List.exists_cons_of_length_pos ((length_readAll before).symm ▸ Nat.pos_of_ne_zero inside)
    exact ⟨extendAll ',' R, by simp [opened, advance]⟩

theorem scanFields_iff_listField {w : List Char} (balanced : Balanced comma w) (u : List Char) :
    scanFields u.reverse w [] = true ↔ u ≠ [] ∧ ListField w u := by
  rw [scanFields_iff_closes]
  constructor
  · rintro ⟨a, c, q, rfl, ends, written, top⟩
    obtain ⟨outer, read⟩ := List.head?_eq_some_iff.mp top
    obtain ⟨p, o, rfl, starts, inner⟩ := entry_of_readAll a (S := []) read
    refine ⟨by simpa using written, p, o, c, q, by simp, starts.imp_right And.left, ends, by simpa [Balanced] using inner⟩
  · rintro ⟨written, p, o, c, q, rfl, starts, ends, inner⟩
    obtain ⟨outer, opened⟩ := readAll_starts (u ++ c :: q) (by simpa using balanced) starts
    obtain ⟨S', sized, read⟩ := readAll_of_depth u [] ([] :: outer) inner rfl
    rw [List.length_eq_zero_iff.mp sized, List.nil_append, List.nil_append] at read
    refine ⟨p ++ o :: u, c, q, by simp, ends, by simpa using written, ?_⟩
    rw [show p ++ o :: u = (p ++ [o]) ++ u by simp, readAll_append, opened, read]
    simp

inductive Built : Key → Prop where
  | list {fields : List Field} (plain : ∀ s, Field.text s ∈ fields → Plain s)
      (nested : ∀ k, Field.nested k ∈ fields → Built k) : Built (ofFields fields)
  | concat {parts : List Key} (each : ∀ k ∈ parts, Built k) : Built (concat (parts.map (·.text)))

theorem balanced_field {fields : List Field} (plain : ∀ s, Field.text s ∈ fields → Plain s)
    (nested : ∀ k, Field.nested k ∈ fields → Balanced comma k.text.toList) {f : Field} (member : f ∈ fields) :
    Balanced comma f.render.toList := by
  cases f with
  | count v => exact balanced_count v
  | hex v => exact balanced_hex v
  | text s => exact balanced_text (plain s member)
  | nested k => exact nested k member

theorem Built.balanced {k : Key} (built : Built k) : Balanced comma k.text.toList := by
  induction built with
  | list plain _ nested => exact balanced_ofFields (fun _ member => balanced_field plain nested member) rfl
  | concat _ each =>
    rw [Key.concat, String.toList_join, List.flatMap_map]
    exact balanced_flatMap each

-- A built key has a field `s` exactly when `s` is the whole key or a nonempty field of one of its
-- lists, at any depth.
theorem hasField_iff_listField {k : Key} (built : Built k) (s : String) :
    k.hasField s ↔ k.text = s ∨ (s ≠ "" ∧ ListField k.text.toList s.toList) := by
  rw [hasField, Bool.or_eq_true, beq_iff_eq, scanFields_iff_listField built.balanced, Ne, Ne,
    String.toList_eq_nil_iff]

-- A library key nested in a linked key, next to a plain field: the library's shader name is a field of
-- the linked key.
theorem linked_key_lists_library_fields :
    Built (ofFields [.nested (ofFields [.text "shader.vert", .text "main", .hex 1]), .text "null"]) ∧
      ((ofFields [.nested (ofFields [.text "shader.vert", .text "main", .hex 1]), .text "null"]).hasField "shader.vert" ↔
        (ofFields [.nested (ofFields [.text "shader.vert", .text "main", .hex 1]), .text "null"]).text = "shader.vert" ∨
          ("shader.vert" ≠ "" ∧
            ListField (ofFields [.nested (ofFields [.text "shader.vert", .text "main", .hex 1]), .text "null"]).text.toList
              "shader.vert".toList)) := by
  have library : Built (ofFields [.text "shader.vert", .text "main", .hex 1]) := by
    refine .list (fun s member => ?_) fun k member => ?_
    · simp only [List.mem_cons, Field.text.injEq, List.not_mem_nil, reduceCtorEq, or_false] at member
      rcases member with rfl | rfl <;> decide
    · simp at member
  have linked : Built (ofFields [.nested (ofFields [.text "shader.vert", .text "main", .hex 1]), .text "null"]) := by
    refine .list (fun s member => ?_) fun k member => ?_
    · simp only [List.mem_cons, Field.text.injEq, List.not_mem_nil, reduceCtorEq, false_or, or_false] at member
      subst member
      decide
    · simp only [List.mem_cons, Field.nested.injEq, List.not_mem_nil, reduceCtorEq, or_false] at member
      subst member
      exact library
  exact ⟨linked, hasField_iff_listField linked "shader.vert"⟩

example : (Key.mk "[mesh.vert2,main,0x11,[0x0,0,0],[]]").hasField "mesh.vert" = false := by decide

theorem ListField.widen {w w' u : List Char} (field : ListField w u) (inside : w <:+: w') : ListField w' u := by
  obtain ⟨p, o, c, q, rfl, starts, ends, balanced⟩ := field
  obtain ⟨x, y, rfl⟩ := inside
  exact ⟨x ++ p, o, c, q ++ y, by simp, starts, ends, balanced⟩

theorem ListField.contained {w u : List Char} (field : ListField w u) : u <:+: w := by
  obtain ⟨p, o, c, q, rfl, -⟩ := field
  exact ⟨p ++ [o], c :: q, by simp⟩

theorem listField_items (o : Char) (starts : o = '[' ∨ o = ',') {ws : List (List Char)} {w : List Char}
    (member : w ∈ ws) (balanced : Balanced comma w) : ListField (o :: ([','].intercalate ws ++ [']'])) w := by
  induction ws generalizing o with
  | nil => exact absurd member List.not_mem_nil
  | cons x rest ih =>
    cases rest with
    | nil =>
      obtain rfl := List.mem_singleton.mp member
      exact ⟨[], o, ']', [], by simp, starts, .inr rfl, balanced⟩
    | cons y rest =>
      rw [List.intercalate_cons_cons]
      rcases List.mem_cons.mp member with rfl | later
      · exact ⟨[], o, ',', [','].intercalate (y :: rest) ++ [']'], by simp, starts, .inl rfl, balanced⟩
      · exact (ih ',' (.inr rfl) later).widen ⟨o :: x, [], by simp⟩

theorem listField_ofFields {fields : List Field} {f : Field} (member : f ∈ fields)
    (balanced : Balanced comma f.render.toList) : ListField (ofFields fields).text.toList f.render.toList := by
  rw [toList_ofFields]
  exact listField_items '[' (.inl rfl) (List.mem_map_of_mem member) balanced

section Builder

variable {fields : List Field} (plain : ∀ s, Field.text s ∈ fields → Plain s) (nested : ∀ k, Field.nested k ∈ fields → Built k)
include plain nested

theorem hasField_of_appended {f : Field} (member : f ∈ fields) (written : f.render ≠ "") :
    (ofFields fields).hasField f.render := by
  have balanced := balanced_field plain (fun k inside => (nested k inside).balanced) member
  exact (hasField_iff_listField (.list plain nested) _).mpr (.inr ⟨written, listField_ofFields member balanced⟩)

theorem hasField_of_nested {k : Key} (member : Field.nested k ∈ fields) {s : String} (written : s ≠ "")
    (found : k.hasField s) : (ofFields fields).hasField s := by
  rcases (hasField_iff_listField (nested k member) s).mp found with rfl | ⟨-, field⟩
  · exact hasField_of_appended plain nested member written
  · have whole := listField_ofFields member (nested k member).balanced
    exact (hasField_iff_listField (.list plain nested) s).mpr (.inr ⟨written, field.widen whole.contained⟩)

end Builder

end RenderCore.Key
