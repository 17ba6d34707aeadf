import RenderCore.Key.Basic
namespace RenderCore.Key

def Ends (stops : Char → Bool) (c : Char) : Prop :=
  c = ']' ∨ stops c = true

instance (stops : Char → Bool) (c : Char) : Decidable (Ends stops c) :=
  inferInstanceAs (Decidable (c = ']' ∨ stops c = true))

def descend (stops : Char → Bool) (d : Nat) (c : Char) : Option Nat :=
  if d = 0 ∧ Ends stops c then none
  else if c = '[' then some (d + 1)
  else if c = ']' then some (d - 1)
  else some d

def depth (stops : Char → Bool) : Nat → List Char → Option Nat
  | d, [] => some d
  | d, c :: rest => (descend stops d c).bind fun d' => depth stops d' rest

def Balanced (stops : Char → Bool) (w : List Char) : Prop :=
  depth stops 0 w = some 0

instance (stops : Char → Bool) (w : List Char) : Decidable (Balanced stops w) :=
  inferInstanceAs (Decidable (depth stops 0 w = some 0))

variable {stops : Char → Bool}

theorem depth_append (d : Nat) (a b : List Char) :
    depth stops d (a ++ b) = (depth stops d a).bind fun d' => depth stops d' b := by
  induction a generalizing d with
  | nil => rfl
  | cons c rest ih =>
    simp only [List.cons_append, depth]
    cases descend stops d c with
    | none => rfl
    | some d' => exact ih d'

theorem balanced_append {a b : List Char} (first : Balanced stops a) (second : Balanced stops b) :
    Balanced stops (a ++ b) := by
  rw [Balanced, depth_append, first, Option.bind_some]
  exact second

theorem balanced_flatMap {α : Type} {f : α → List Char} {xs : List α} (each : ∀ x ∈ xs, Balanced stops (f x)) :
    Balanced stops (xs.flatMap f) := by
  induction xs with
  | nil => rfl
  | cons x rest ih =>
    rw [List.flatMap_cons]
    exact balanced_append (each x List.mem_cons_self) (ih fun x member => each x (List.mem_cons_of_mem _ member))

theorem descend_inside (stops' : Char → Bool) {d d' m : Nat} {c : Char} (read : descend stops d c = some d')
    (inside : 0 < m) : descend stops' (d + m) c = some (d' + m) := by
  unfold descend at read ⊢
  have outside : ¬(d + m = 0 ∧ Ends stops' c) := fun top => by omega
  rw [if_neg outside]
  split at read
  · cases read
  · rename_i ended
    split at read
    · rename_i opens
      cases read
      simp [opens]
      omega
    · split at read
      · rename_i opens closes
        cases read
        have deeper : d ≠ 0 := fun top => ended ⟨top, .inl closes⟩
        simp [closes]
        omega
      · rename_i opens closes
        cases read
        simp [opens, closes]

theorem depth_inside (stops' : Char → Bool) {m : Nat} (inside : 0 < m) :
    ∀ (w : List Char) (d k : Nat), depth stops d w = some k → depth stops' (d + m) w = some (k + m) := by
  intro w
  induction w with
  | nil =>
    intro d k read
    simp only [depth, Option.some.injEq] at read ⊢
    omega
  | cons c rest ih =>
    intro d k read
    simp only [depth] at read ⊢
    cases stepped : descend stops d c with
    | none => simp [stepped] at read
    | some d' =>
      rw [stepped, Option.bind_some] at read
      rw [descend_inside stops' stepped inside, Option.bind_some]
      exact ih d' k read

theorem balanced_of_plain {w : List Char} (plain : ∀ c ∈ w, c ≠ '[' ∧ c ≠ ']' ∧ stops c = false) :
    Balanced stops w := by
  induction w with
  | nil => rfl
  | cons c rest ih =>
    obtain ⟨opens, closes, stop⟩ := plain c List.mem_cons_self
    have stays : descend stops 0 c = some 0 := by simp [descend, Ends, opens, closes, stop]
    simp only [Balanced, depth, stays, Option.bind_some]
    exact ih fun c member => plain c (List.mem_cons_of_mem _ member)

theorem depth_cons_of_ends {c : Char} (ends : Ends stops c) (rest : List Char) :
    depth stops 0 (c :: rest) = none := by
  simp [depth, descend, ends]

theorem not_ends_of_balanced {a t : List Char} {c : Char} (balanced : Balanced stops a)
    (reads : depth stops 0 (a ++ c :: t) ≠ none) : ¬ Ends stops c := by
  intro ends
  rw [depth_append, balanced, Option.bind_some, depth_cons_of_ends ends] at reads
  exact reads rfl

theorem cut_unique {a b x y : List Char} {c c' : Char} (balancedA : Balanced stops a) (balancedB : Balanced stops b)
    (ends : Ends stops c) (ends' : Ends stops c') (same : a ++ c :: x = b ++ c' :: y) :
    a = b ∧ c = c' ∧ x = y := by
  rcases List.append_eq_append_iff.mp same with ⟨m, longer, rest⟩ | ⟨m, longer, rest⟩
  · cases m with
    | nil => simp_all
    | cons e m =>
      obtain ⟨rfl, -⟩ := List.cons_eq_cons.mp rest
      have reads : depth stops 0 (a ++ c :: m) ≠ none := by rw [← longer, balancedB]; simp
      exact absurd ends (not_ends_of_balanced balancedA reads)
  · cases m with
    | nil => simp_all
    | cons e m =>
      obtain ⟨rfl, -⟩ := List.cons_eq_cons.mp rest
      have reads : depth stops 0 (b ++ c' :: m) ≠ none := by rw [← longer, balancedA]; simp
      exact absurd ends' (not_ends_of_balanced balancedB reads)

def comma (c : Char) : Bool := c == ','

theorem depth_intercalate {ws : List (List Char)} (whole : ∀ w ∈ ws, Balanced comma w) {d : Nat}
    (inside : 0 < d) : depth stops d ([','].intercalate ws) = some d := by
  induction ws with
  | nil => rfl
  | cons w rest ih =>
    have first : depth stops d w = some d := by
      simpa using depth_inside stops inside w 0 0 (whole w List.mem_cons_self)
    cases rest with
    | nil => simpa using first
    | cons w' rest =>
      have separated : descend stops d ',' = some d := by simp [descend, Ends, Nat.pos_iff_ne_zero.mp inside]
      rw [List.intercalate_cons_cons, List.append_assoc, depth_append, first, Option.bind_some,
        List.singleton_append, depth, separated, Option.bind_some]
      exact ih fun w member => whole w (List.mem_cons_of_mem _ member)

theorem toList_ofFields (fields : List Field) :
    (ofFields fields).text.toList = '[' :: ([','].intercalate (fields.map (·.render.toList)) ++ [']']) := by
  simp [ofFields, String.toList_intercalate, List.map_map, Function.comp_def]

theorem balanced_ofFields {fields : List Field} (whole : ∀ f ∈ fields, Balanced comma f.render.toList)
    (opens : stops '[' = false) : Balanced stops (ofFields fields).text.toList := by
  have entered : descend stops 0 '[' = some 1 := by simp [descend, Ends, opens]
  have inner : depth stops 1 ([','].intercalate (fields.map (·.render.toList))) = some 1 :=
    depth_intercalate (by simpa using whole) Nat.one_pos
  rw [Balanced, toList_ofFields, depth, entered, Option.bind_some, depth_append, inner, Option.bind_some]
  rfl

theorem fields_unique {fs gs : List (List Char)} (wholeF : ∀ f ∈ fs, Balanced comma f)
    (wholeG : ∀ g ∈ gs, Balanced comma g) (someF : fs ≠ []) (someG : gs ≠ []) {x y : List Char}
    (same : [','].intercalate fs ++ ']' :: x = [','].intercalate gs ++ ']' :: y) : fs = gs ∧ x = y := by
  have closes : Ends comma ']' := .inl rfl
  have separates : Ends comma ',' := .inr rfl
  induction fs generalizing gs with
  | nil => exact absurd rfl someF
  | cons f fs ih =>
    obtain _ | ⟨g, gs⟩ := gs
    · exact absurd rfl someG
    have f_whole := wholeF f List.mem_cons_self
    have g_whole := wholeG g List.mem_cons_self
    cases fs with
    | nil =>
      cases gs with
      | nil =>
        obtain ⟨rfl, -, rfl⟩ := cut_unique f_whole g_whole closes closes (by simpa using same)
        exact ⟨rfl, rfl⟩
      | cons g' gs =>
        rw [List.intercalate_cons_cons, List.intercalate_singleton] at same
        simp only [List.append_assoc, List.singleton_append] at same
        exact absurd (cut_unique f_whole g_whole closes separates same).2.1 (by decide)
    | cons f' fs =>
      cases gs with
      | nil =>
        rw [List.intercalate_cons_cons, List.intercalate_singleton] at same
        simp only [List.append_assoc, List.singleton_append] at same
        exact absurd (cut_unique f_whole g_whole separates closes same).2.1 (by decide)
      | cons g' gs =>
        rw [List.intercalate_cons_cons, List.intercalate_cons_cons] at same
        simp only [List.append_assoc, List.singleton_append] at same
        obtain ⟨rfl, -, rest⟩ := cut_unique f_whole g_whole separates separates same
        obtain ⟨tails, rfl⟩ := ih (fun f member => wholeF f (List.mem_cons_of_mem _ member))
          (fun g member => wholeG g (List.mem_cons_of_mem _ member)) (List.cons_ne_nil _ _)
          (List.cons_ne_nil _ _) rest
        exact ⟨by rw [tails], rfl⟩

theorem ofFields_cancel {fs gs : List Field} (wholeF : ∀ f ∈ fs, Balanced comma f.render.toList)
    (wholeG : ∀ g ∈ gs, Balanced comma g.render.toList) (someF : fs ≠ []) (someG : gs ≠ []) {x y : List Char}
    (same : (ofFields fs).text.toList ++ x = (ofFields gs).text.toList ++ y) :
    fs.map (·.render) = gs.map (·.render) ∧ x = y := by
  rw [toList_ofFields, toList_ofFields] at same
  simp only [List.cons_append, List.cons.injEq, true_and, List.append_assoc] at same
  obtain ⟨rendered, rest⟩ := fields_unique (by simpa using wholeF) (by simpa using wholeG)
    (by simpa using someF) (by simpa using someG) same
  refine ⟨?_, rest⟩
  have texts := congrArg (List.map String.ofList) rendered
  simpa [List.map_map, Function.comp_def] using texts

theorem ofFields_inj {fs gs : List Field} (wholeF : ∀ f ∈ fs, Balanced comma f.render.toList)
    (wholeG : ∀ g ∈ gs, Balanced comma g.render.toList) (someF : fs ≠ []) (someG : gs ≠ [])
    (same : ofFields fs = ofFields gs) : fs.map (·.render) = gs.map (·.render) :=
  (ofFields_cancel wholeF wholeG someF someG (x := []) (y := []) (by rw [same])).1

theorem ofFields_nil_ne {f : Field} {fs : List Field} (whole : Balanced comma f.render.toList)
    (written : f.render.toList ≠ []) : ofFields [] ≠ ofFields (f :: fs) := by
  intro same
  have text := congrArg (·.text.toList) same
  obtain ⟨e, es, first⟩ := List.exists_cons_of_ne_nil written
  rw [first] at whole
  have opening : e ≠ ']' := by
    rintro rfl
    rw [Balanced, depth_cons_of_ends (.inl rfl)] at whole
    cases whole
  cases fs <;> simp [toList_ofFields, first, List.intercalate_cons_cons, Ne.symm opening] at text

def Listed (k : Key) : Prop :=
  ∃ fields : List Field, fields ≠ [] ∧ (∀ f ∈ fields, Balanced comma f.render.toList) ∧ k = ofFields fields

theorem Listed.cancel {k k' : Key} (listed : Listed k) (listed' : Listed k') {x y : List Char}
    (same : k.text.toList ++ x = k'.text.toList ++ y) : k = k' ∧ x = y := by
  obtain ⟨fs, someF, wholeF, rfl⟩ := listed
  obtain ⟨gs, someG, wholeG, rfl⟩ := listed'
  obtain ⟨rendered, rest⟩ := ofFields_cancel wholeF wholeG someF someG same
  exact ⟨by simp only [ofFields, rendered], rest⟩

theorem Listed.toList_ne_nil {k : Key} (listed : Listed k) : k.text.toList ≠ [] := by
  obtain ⟨fields, -, -, rfl⟩ := listed
  simp [toList_ofFields]

theorem Listed.balanced {k : Key} (listed : Listed k) (opens : stops '[' = false) : Balanced stops k.text.toList := by
  obtain ⟨fields, -, whole, rfl⟩ := listed
  exact balanced_ofFields whole opens

theorem listed_flatMap_inj {ks ks' : List Key} (listed : ∀ k ∈ ks, Listed k) (listed' : ∀ k ∈ ks', Listed k)
    (same : ks.flatMap (·.text.toList) = ks'.flatMap (·.text.toList)) : ks = ks' := by
  induction ks generalizing ks' with
  | nil =>
    cases ks' with
    | nil => rfl
    | cons k' rest' =>
      have written := (listed' k' List.mem_cons_self).toList_ne_nil
      simp_all
  | cons k rest ih =>
    cases ks' with
    | nil =>
      have written := (listed k List.mem_cons_self).toList_ne_nil
      simp_all
    | cons k' rest' =>
      simp only [List.flatMap_cons] at same
      obtain ⟨rfl, later⟩ := (listed k List.mem_cons_self).cancel (listed' k' List.mem_cons_self) same
      rw [ih (fun k member => listed k (List.mem_cons_of_mem _ member))
        (fun k member => listed' k (List.mem_cons_of_mem _ member)) later]

def Plain (s : String) : Prop :=
  ∀ c ∈ s.toList, c ≠ ',' ∧ c ≠ '[' ∧ c ≠ ']'

-- Decided character by character: a bounded `∀` over characters would otherwise be decided by
-- trying every character there is.
instance (s : String) : Decidable (Plain s) :=
  decidable_of_iff (s.toList.all fun c => c != ',' && c != '[' && c != ']') (by simp [Plain, and_assoc])

theorem balanced_text {s : String} (plain : Plain s) : Balanced comma (Field.text s).render.toList :=
  balanced_of_plain fun c member => by
    obtain ⟨notComma, opens, closes⟩ := plain c member
    exact ⟨opens, closes, by simpa [comma] using notComma⟩

theorem balanced_nested {fields : List Field} (whole : ∀ f ∈ fields, Balanced comma f.render.toList) :
    Balanced comma (Field.nested (ofFields fields)).render.toList :=
  balanced_ofFields whole rfl

theorem mem_toDigits {b n : Nat} (base : 1 < b) {c : Char} (member : c ∈ Nat.toDigits b n) :
    ∃ d < b, c = Nat.digitChar d := by
  induction n using Nat.strongRecOn with
  | _ n ih =>
    rw [Nat.toDigits_eq_if base] at member
    split at member
    · exact ⟨n, ‹_›, List.mem_singleton.mp member⟩
    · rcases List.mem_append.mp member with high | low
      · exact ih (n / b) (Nat.div_lt_self (by omega) base) high
      · exact ⟨n % b, Nat.mod_lt _ (by omega), List.mem_singleton.mp low⟩

theorem toDigits_map_inj {b : Nat} (f : Char → Char) (base : 1 < b)
    (apart : ∀ x < b, ∀ y < b, f (Nat.digitChar x) = f (Nat.digitChar y) → x = y) :
    ∀ n m, (Nat.toDigits b n).map f = (Nat.toDigits b m).map f → n = m := by
  intro n
  induction n using Nat.strongRecOn with
  | _ n ih =>
    intro m same
    rw [Nat.toDigits_eq_if base, Nat.toDigits_eq_if base (n := m)] at same
    by_cases small : n < b <;> by_cases small' : m < b <;> simp only [small, small', if_true, if_false] at same
    · simpa using apart n small m small' (by simpa using same)
    · -- one digit against at least two
      have lengths := congrArg List.length same
      simp only [List.map_cons, List.map_nil, List.length_cons, List.length_nil, List.map_append,
        List.length_append, List.length_map] at lengths
      have := @Nat.length_toDigits_pos b (m / b)
      omega
    · have lengths := congrArg List.length same
      simp only [List.map_cons, List.map_nil, List.length_cons, List.length_nil, List.map_append,
        List.length_append, List.length_map] at lengths
      have := @Nat.length_toDigits_pos b (n / b)
      omega
    · simp only [List.map_append, List.map_cons, List.map_nil] at same
      obtain ⟨high, low⟩ := List.append_inj' same rfl
      have quotient := ih (n / b) (Nat.div_lt_self (by omega) base) (m / b) high
      have remainder := apart (n % b) (Nat.mod_lt _ (by omega)) (m % b) (Nat.mod_lt _ (by omega))
        (List.cons_eq_cons.mp low).1
      rw [← Nat.div_add_mod n b, ← Nat.div_add_mod m b, quotient, remainder]

def upperDigits (n : Nat) : List Char := (Nat.toDigits 16 n).map Char.toUpper

theorem toList_render_count (v : UInt32) : (Field.count v).render.toList = Nat.toDigits 10 v.toNat := by
  simp [Field.render, Nat.toString_eq_repr, Nat.toList_repr]

theorem toList_render_hex (v : UInt64) : (Field.hex v).render.toList = '0' :: 'x' :: upperDigits v.toNat := by
  simp [Field.render, Hex.word, Hex.upper, upperDigits]

theorem digitChar_plain : ∀ d < 16, ∀ c ∈ [Nat.digitChar d, (Nat.digitChar d).toUpper],
    c ≠ '[' ∧ c ≠ ']' ∧ c ≠ ',' ∧ c ≠ ':' := by
  simp only [List.mem_cons, List.not_mem_nil, or_false, forall_eq_or_imp, forall_eq]
  decide

theorem plain_of_mem_toDigits {b n : Nat} {c : Char} (base : 1 < b) (small : b ≤ 16) (member : c ∈ Nat.toDigits b n) :
    c ≠ '[' ∧ c ≠ ']' ∧ c ≠ ',' ∧ c ≠ ':' := by
  obtain ⟨d, digit, rfl⟩ := mem_toDigits base member
  exact digitChar_plain d (by omega) _ List.mem_cons_self

theorem plain_of_mem_upperDigits {n : Nat} {c : Char} (member : c ∈ upperDigits n) :
    c ≠ '[' ∧ c ≠ ']' ∧ c ≠ ',' ∧ c ≠ ':' := by
  obtain ⟨c, digit, rfl⟩ := List.mem_map.mp member
  obtain ⟨d, small, rfl⟩ := mem_toDigits (by decide) digit
  exact digitChar_plain d small _ (List.mem_cons_of_mem _ List.mem_cons_self)

theorem plain_count (v : UInt32) : Plain (Field.count v).render := by
  intro c member
  rw [toList_render_count] at member
  have plain := plain_of_mem_toDigits (by decide) (by decide) member
  exact ⟨plain.2.2.1, plain.1, plain.2.1⟩

theorem plain_hex (v : UInt64) : Plain (Field.hex v).render := by
  intro c member
  rw [toList_render_hex] at member
  rcases List.mem_cons.mp member with rfl | member
  · decide
  rcases List.mem_cons.mp member with rfl | member
  · decide
  have plain := plain_of_mem_upperDigits member
  exact ⟨plain.2.2.1, plain.1, plain.2.1⟩

theorem balanced_count (v : UInt32) : Balanced comma (Field.count v).render.toList :=
  balanced_text (plain_count v)

theorem balanced_hex (v : UInt64) : Balanced comma (Field.hex v).render.toList :=
  balanced_text (plain_hex v)

theorem upperDigits_inj {n m : Nat} (same : upperDigits n = upperDigits m) : n = m :=
  toDigits_map_inj (b := 16) Char.toUpper (by decide) (by decide) n m same

theorem toDigits_ten_inj {n m : Nat} (same : Nat.toDigits 10 n = Nat.toDigits 10 m) : n = m := by
  rw [← Nat.ofDigitChars_ten_toDigits (n := n), same, Nat.ofDigitChars_ten_toDigits]

theorem count_inj {v w : UInt32} (same : (Field.count v).render = (Field.count w).render) : v = w := by
  have digits := congrArg String.toList same
  rw [toList_render_count, toList_render_count] at digits
  exact UInt32.toNat_inj.mp (toDigits_ten_inj digits)

theorem hex_inj {v w : UInt64} (same : (Field.hex v).render = (Field.hex w).render) : v = w := by
  have digits := congrArg String.toList same
  rw [toList_render_hex, toList_render_hex] at digits
  exact UInt64.toNat_inj.mp (upperDigits_inj (List.cons.inj (List.cons.inj digits).2).2)

end RenderCore.Key
