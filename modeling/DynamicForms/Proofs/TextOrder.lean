import DynamicForms.Logic.Condition

/-!
# The order of texts

Two texts are compared as numbers, as moments or by their characters, whichever comes first that
fits both.  Whatever they are, looking at them the other way round turns the order round; among
texts that are all read in the same way it is a total preorder, which it is not among mixed ones.

* `compareChars_eq`, `compare_eq_compareLex` — the orders of characters and of moments are built
  from those of numbers, and are transitive like these.
* `compareTexts_cases` — the three ways to compare two texts.
* `compareTexts_swap` — the order of the two texts turned round.
* `PreordersOn.of_reading` — texts that are read in the same way are ordered like what is read.
* `ordersTexts` — what follows for all texts and values.
-/

set_option autoImplicit false

namespace DynamicForms

open Json (Value)

/-! ## Characters and moments -/

namespace Logic

theorem compareChars_eq (a b : List Char) :
    compareChars a b = compare (a.map Char.toNat) (b.map Char.toNat) := by
  induction a generalizing b with
  | nil => cases b <;> rfl
  | cons c a ih =>
    cases b with
    | nil => rfl
    | cons d b =>
      rw [List.map_cons, List.map_cons, List.compare_cons_cons, ← ih, compareChars]
      cases compare c.toNat d.toNat <;> rfl

instance : Std.TransCmp compareChars where
  eq_swap := by
    intro a b
    rw [compareChars_eq, compareChars_eq]
    exact Std.OrientedCmp.eq_swap
  isLE_trans := by
    intro a b c hab hbc
    rw [compareChars_eq] at hab hbc ⊢
    exact Std.TransCmp.isLE_trans hab hbc

end Logic

theorem Time.Moment.compare_eq_compareLex :
    Time.Moment.compare = compareLex (compareOn (·.seconds)) (compareOn (·.nanos)) := by
  funext a b
  unfold Time.Moment.compare compareLex compareOn
  cases Ord.compare a.seconds b.seconds <;> rfl

instance : Std.TransCmp Time.Moment.compare := by
  rw [Time.Moment.compare_eq_compareLex]
  infer_instance

namespace Logic

/-! ## The ways to compare two texts -/

/-- Two readings either both give something, or one of them does not. -/
theorem both_or_none {α β : Type} (o : Option α) (p : Option β) :
    (∃ x y, o = some x ∧ p = some y) ∨ o = none ∨ p = none := by
  cases o with
  | none => exact .inr (.inl rfl)
  | some x =>
    cases p with
    | none => exact .inr (.inr rfl)
    | some y => exact .inl ⟨x, y, rfl, rfl⟩

theorem ne_some_of_or {α β : Type} {o : Option α} {p : Option β} {x : α} {y : β}
    (h : o = none ∨ p = none) (ho : o = some x) : p ≠ some y := by
  rintro rfl
  rcases h with rfl | h
  · cases ho
  · cases h

section Ways

variable {a b : List Char}

theorem compareTexts_of_numbers {x y : Int} (ha : readNumber a = some x)
    (hb : readNumber b = some y) : compareTexts a b = compare x y := by
  simp only [compareTexts, ha, hb]

theorem compareTexts_of_none (h : readNumber a = none ∨ readNumber b = none) :
    compareTexts a b =
      match readMoment a, readMoment b with
      | some x, some y => x.compare y
      | _, _ => compareChars a b := by
  unfold compareTexts
  split
  · rename_i x y hx hy
    exact absurd hy (ne_some_of_or h hx)
  · rfl

theorem compareTexts_of_moments {x y : Time.Moment}
    (h : readNumber a = none ∨ readNumber b = none) (ha : readMoment a = some x)
    (hb : readMoment b = some y) : compareTexts a b = x.compare y := by
  rw [compareTexts_of_none h, ha, hb]

theorem compareTexts_of_chars (h : readNumber a = none ∨ readNumber b = none)
    (h' : readMoment a = none ∨ readMoment b = none) :
    compareTexts a b = compareChars a b := by
  rw [compareTexts_of_none h]
  split
  · rename_i x y hx hy
    exact absurd hy (ne_some_of_or h' hx)
  · rfl

/-- **Two texts are both numbers, or else both moments, or else neither.** -/
theorem compareTexts_cases (a b : List Char) :
    (∃ x y, readNumber a = some x ∧ readNumber b = some y) ∨
    (readNumber a = none ∨ readNumber b = none) ∧
      ((∃ x y, readMoment a = some x ∧ readMoment b = some y) ∨
        readMoment a = none ∨ readMoment b = none) :=
  (both_or_none _ _).imp_right fun h => ⟨h, both_or_none _ _⟩

/-- **Turning two texts round turns their order round**, whatever they are. -/
theorem compareTexts_swap (a b : List Char) : compareTexts a b = (compareTexts b a).swap := by
  rcases compareTexts_cases a b with ⟨x, y, ha, hb⟩ | ⟨hnumber, ⟨x, y, ha, hb⟩ | hmoment⟩
  · rw [compareTexts_of_numbers ha hb, compareTexts_of_numbers hb ha]
    exact Std.OrientedCmp.eq_swap
  · rw [compareTexts_of_moments hnumber ha hb, compareTexts_of_moments hnumber.symm hb ha]
    exact Std.OrientedCmp.eq_swap
  · rw [compareTexts_of_chars hnumber hmoment, compareTexts_of_chars hnumber.symm hmoment.symm]
    exact Std.OrientedCmp.eq_swap

end Ways

/-! ## Texts that are read in the same way -/

/-- The order of texts is a total preorder on those of a set. -/
structure PreordersOn (texts : List Char → Prop) : Prop where
  total : ∀ a b, texts a → texts b →
    (compareTexts a b).isLE = true ∨ (compareTexts b a).isLE = true
  trans : ∀ a b c, texts a → texts b → texts c → (compareTexts a b).isLE = true →
    (compareTexts b c).isLE = true → (compareTexts a c).isLE = true

/-- **Texts are ordered like what is read**, provided that all of them are read in the same way:
`reads` says what is read of a text, and `cmp` compares it. -/
theorem PreordersOn.of_reading {α : Type} {texts : List Char → Prop}
    (reads : List Char → α → Prop) (cmp : α → α → Ordering) [Std.TransCmp cmp]
    (hread : ∀ a, texts a → ∃ x, reads a x)
    (hcmp : ∀ a b x y, reads a x → reads b y → compareTexts a b = cmp x y) :
    PreordersOn texts where
  total := by
    intro a b _ _
    rw [compareTexts_swap b a]
    cases compareTexts a b <;> decide
  trans := by
    intro a b c ha hb hc hab hbc
    obtain ⟨x, hx⟩ := hread a ha
    obtain ⟨y, hy⟩ := hread b hb
    obtain ⟨z, hz⟩ := hread c hc
    rw [hcmp a b x y hx hy] at hab
    rw [hcmp b c y z hy hz] at hbc
    rw [hcmp a c x z hx hz]
    exact Std.TransCmp.isLE_trans hab hbc

section Readings

variable {texts : List Char → Prop}

theorem preordersOn_numbers (h : ∀ a, texts a → (readNumber a).isSome = true) :
    PreordersOn texts :=
  .of_reading (fun a x => readNumber a = some x) compare
    (fun a ha => Option.isSome_iff_exists.1 (h a ha))
    (fun _ _ _ _ hx hy => compareTexts_of_numbers hx hy)

theorem preordersOn_moments
    (h : ∀ a, texts a → readNumber a = none ∧ (readMoment a).isSome = true) :
    PreordersOn texts :=
  .of_reading (fun a x => readNumber a = none ∧ readMoment a = some x) Time.Moment.compare
    (fun a ha => (Option.isSome_iff_exists.1 (h a ha).2).imp fun _ hx => ⟨(h a ha).1, hx⟩)
    (fun _ _ _ _ hx hy => compareTexts_of_moments (.inl hx.1) hx.2 hy.2)

theorem preordersOn_chars (h : ∀ a, texts a → readNumber a = none ∧ readMoment a = none) :
    PreordersOn texts :=
  .of_reading (fun a x => a = x ∧ readNumber a = none ∧ readMoment a = none) compareChars
    (fun a ha => ⟨a, rfl, h a ha⟩)
    (by
      rintro a b _ _ ⟨rfl, hnumber, hmoment⟩ ⟨rfl, -⟩
      exact compareTexts_of_chars (.inl hnumber) (.inl hmoment))

end Readings

end Logic

/-! ## Main theorem -/

open Logic

theorem Condition.holds_greaterThan_iff {c : Condition} (hop : c.operator = .greaterThan)
    (form : Form) : c.holds form = true ↔
      valueOrder (form.value c.trigger) c.value = some .gt := by
  unfold holds holdsFor
  rw [hop, beq_iff_eq]

theorem Condition.holds_lessThan_iff {c : Condition} (hop : c.operator = .lessThan)
    (form : Form) : c.holds form = true ↔
      valueOrder (form.value c.trigger) c.value = some .lt := by
  unfold holds holdsFor
  rw [hop, beq_iff_eq]

/-- What holds of the order of texts, and of the conditions that ask for it. -/
structure OrdersTexts : Prop where
  swap : ∀ a b, compareTexts a b = (compareTexts b a).swap
  /-- One value is greater than the text of another one when that one is less than its text. -/
  mirrored : ∀ (greater less : Condition) (form other : Form) (x y : List Char),
    greater.operator = .greaterThan → less.operator = .lessThan →
    (form.value greater.trigger).text? = some x → (other.value less.trigger).text? = some y →
    greater.value = some (String.ofList y) → less.value = some (String.ofList x) →
    (greater.holds form = true ↔ less.holds other = true)
  /-- No value is both greater and less than a text. -/
  exclusive : ∀ (greater less : Condition) (form : Form),
    greater.operator = .greaterThan → less.operator = .lessThan →
    greater.trigger = less.trigger → greater.value = less.value →
    ¬ (greater.holds form = true ∧ less.holds form = true)
  numbers : ∀ texts : List Char → Prop,
    (∀ a, texts a → (readNumber a).isSome = true) → PreordersOn texts
  moments : ∀ texts : List Char → Prop,
    (∀ a, texts a → readNumber a = none ∧ (readMoment a).isSome = true) → PreordersOn texts
  chars : ∀ texts : List Char → Prop,
    (∀ a, texts a → readNumber a = none ∧ readMoment a = none) → PreordersOn texts

/-- **The order of texts can be turned round**, and so can the conditions that ask for it; numbers
among themselves are in a total preorder, and so are moments that are no numbers, and texts that
are neither. -/
theorem ordersTexts : OrdersTexts where
  swap := compareTexts_swap
  mirrored := by
    intro greater less form other x y hgreater hless hx hy hgreaterValue hlessValue
    rw [Condition.holds_greaterThan_iff hgreater, Condition.holds_lessThan_iff hless]
    simp only [valueOrder, hx, hy, hgreaterValue, hlessValue, String.toList_ofList,
      Option.some.injEq]
    rw [compareTexts_swap x y, Ordering.swap_eq_gt]
  exclusive := by
    rintro greater less form hgreater hless htrigger hvalue ⟨hgt, hlt⟩
    rw [Condition.holds_greaterThan_iff hgreater, htrigger, hvalue] at hgt
    rw [Condition.holds_lessThan_iff hless, hgt] at hlt
    cases hlt
  numbers := fun _ h => preordersOn_numbers h
  moments := fun _ h => preordersOn_moments h
  chars := fun _ h => preordersOn_chars h

/-- Among mixed texts there is no such order: two numbers and a text run in a circle. -/
example : compareTexts ['9'] ['1', '0'] = .lt ∧ compareTexts ['1', '0'] ['1', 'a'] = .lt ∧
    compareTexts ['1', 'a'] ['9'] = .lt := by decide +kernel

end DynamicForms
