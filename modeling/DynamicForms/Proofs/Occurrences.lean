import DynamicForms.Logic.Condition

/-!
# Occurrences without regard to case

Whether a text occurs in another one is decided between their lower cases, each taken as a whole.
Lower-casing looks at what stands around a capital sigma and at nothing else, so that an occurrence
may get lost there, but only there.

* `occursIn_iff` — the search finds every occurrence.
* `lowerAfter_append` — the lower case of a text is that of its parts between the other ones.
* `ReadsAlike`, `lowerBetween_eq_iff` — a part has the same lower case alone and in its place just
  when its capital sigmas end words in both or in neither.
* `readsAlike_of_notMem`, `readsAlike_of_apart` — so do parts without a capital sigma, and parts
  that are set apart from what is around them.
* `holds_contains_of_occurrence` — what occurs in a text is found where it reads alike.
* `sigma_not_found` — elsewhere it may be missed.
-/

set_option autoImplicit false

namespace DynamicForms

open Json (Value)

theorem Logic.occursIn_iff (part text : List Char) :
    occursIn part text = true ↔ ∃ before after, text = before ++ part ++ after := by
  induction text with
  | nil =>
    rw [occursIn, List.isEmpty_iff]
    constructor
    · rintro rfl
      exact ⟨[], [], rfl⟩
    · rintro ⟨before, after, h⟩
      simp_all
  | cons c text ih =>
    rw [occursIn, Bool.or_eq_true, List.isPrefixOf_iff_prefix, ih]
    constructor
    · rintro (⟨after, h⟩ | ⟨before, after, rfl⟩)
      · exact ⟨[], after, h.symm⟩
      · exact ⟨c :: before, after, rfl⟩
    · rintro ⟨before, after, h⟩
      cases before with
      | nil => exact .inl ⟨after, h.symm⟩
      | cons d before => exact .inr ⟨before, after, (List.cons.inj h).2⟩

namespace Text

/-! ## The lower case of a part -/

/-- The lower case of a text that stands between `before`, read backwards, and `after`. -/
def lowerBetween (after : List Char) : (before text : List Char) → List Char
  | _, [] => []
  | before, c :: rest => lowerIn before (rest ++ after) c ++ lowerBetween after (c :: before) rest

/-- **The lower case of a text** is that of its parts, each between the other ones. -/
theorem lowerAfter_append (text after : List Char) :
    ∀ before, lowerAfter before (text ++ after) =
      lowerBetween after before text ++ lowerAfter (text.reverse ++ before) after := by
  induction text with
  | nil => exact fun _ => rfl
  | cons c text ih =>
    intro before
    rw [List.cons_append, lowerAfter, ih, lowerBetween, List.reverse_cons, List.append_assoc,
      List.append_assoc]
    rfl

theorem lowerBetween_nil (text before : List Char) :
    lowerBetween [] before text = lowerAfter before text := by
  have h := lowerAfter_append text [] before
  rw [List.append_nil, lowerAfter, List.append_nil] at h
  exact h.symm

/-- Whether a capital sigma ends a word where it stands between two texts. -/
def endsWord (before after : List Char) : Bool :=
  reachesCased before.reverse && !reachesCased after

/-- Each capital sigma of a part ends a word alone just when it does so in its place. -/
def ReadsAlike (before part after : List Char) : Prop :=
  ∀ first last, part = first ++ 'Σ' :: last →
    endsWord (before ++ first) (last ++ after) = endsWord first last

theorem length_lowerIn (before after : List Char) (c : Char) :
    (lowerIn before after c).length = if c.toNat = 0x130 then 2 else 1 := by
  unfold lowerIn
  by_cases hsigma : c.toNat = 0x3A3
  · have hdotted : c.toNat ≠ 0x130 := by omega
    rw [if_pos hsigma, if_neg hdotted]
    split <;> rfl
  · rw [if_neg hsigma]
    split <;> rfl

/-- **Around a character** it only matters whether it is a capital sigma that ends a word. -/
theorem lowerIn_eq_iff {before after first last : List Char} {c : Char} :
    lowerIn before.reverse after c = lowerIn first.reverse last c ↔
      (c = 'Σ' → endsWord before after = endsWord first last) := by
  have hcode : 'Σ'.toNat = 0x3A3 := rfl
  unfold lowerIn endsWord
  by_cases hsigma : c = 'Σ'
  · rw [hsigma, hcode, if_pos rfl, if_pos rfl]
    cases reachesCased before.reverse && !reachesCased after <;>
      cases reachesCased first.reverse && !reachesCased last <;> decide
  · have hother : c.toNat ≠ 0x3A3 := fun h => hsigma (Char.toNat_inj.1 (h.trans hcode.symm))
    rw [if_neg hother, if_neg hother]
    exact iff_of_true rfl fun h => absurd h hsigma

/-- What was read of a part so far is kept in `first`. -/
theorem lowerBetween_append_eq_iff (before after rest : List Char) :
    ∀ first, lowerBetween after (before ++ first).reverse rest =
        lowerBetween [] first.reverse rest ↔
      ∀ mid last, rest = mid ++ 'Σ' :: last →
        endsWord (before ++ (first ++ mid)) (last ++ after) = endsWord (first ++ mid) last := by
  induction rest with
  | nil => exact fun _ => iff_of_true rfl (by simp)
  | cons c rest ih =>
    intro first
    have hlength : (lowerIn (before ++ first).reverse (rest ++ after) c).length =
        (lowerIn first.reverse (rest ++ []) c).length := by
      rw [length_lowerIn, length_lowerIn]
    have hplace : c :: (before ++ first).reverse = (before ++ (first ++ [c])).reverse := by simp
    have halone : c :: first.reverse = (first ++ [c]).reverse := by simp
    rw [lowerBetween, lowerBetween, List.append_eq_append_iff_of_size_eq_left hlength,
      lowerIn_eq_iff, hplace, halone, ih (first ++ [c]), List.append_nil]
    constructor
    · rintro ⟨hc, hrest⟩ mid last heq
      cases mid with
      | nil =>
        obtain ⟨rfl, rfl⟩ := List.cons.inj heq
        rw [List.append_nil]
        exact hc rfl
      | cons d mid =>
        obtain ⟨rfl, rfl⟩ := List.cons.inj heq
        simpa using hrest mid last rfl
    · intro hall
      refine ⟨?_, fun mid last heq => ?_⟩
      · rintro rfl
        simpa using hall [] rest rfl
      · simpa using hall (c :: mid) last (by rw [heq, List.cons_append])

/-- **A part has the same lower case alone and in its place** just when it reads alike. -/
theorem lowerBetween_eq_iff {before part after : List Char} :
    lowerBetween after before.reverse part = lowerCase part ↔ ReadsAlike before part after := by
  have h := lowerBetween_append_eq_iff before after part []
  rw [List.append_nil, List.reverse_nil, lowerBetween_nil] at h
  exact h

/-! ## Parts that read alike -/

theorem readsAlike_of_notMem {before part after : List Char} (h : 'Σ' ∉ part) :
    ReadsAlike before part after := by
  rintro first last rfl
  exact absurd (by simp) h

/-- Whether nothing that has to do with case comes first. -/
def StartsApart (text : List Char) : Prop :=
  ∀ c ∈ text.head?, isCaseIgnorable c = false ∧ isCased c = false

theorem reachesCased_append {rest : List Char} (h : StartsApart rest) (text : List Char) :
    reachesCased (text ++ rest) = reachesCased text := by
  unfold reachesCased
  induction text with
  | nil =>
    cases rest with
    | nil => rfl
    | cons c rest =>
      obtain ⟨hignorable, hcased⟩ := h c rfl
      simp [hignorable, hcased]
  | cons d text ih =>
    cases hd : isCaseIgnorable d with
    | true => simpa [hd] using ih
    | false => simp [hd]

theorem readsAlike_of_apart {before part after : List Char} (hbefore : StartsApart before.reverse)
    (hafter : StartsApart after) : ReadsAlike before part after := by
  intro first last _
  unfold endsWord
  rw [List.reverse_append, reachesCased_append hbefore, reachesCased_append hafter]

end Text

/-! ## Conditions -/

namespace Logic

/-- **A part that reads alike is found in its place.** -/
theorem textContains_of_readsAlike {needle : String} {before after : List Char}
    (h : Text.ReadsAlike before needle.toList after) :
    textContains needle (before ++ needle.toList ++ after) = true := by
  unfold textContains
  rw [occursIn_iff]
  refine ⟨Text.lowerBetween (needle.toList ++ after) [] before,
    Text.lowerAfter (needle.toList.reverse ++ before.reverse) after, ?_⟩
  calc Text.lowerCase (before ++ needle.toList ++ after)
      = Text.lowerBetween (needle.toList ++ after) [] before ++
          Text.lowerAfter before.reverse (needle.toList ++ after) := by
        rw [Text.lowerCase, List.append_assoc, Text.lowerAfter_append, List.append_nil]
    _ = Text.lowerBetween (needle.toList ++ after) [] before ++ Text.lowerCase needle.toList ++
          Text.lowerAfter (needle.toList.reverse ++ before.reverse) after := by
        rw [Text.lowerAfter_append, Text.lowerBetween_eq_iff.2 h, List.append_assoc]

theorem valueContains_of_text? {v : Value} {text : List Char} {needle : String}
    (harray : ∀ items, v ≠ .array items) (htext : v.text? = some text) :
    valueContains v (some needle) = textContains needle text := by
  cases v with
  | null =>
    rw [Value.text?_eq_none_iff.2 rfl] at htext
    cases htext
  | array items => exact absurd rfl (harray items)
  | _ => simp only [valueContains, htext, Option.any_some]

theorem valueContains_array {items : List Value} {item : Value} {text : List Char}
    {needle : String} (hitem : item ∈ items) (htext : item.text? = some text)
    (hfound : textContains needle text = true) :
    valueContains (.array items) (some needle) = true := by
  rw [valueContains, Value.itemTexts_eq, List.any_eq_true]
  exact ⟨text, List.mem_filterMap.2 ⟨item, hitem, htext⟩, hfound⟩

end Logic

open Logic

/-- **What occurs in a text is found where it reads alike.**  A condition for a text that occurs in
the one of a value holds, whatever the texts are, and so it does for a text that occurs in an item
of an array. -/
theorem holds_contains_of_occurrence (c : Condition) (form : Form) (needle : String)
    (before after : List Char) (hop : c.operator = .contains) (hvalue : c.value = some needle)
    (halike : Text.ReadsAlike before needle.toList after) :
    ((form.value c.trigger).text? = some (before ++ needle.toList ++ after) →
      (∀ items, form.value c.trigger ≠ .array items) → c.holds form = true) ∧
    ∀ items item, form.value c.trigger = .array items → item ∈ items →
      item.text? = some (before ++ needle.toList ++ after) → c.holds form = true := by
  have hfound := textContains_of_readsAlike halike
  unfold Condition.holds holdsFor
  rw [hop, hvalue]
  constructor
  · intro htext harray
    exact (valueContains_of_text? harray htext).trans hfound
  · intro items item hv hitem htext
    rw [hv]
    exact valueContains_array hitem htext hfound

/-- A word before a hyphen is found. -/
theorem holds_contains_of_occurrence_apart :
    Text.ReadsAlike [] ['Α', 'Σ'] ['-', 'Α'] ∧
    Condition.holds ⟨"t", .contains, some "ΑΣ", .reveal⟩ (.ofList [("t", .string "ΑΣ-Α")]) =
      true := by
  have halike : Text.ReadsAlike [] ['Α', 'Σ'] ['-', 'Α'] :=
    Text.readsAlike_of_apart (by simp [Text.StartsApart]) (by
      rintro c ⟨⟩
      decide +kernel)
  refine ⟨halike, ?_⟩
  exact (holds_contains_of_occurrence ⟨"t", .contains, some "ΑΣ", .reveal⟩
    (.ofList [("t", .string "ΑΣ-Α")]) "ΑΣ" [] ['-', 'Α'] rfl rfl halike).1 (by decide) (by
      intro items h
      cases h)

/-- **A letter that is missed.**  The capital sigma occurs at the end of a word, and in an array
with this word, but is not found there, since the small letter is another one than for the sigma
alone. -/
theorem sigma_not_found :
    "ΑΣ".toList = ['Α'] ++ "Σ".toList ++ [] ∧
    Condition.holds ⟨"t", .contains, some "Σ", .reveal⟩ (.ofList [("t", .string "ΑΣ")]) = false ∧
    Condition.holds ⟨"t", .contains, some "Σ", .reveal⟩
      (.ofList [("t", .array [.string "ΑΣ"])]) = false := by
  decide +kernel

end DynamicForms
