import DynamicForms.Proofs.Literals

/-!
# Layouts of JSON values

The two layouts of a value differ in blanks only.  `Spells` says which texts stand for a value,
with any blanks between its parts; the printer writes such texts and the reader accepts them all,
so that both layouts, and every other one, show the same outline.

* `Spells.read` — a text that spells a value shows the outline of the value and no more.
* `spells_compact`, `spells_indented` — both layouts spell the value, unless it has a number of
  the binary format in it.
-/

set_option autoImplicit false

namespace DynamicForms.Json

/-! ## Values without numbers of the binary format -/

namespace Value

theorem induction {motive : Value → Prop} (null : motive .null)
    (boolean : ∀ b, motive (.boolean b)) (number : ∀ n, motive (.number n))
    (string : ∀ s, motive (.string s))
    (array : ∀ items, (∀ v ∈ items, motive v) → motive (.array items))
    (object : ∀ entries, (∀ entry ∈ entries, motive entry.2) → motive (.object entries))
    (v : Value) : motive v :=
  @Value.rec motive (fun items => ∀ v ∈ items, motive v)
    (fun entries => ∀ entry ∈ entries, motive entry.2) (fun entry => motive entry.2)
    null boolean number string array object
    (by simp) (fun _ _ hv hrest => List.forall_mem_cons.2 ⟨hv, hrest⟩)
    (by simp) (fun _ _ hentry hrest => List.forall_mem_cons.2 ⟨hentry, hrest⟩)
    (fun _ _ hv => hv) v

mutual
/-- Whether all numbers in a value are whole. -/
def isExact : Value → Bool
  | .number (.real _) => false
  | .array items => exactItems items
  | .object entries => exactEntries entries
  | _ => true

/-- Whether all numbers in some items are whole. -/
def exactItems : List Value → Bool
  | [] => true
  | v :: rest => v.isExact && exactItems rest

/-- Whether all numbers in some entries are whole. -/
def exactEntries : List (String × Value) → Bool
  | [] => true
  | (_, v) :: rest => v.isExact && exactEntries rest
end

theorem exactItems_iff {items : List Value} :
    exactItems items = true ↔ ∀ v ∈ items, v.isExact = true := by
  induction items with
  | nil => simp [exactItems]
  | cons v rest ih => simp [exactItems, ih]

theorem exactEntries_iff {entries : List (String × Value)} :
    exactEntries entries = true ↔ ∀ entry ∈ entries, entry.2.isExact = true := by
  induction entries with
  | nil => simp [exactEntries]
  | cons entry rest ih => simp [exactEntries, ih]

end Value

/-! ## Outlines of values -/

/-- What the text of a numeral shows. -/
def Numeral.outline (n : Numeral) : Outline :=
  match readNumber n.text with
  | .ok (t, _) => .number t
  | .error b => .torn b

theorem Numeral.outline_whole {n : Int} (fits : FitsWord n) :
    (Numeral.whole n fits).outline = .number (.ofWhole n) := by
  have h := readNumber_wholeText n .nil
  rw [List.append_nil] at h
  rw [Numeral.outline, Numeral.text, h]

namespace Value

mutual
/-- What the texts of a value show. -/
def outline : Value → Outline
  | .null => .null
  | .boolean b => .boolean b
  | .number n => n.outline
  | .string s => .string ⟨.ok s, none⟩
  | .array items => .array (outlineItems items)
  | .object entries => .object (outlineEntries entries)

/-- What the texts of some items show. -/
def outlineItems : List Value → Items
  | [] => .closed
  | v :: rest => .next v.outline (outlineItems rest)

/-- What the texts of some entries show. -/
def outlineEntries : List (String × Value) → Entries
  | [] => .closed
  | (key, v) :: rest => .next ⟨.ok key, none⟩ v.outline (outlineEntries rest)
end

end Value

/-! ## The texts of a value -/

/-- Nothing but blanks. -/
def Gap (text : List Char) : Prop := ∀ c ∈ text, isSpace c = true

/-- What stands before an item or an entry: blanks, and a comma among them unless it is the
first. -/
inductive Separates : (first : Bool) → List Char → Prop where
  | start {gap : List Char} (h : Gap gap) : Separates true gap
  | comma {before after : List Char} (h : Gap before) (h' : Gap after) :
      Separates false (before ++ ',' :: after)

mutual
/-- The texts that stand for a value: blanks may stand between its parts.  A number of the binary
format is not looked at, and no text stands for it. -/
inductive Spells : Value → List Char → Prop where
  | null : Spells .null nullWord
  | boolean (b : Bool) : Spells (.boolean b) (booleanWord b)
  | whole (n : Int) (fits : FitsWord n) : Spells (.number (.whole n fits)) (wholeText n)
  | string (s : String) : Spells (.string s) (textLiteral s)
  | array {items : List Value} {text : List Char} (h : SpellsItems true items text) :
      Spells (.array items) ('[' :: text)
  | object {entries : List (String × Value)} {text : List Char}
      (h : SpellsEntries true entries text) : Spells (.object entries) ('\x7b' :: text)

/-- The texts that stand for some items and the closing bracket. -/
inductive SpellsItems : (first : Bool) → List Value → List Char → Prop where
  | closed {first : Bool} {before : List Char} (h : Gap before) :
      SpellsItems first [] (before ++ [']'])
  | next {first : Bool} {before text rest : List Char} {v : Value} {items : List Value}
      (h : Separates first before) (hv : Spells v text) (hrest : SpellsItems false items rest) :
      SpellsItems first (v :: items) (before ++ (text ++ rest))

/-- The texts that stand for some entries and the closing brace. -/
inductive SpellsEntries : (first : Bool) → List (String × Value) → List Char → Prop where
  | closed {first : Bool} {before : List Char} (h : Gap before) :
      SpellsEntries first [] (before ++ ['\x7d'])
  | next {first : Bool} {before gap gap' text rest : List Char} {v : Value}
      {entries : List (String × Value)} (key : String) (h : Separates first before)
      (hgap : Gap gap) (hgap' : Gap gap') (hv : Spells v text)
      (hrest : SpellsEntries false entries rest) :
      SpellsEntries first ((key, v) :: entries)
        (before ++ (textLiteral key ++ (gap ++ ':' :: (gap' ++ (text ++ rest)))))
end

/-! ## Blanks and heads -/

theorem Gap.nil : Gap [] := by simp [Gap]

theorem skipSpaces_append {gap : List Char} (h : Gap gap) {c : Char} (hc : isSpace c = false)
    (rest : List Char) : skipSpaces (gap ++ c :: rest) = c :: rest := by
  rw [skipSpaces, List.dropWhile_append_of_pos h, List.dropWhile_cons_of_neg (by simp [hc])]

theorem EndsNumber.cons {c : Char} (h : c.isDigit = false ∧ c ≠ '.' ∧ c ≠ 'e' ∧ c ≠ 'E')
    (rest : List Char) : EndsNumber (c :: rest) := by
  intro d hd
  obtain rfl : c = d := by simpa using hd
  exact h

theorem EndsNumber.gap {gap rest : List Char} (h : Gap gap) (hrest : EndsNumber rest) :
    EndsNumber (gap ++ rest) := by
  cases gap with
  | nil => exact hrest
  | cons c gap =>
    have hc := h c (by simp)
    simp only [isSpace, Bool.or_eq_true, beq_iff_eq] at hc
    refine .cons ?_ _
    rcases hc with ((rfl | rfl) | rfl) | rfl <;> decide

theorem Separates.endsNumber {before : List Char} (h : Separates false before)
    (rest : List Char) : EndsNumber (before ++ rest) := by
  cases h with
  | comma h h' =>
    rw [List.append_assoc]
    exact .gap h (.cons (by decide) _)

theorem SpellsItems.endsNumber {items : List Value} {text : List Char}
    (h : SpellsItems false items text) (rest : List Char) : EndsNumber (text ++ rest) := by
  cases h with
  | closed h =>
    rw [List.append_assoc]
    exact .gap h (.cons (by decide) _)
  | next h hv hrest =>
    rw [List.append_assoc]
    exact h.endsNumber _

theorem SpellsEntries.endsNumber {entries : List (String × Value)} {text : List Char}
    (h : SpellsEntries false entries text) (rest : List Char) : EndsNumber (text ++ rest) := by
  cases h with
  | closed h =>
    rw [List.append_assoc]
    exact .gap h (.cons (by decide) _)
  | next key h hgap hgap' hv hrest =>
    rw [List.append_assoc]
    exact h.endsNumber _

theorem exists_wholeText_eq_cons (n : Int) :
    ∃ c rest, wholeText n = c :: rest ∧ (c = '-' ∨ c.isDigit = true) := by
  unfold wholeText
  split
  · exact ⟨_, _, rfl, .inl rfl⟩
  · obtain ⟨d, ds, hds, hd⟩ := exists_decimalDigits_eq_cons n.natAbs
    exact ⟨d, ds, hds, .inr hd⟩

theorem number_head {c : Char} (h : c = '-' ∨ c.isDigit = true) :
    isSpace c = false ∧ c ∉ [']', '"', '[', '\x7b', 'n', 't', 'f'] := by
  rcases h with rfl | h
  · decide
  · constructor
    · rw [Bool.eq_false_iff]
      intro hspace
      simp only [isSpace, Bool.or_eq_true, beq_iff_eq] at hspace
      rcases hspace with ((rfl | rfl) | rfl) | rfl <;> exact absurd h (by decide)
    · intro hmem
      simp only [List.mem_cons, List.not_mem_nil, or_false] at hmem
      rcases hmem with rfl | rfl | rfl | rfl | rfl | rfl | rfl <;> exact absurd h (by decide)

theorem Spells.head {v : Value} {text : List Char} (h : Spells v text) :
    ∃ c rest, text = c :: rest ∧ isSpace c = false ∧ c ≠ ']' := by
  cases h with
  | null => exact ⟨_, _, rfl, by decide⟩
  | boolean b => cases b <;> exact ⟨_, _, rfl, by decide⟩
  | whole n fits =>
    obtain ⟨c, rest, hc, hhead⟩ := exists_wholeText_eq_cons n
    exact ⟨c, rest, hc, (number_head hhead).1, fun heq => (number_head hhead).2 (by simp [heq])⟩
  | string s => exact ⟨_, _, rfl, by decide⟩
  | array h => exact ⟨_, _, rfl, by decide⟩
  | object h => exact ⟨_, _, rfl, by decide⟩

/-! ## Reading -/

section Reading

variable {fuel : Nat} {gap rest : List Char}

theorem readValue_gap (hgap : Gap gap) {c : Char} (hc : isSpace c = false) :
    readValue (fuel + 1) (gap ++ c :: rest) = readValue (fuel + 1) (c :: rest) := by
  rw [readValue, readValue, skipSpaces_append hgap hc, skipSpaces,
    List.dropWhile_cons_of_neg (by simp [hc])]

theorem readValue_null : readValue (fuel + 1) (nullWord ++ rest) = (.null, some rest) := rfl

theorem readValue_boolean (b : Bool) :
    readValue (fuel + 1) (booleanWord b ++ rest) = (.boolean b, some rest) := by
  cases b <;> rfl

theorem readValue_whole (n : Int) (hrest : EndsNumber rest) :
    readValue (fuel + 1) (wholeText n ++ rest) = (.number (.ofWhole n), some rest) := by
  obtain ⟨c, tail, hc, hhead⟩ := exists_wholeText_eq_cons n
  obtain ⟨hspace, hword⟩ := number_head hhead
  have hread := readNumber_wholeText n hrest
  rw [hc, List.cons_append] at hread ⊢
  rw [readValue, skipSpaces, List.dropWhile_cons_of_neg (by simp [hspace])]
  simp only [List.mem_cons, not_or] at hword
  simp [hword, hhead, hread]

theorem readValue_string {s : String} (h : s.toList.length < fuel) :
    readValue (fuel + 1) (textLiteral s ++ rest) = (.string ⟨.ok s, none⟩, some rest) := by
  have heq : textLiteral s ++ rest = '"' :: (s.toList.flatMap escapeChar ++ '"' :: rest) := by
    simp [textLiteral]
  calc readValue (fuel + 1) (textLiteral s ++ rest)
      = (.string (readLiteral fuel (s.toList.flatMap escapeChar ++ '"' :: rest)).1,
          (readLiteral fuel (s.toList.flatMap escapeChar ++ '"' :: rest)).2) := by rw [heq]; rfl
    _ = (.string ⟨.ok s, none⟩, some rest) := by rw [readLiteral_escaped h]

theorem readValue_array {text : List Char} : readValue (fuel + 1) ('[' :: text) =
    (.array (readItems fuel true text).1, (readItems fuel true text).2) := rfl

theorem readValue_object {text : List Char} : readValue (fuel + 1) ('\x7b' :: text) =
    (.object (readEntries fuel true text).1, (readEntries fuel true text).2) := rfl

theorem readItems_closed {first : Bool} (hgap : Gap gap) :
    readItems (fuel + 1) first (gap ++ ']' :: rest) = (.closed, some rest) := by
  rw [readItems, skipSpaces_append hgap (by decide)]
  rfl

theorem readEntries_closed {first : Bool} (hgap : Gap gap) :
    readEntries (fuel + 1) first (gap ++ '\x7d' :: rest) = (.closed, some rest) := by
  rw [readEntries, skipSpaces_append hgap (by decide)]
  rfl

theorem readItems_next {first : Bool} {before : List Char} (hsep : Separates first before)
    {c : Char} (hc : isSpace c = false ∧ c ≠ ']') {o : Outline} {text : List Char}
    (hvalue : ∀ gap, Gap gap → readValue fuel (gap ++ c :: rest) = (o, some text)) :
    readItems (fuel + 1) first (before ++ c :: rest) =
      (.next o (readItems fuel false text).1, (readItems fuel false text).2) := by
  cases hsep with
  | start hgap =>
    have hread := hvalue [] .nil
    rw [List.nil_append] at hread
    rw [readItems, skipSpaces_append hgap hc.1]
    simp [hc.2, hread]
  | comma hbefore hafter =>
    rw [List.append_assoc, List.cons_append, readItems, skipSpaces_append hbefore (by decide)]
    simp [hvalue _ hafter]

/-- Where an entry stands behind a separator, its key and its value are read, and then the
entries behind it. -/
theorem readEntries_next {first : Bool} {before : List Char} (hsep : Separates first before)
    {key : String} (hkey : key.toList.length < fuel) (hgap : Gap gap) {o : Outline}
    {text : List Char} (hvalue : readValue fuel rest = (o, some text)) :
    readEntries (fuel + 2) first (before ++ (textLiteral key ++ (gap ++ ':' :: rest))) =
      (.next ⟨.ok key, none⟩ o (readEntries fuel false text).1,
        (readEntries fuel false text).2) := by
  have hliteral := readLiteral_escaped hkey (gap ++ ':' :: rest)
  have heq : textLiteral key ++ (gap ++ ':' :: rest) =
      '"' :: (key.toList.flatMap escapeChar ++ '"' :: (gap ++ ':' :: rest)) := by
    simp [textLiteral]
  have hentry : readEntry (fuel + 1)
      (key.toList.flatMap escapeChar ++ '"' :: (gap ++ ':' :: rest)) =
      (.next ⟨.ok key, none⟩ o (readEntries fuel false text).1,
        (readEntries fuel false text).2) := by
    rw [readEntry, hliteral]
    simp only [skipSpaces_append hgap (show isSpace ':' = false by decide), hvalue]
  rw [heq]
  cases hsep with
  | start hgap =>
    rw [readEntries, skipSpaces_append hgap (by decide)]
    exact hentry
  | comma hbefore hafter =>
    rw [List.append_assoc, List.cons_append, readEntries, skipSpaces_append hbefore (by decide)]
    simp [skipSpaces_append hafter (show isSpace '"' = false by decide), hentry]

end Reading

theorem length_le_length_escaped (cs : List Char) : cs.length ≤ (cs.flatMap escapeChar).length := by
  induction cs with
  | nil => simp
  | cons c cs ih =>
    have hc : 1 ≤ (escapeChar c).length := by
      rcases escapeChar_cases c with ⟨e, he, -⟩ | ⟨he, -⟩ <;> simp [he]
    rw [List.flatMap_cons, List.length_append, List.length_cons]
    omega

theorem length_lt_length_textLiteral (s : String) :
    s.toList.length + 1 < (textLiteral s).length := by
  have h := length_le_length_escaped s.toList
  rw [textLiteral, List.length_append, List.length_cons, List.length_singleton]
  omega

mutual
/-- **A text that spells a value shows the outline of the value**, and the reading stops right
behind it. -/
theorem Spells.read {v : Value} {text : List Char} (h : Spells v text) :
    ∀ (fuel : Nat) (gap rest : List Char), Gap gap → EndsNumber rest → 2 * text.length ≤ fuel →
      readValue fuel (gap ++ (text ++ rest)) = (v.outline, some rest) := by
  intro fuel gap rest hgap hrest hfuel
  obtain ⟨c, tail, hc, hspace, -⟩ := h.head
  have hskip : readValue fuel (gap ++ (text ++ rest)) = readValue fuel (text ++ rest) := by
    obtain ⟨fuel, rfl⟩ : ∃ n, fuel = n + 1 := ⟨fuel - 1, by simp [hc] at hfuel; omega⟩
    rw [hc, List.cons_append, readValue_gap hgap hspace]
  rw [hskip]
  cases h with
  | null =>
    obtain ⟨fuel, rfl⟩ : ∃ n, fuel = n + 1 := ⟨fuel - 1, by simp [nullWord] at hfuel; omega⟩
    exact readValue_null
  | boolean b =>
    obtain ⟨fuel, rfl⟩ : ∃ n, fuel = n + 1 := ⟨fuel - 1, by simp [hc] at hfuel; omega⟩
    exact readValue_boolean b
  | whole n fits =>
    obtain ⟨fuel, rfl⟩ : ∃ n, fuel = n + 1 := ⟨fuel - 1, by simp [hc] at hfuel; omega⟩
    rw [readValue_whole n hrest, Value.outline, Numeral.outline_whole]
  | string s =>
    have hlen := length_lt_length_textLiteral s
    obtain ⟨fuel, rfl⟩ : ∃ n, fuel = n + 1 := ⟨fuel - 1, by omega⟩
    exact readValue_string (by omega)
  | array h =>
    rw [List.length_cons] at hfuel
    obtain ⟨fuel, rfl⟩ : ∃ n, fuel = n + 1 := ⟨fuel - 1, by omega⟩
    rw [List.cons_append, readValue_array, h.read fuel rest (by omega), Value.outline]
  | object h =>
    rw [List.length_cons] at hfuel
    obtain ⟨fuel, rfl⟩ : ∃ n, fuel = n + 1 := ⟨fuel - 1, by omega⟩
    rw [List.cons_append, readValue_object, h.read fuel rest (by omega), Value.outline]

theorem SpellsItems.read {first : Bool} {items : List Value} {text : List Char}
    (h : SpellsItems first items text) :
    ∀ (fuel : Nat) (rest : List Char), 2 * text.length < fuel →
      readItems fuel first (text ++ rest) = (Value.outlineItems items, some rest) := by
  intro fuel tail hfuel
  obtain ⟨fuel, rfl⟩ : ∃ n, fuel = n + 1 := ⟨fuel - 1, by omega⟩
  cases h with
  | closed hgap =>
    rw [List.append_assoc]
    exact readItems_closed hgap
  | @next _ before text rest v items hsep hv hrest =>
    obtain ⟨c, cs, hc, hhead⟩ := hv.head
    rw [List.length_append, List.length_append] at hfuel
    have hlen : 0 < text.length := by simp [hc]
    have hvalue : ∀ gap, Gap gap →
        readValue fuel (gap ++ c :: (cs ++ (rest ++ tail))) = (v.outline, some (rest ++ tail)) := by
      intro gap hgap
      rw [← List.cons_append, ← hc]
      exact hv.read fuel gap (rest ++ tail) hgap (hrest.endsNumber tail) (by omega)
    rw [hc, List.append_assoc, List.append_assoc, List.cons_append,
      readItems_next hsep hhead hvalue, hrest.read fuel tail (by omega), Value.outlineItems]

theorem SpellsEntries.read {first : Bool} {entries : List (String × Value)} {text : List Char}
    (h : SpellsEntries first entries text) :
    ∀ (fuel : Nat) (rest : List Char), 2 * text.length < fuel →
      readEntries fuel first (text ++ rest) = (Value.outlineEntries entries, some rest) := by
  intro fuel tail hfuel
  cases h with
  | closed hgap =>
    obtain ⟨fuel, rfl⟩ : ∃ n, fuel = n + 1 := ⟨fuel - 1, by omega⟩
    rw [List.append_assoc]
    exact readEntries_closed hgap
  | @next _ before gap gap' text rest v entries key hsep hgap hgap' hv hrest =>
    have hkey := length_lt_length_textLiteral key
    simp only [List.length_append, List.length_cons] at hfuel
    obtain ⟨fuel, rfl⟩ : ∃ n, fuel = n + 2 := ⟨fuel - 2, by omega⟩
    have hvalue : readValue fuel (gap' ++ (text ++ (rest ++ tail))) =
        (v.outline, some (rest ++ tail)) :=
      hv.read fuel gap' (rest ++ tail) hgap' (hrest.endsNumber tail) (by omega)
    simp only [List.append_assoc, List.cons_append]
    rw [readEntries_next hsep (by omega) hgap hvalue, hrest.read fuel tail (by omega),
      Value.outlineEntries]
end

/-! ## Printing -/

theorem spellsItems_of_lines {line close : List Char} (hline : Gap line) (hclose : Gap close)
    (text : Value → List Char) (texts : List Value → List Char)
    (hone : ∀ v, texts [v] = line ++ text v)
    (hmore : ∀ v w rest, texts (v :: w :: rest) = line ++ text v ++ ',' :: texts (w :: rest))
    {items : List Value} (hne : items ≠ []) (h : ∀ v ∈ items, Spells v (text v)) :
    SpellsItems true items (texts items ++ close ++ [']']) := by
  -- a comma may stand in front of the first line
  suffices ∀ first before, (∀ gap, Gap gap → Separates first (before ++ gap)) →
      SpellsItems first items (before ++ (texts items ++ close ++ [']'])) from
    this true [] fun _ hgap => .start hgap
  induction items with
  | nil => exact absurd rfl hne
  | cons v rest ih =>
    intro first before hsep
    obtain ⟨hv, hrest⟩ := List.forall_mem_cons.1 h
    cases rest with
    | nil =>
      have hnext := SpellsItems.next (hsep line hline) hv (.closed hclose)
      simpa [hone] using hnext
    | cons w rest =>
      have hcomma := ih (List.cons_ne_nil _ _) hrest false [','] fun _ hgap => .comma .nil hgap
      have hnext := SpellsItems.next (hsep line hline) hv hcomma
      simpa [hmore] using hnext

/-- Entries that each stand behind a line of blanks, with commas between them. -/
theorem spellsEntries_of_lines {line after close : List Char} (hline : Gap line)
    (hafter : Gap after) (hclose : Gap close) (text : Value → List Char)
    (texts : List (String × Value) → List Char)
    (hone : ∀ key v, texts [(key, v)] = line ++ textLiteral key ++ ':' :: (after ++ text v))
    (hmore : ∀ key v w rest, texts ((key, v) :: w :: rest) =
      line ++ textLiteral key ++ ':' :: (after ++ text v) ++ ',' :: texts (w :: rest))
    {entries : List (String × Value)} (hne : entries ≠ [])
    (h : ∀ entry ∈ entries, Spells entry.2 (text entry.2)) :
    SpellsEntries true entries (texts entries ++ close ++ ['\x7d']) := by
  suffices ∀ first before, (∀ gap, Gap gap → Separates first (before ++ gap)) →
      SpellsEntries first entries (before ++ (texts entries ++ close ++ ['\x7d'])) from
    this true [] fun _ hgap => .start hgap
  induction entries with
  | nil => exact absurd rfl hne
  | cons entry rest ih =>
    intro first before hsep
    obtain ⟨key, v⟩ := entry
    obtain ⟨hv, hrest⟩ := List.forall_mem_cons.1 h
    cases rest with
    | nil =>
      have hnext := SpellsEntries.next key (hsep line hline) .nil hafter hv (.closed hclose)
      simpa [hone] using hnext
    | cons w rest =>
      have hcomma := ih (List.cons_ne_nil _ _) hrest false [','] fun _ hgap => .comma .nil hgap
      have hnext := SpellsEntries.next key (hsep line hline) .nil hafter hv hcomma
      simpa [hmore] using hnext

theorem Value.gap_newLine (indent : Nat) : Gap (newLine indent) := by
  intro c hc
  rcases List.mem_cons.1 hc with rfl | hc
  · decide
  · rw [List.eq_of_mem_replicate hc]
    decide

/-- **The compact layout spells the value.** -/
theorem spells_compact {v : Value} (h : v.isExact = true) : Spells v v.compact := by
  induction v using Value.induction with
  | null => exact .null
  | boolean b => exact .boolean b
  | number n =>
    cases n with
    | whole n fits => exact .whole n fits
    | real x => cases h
  | string s => exact .string s
  | array items ih =>
    have hall := Value.exactItems_iff.1 h
    refine .array ?_
    cases items with
    | nil => exact .closed .nil
    | cons v rest =>
      have hlines := spellsItems_of_lines .nil .nil Value.compact Value.compactItems
        (fun _ => rfl) (fun _ _ _ => rfl) (List.cons_ne_nil v rest) fun w hw => ih w hw (hall w hw)
      rwa [List.append_nil] at hlines
  | object entries ih =>
    have hall := Value.exactEntries_iff.1 h
    refine .object ?_
    cases entries with
    | nil => exact .closed .nil
    | cons entry rest =>
      have hlines := spellsEntries_of_lines .nil .nil .nil Value.compact Value.compactEntries
        (fun _ _ => rfl) (fun _ _ _ _ => rfl) (List.cons_ne_nil entry rest)
        fun e he => ih e he (hall e he)
      rwa [List.append_nil] at hlines

/-- **The indented layout spells the value.** -/
theorem spells_indented {v : Value} (h : v.isExact = true) :
    ∀ indent, Spells v (v.indented indent) := by
  induction v using Value.induction with
  | null => exact fun _ => .null
  | boolean b => exact fun _ => .boolean b
  | number n =>
    cases n with
    | whole n fits => exact fun _ => .whole n fits
    | real x => cases h
  | string s => exact fun _ => .string s
  | array items ih =>
    intro indent
    have hall := Value.exactItems_iff.1 h
    cases items with
    | nil => exact .array (.closed .nil)
    | cons v rest =>
      exact .array (spellsItems_of_lines (Value.gap_newLine (indent + 2)) (Value.gap_newLine indent)
        (Value.indented (indent + 2)) (Value.indentedItems (indent + 2)) (fun _ => rfl)
        (fun _ _ _ => rfl) (List.cons_ne_nil v rest) fun w hw => ih w hw (hall w hw) (indent + 2))
  | object entries ih =>
    intro indent
    have hall := Value.exactEntries_iff.1 h
    have hblank : Gap [' '] := by
      intro c hc
      rw [List.mem_singleton.1 hc]
      decide
    cases entries with
    | nil => exact .object (.closed .nil)
    | cons entry rest =>
      exact .object (spellsEntries_of_lines (Value.gap_newLine (indent + 2)) hblank
        (Value.gap_newLine indent) (Value.indented (indent + 2))
        (Value.indentedEntries (indent + 2)) (fun _ _ => rfl) (fun _ _ _ _ => rfl)
        (List.cons_ne_nil entry rest) fun e he => ih e he (hall e he) (indent + 2))

/-- **A whole text that spells a value shows the outline of the value** and nothing behind it. -/
theorem outline_ofText {v : Value} {text : List Char} (h : Spells v text) :
    Outline.ofText text = (v.outline, some []) := by
  have hread := h.read (3 * text.length + 3) [] [] .nil .nil (by omega)
  rw [List.nil_append, List.append_nil] at hread
  exact hread

end DynamicForms.Json
