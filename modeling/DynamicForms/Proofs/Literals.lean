import DynamicForms.Json.Outline
import DynamicForms.Json.Printer

/-!
# Text literals and whole numbers read back

What the printer writes for a text or a whole number is read as that text or number, whatever
stands behind it; behind a number nothing may stand that would continue it.

* `escapeChar_cases` — a character is written as itself or as an escape that is read as it.
* `readLiteral_escaped` — a text literal shows its text.
* `readNumber_wholeText`, `NumberText.value_ofWhole` — a whole number shows its digits, whose
  value it is.
-/

set_option autoImplicit false

namespace DynamicForms.Json

/-! ## Text literals -/

theorem hexValue?_hexDigit : ∀ n < 16, hexValue? (hexDigit n) = some n := by decide

theorem readHex_control {c : Char} (h : c.toNat < 0x20) (tail : List Char) :
    readHex ('0' :: '0' :: hexDigit (c.toNat / 16) :: hexDigit (c.toNat % 16) :: tail) =
      .ok (c.toNat, tail) := by
  have hhigh := hexValue?_hexDigit (c.toNat / 16) (by omega)
  have hlow := hexValue?_hexDigit (c.toNat % 16) (by omega)
  have hzero : hexValue? '0' = some 0 := by decide
  simp only [readHex, hzero, hhigh, hlow]
  rw [show ((0 * 16 + 0) * 16 + c.toNat / 16) * 16 + c.toNat % 16 = c.toNat by omega]

/-- **A character is written as itself or as an escape.**  The escape is read as the character,
and passed over; a character that is written as itself neither ends the literal nor starts an
escape. -/
theorem escapeChar_cases (c : Char) :
    (∃ e : List Char, escapeChar c = '\\' :: e ∧ ∀ tail : List Char,
      readEscape (e ++ tail) = .ok (c, tail) ∧ skipEscape (e ++ tail) = .ok tail) ∨
    (escapeChar c = [c] ∧ c ≠ '"' ∧ c ≠ '\\' ∧ ¬ c.toNat < 0x20) := by
  by_cases hquote : c = '"'
  · subst hquote
    exact .inl ⟨['"'], rfl, fun tail => ⟨rfl, rfl⟩⟩
  by_cases hslash : c = '\\'
  · subst hslash
    exact .inl ⟨['\\'], rfl, fun tail => ⟨rfl, rfl⟩⟩
  by_cases hline : c = '\n'
  · subst hline
    exact .inl ⟨['n'], rfl, fun tail => ⟨rfl, rfl⟩⟩
  by_cases hreturn : c = '\r'
  · subst hreturn
    exact .inl ⟨['r'], rfl, fun tail => ⟨rfl, rfl⟩⟩
  by_cases htab : c = '\t'
  · subst htab
    exact .inl ⟨['t'], rfl, fun tail => ⟨rfl, rfl⟩⟩
  by_cases hback : c.toNat = 0x08
  · obtain rfl : c = '\x08' := Char.toNat_inj.1 hback
    exact .inl ⟨['b'], rfl, fun tail => ⟨rfl, rfl⟩⟩
  by_cases hfeed : c.toNat = 0x0C
  · obtain rfl : c = '\x0c' := Char.toNat_inj.1 hfeed
    exact .inl ⟨['f'], rfl, fun tail => ⟨rfl, rfl⟩⟩
  rw [escapeChar, if_neg hquote, if_neg hslash, if_neg hline, if_neg hreturn, if_neg htab,
    if_neg hback, if_neg hfeed]
  by_cases hcontrol : c.toNat < 0x20
  · have hlow : isLowHalf c.toNat = false := by
      rw [isLowHalf, Bool.and_eq_false_iff]
      exact .inl (decide_eq_false (by omega))
    have hhigh : isHighHalf c.toNat = false := by
      rw [isHighHalf, Bool.and_eq_false_iff]
      exact .inl (decide_eq_false (by omega))
    rw [if_pos hcontrol]
    refine .inl ⟨_, rfl, fun tail => ⟨?_, ?_⟩⟩
    · simp [readEscape, readHex_control hcontrol, hlow, hhigh, Char.ofNat_toNat]
    · simp [skipEscape, readHex_control hcontrol, Except.map]
  · rw [if_neg hcontrol]
    exact .inr ⟨rfl, hquote, hslash, hcontrol⟩

theorem readContent_escapeChar (fuel : Nat) (c : Char) (tail : List Char) :
    readContent (fuel + 1) (escapeChar c ++ tail) = (readContent fuel tail).map (c :: ·) := by
  rcases escapeChar_cases c with ⟨e, he, hread⟩ | ⟨he, hquote, hslash, hcontrol⟩
  · rw [he, List.cons_append, readContent, if_neg (by decide), if_pos rfl, (hread tail).1]
  · rw [he, List.singleton_append, readContent, if_neg hquote, if_neg hslash, if_neg hcontrol]

theorem skipContent_escapeChar (fuel : Nat) (c : Char) (tail : List Char) :
    skipContent (fuel + 1) (escapeChar c ++ tail) = skipContent fuel tail := by
  rcases escapeChar_cases c with ⟨e, he, hread⟩ | ⟨he, hquote, hslash, hcontrol⟩
  · rw [he, List.cons_append, skipContent, if_neg (by decide), if_pos rfl, (hread tail).2]
  · rw [he, List.singleton_append, skipContent, if_neg hquote, if_neg hslash, if_neg hcontrol]

theorem readContent_escaped (cs rest : List Char) :
    ∀ fuel, cs.length < fuel →
      readContent fuel (cs.flatMap escapeChar ++ '"' :: rest) = .ok cs := by
  induction cs with
  | nil =>
    intro fuel hfuel
    obtain ⟨fuel, rfl⟩ : ∃ n, fuel = n + 1 := ⟨fuel - 1, by omega⟩
    rw [List.flatMap_nil, List.nil_append, readContent, if_pos rfl]
  | cons c cs ih =>
    intro fuel hfuel
    rw [List.length_cons] at hfuel
    obtain ⟨fuel, rfl⟩ : ∃ n, fuel = n + 1 := ⟨fuel - 1, by omega⟩
    rw [List.flatMap_cons, List.append_assoc, readContent_escapeChar, ih fuel (by omega)]
    rfl

theorem skipContent_escaped (cs rest : List Char) :
    ∀ fuel, cs.length < fuel →
      skipContent fuel (cs.flatMap escapeChar ++ '"' :: rest) = .ok rest := by
  induction cs with
  | nil =>
    intro fuel hfuel
    obtain ⟨fuel, rfl⟩ : ∃ n, fuel = n + 1 := ⟨fuel - 1, by omega⟩
    rw [List.flatMap_nil, List.nil_append, skipContent, if_pos rfl]
  | cons c cs ih =>
    intro fuel hfuel
    rw [List.length_cons] at hfuel
    obtain ⟨fuel, rfl⟩ : ∃ n, fuel = n + 1 := ⟨fuel - 1, by omega⟩
    rw [List.flatMap_cons, List.append_assoc, skipContent_escapeChar, ih fuel (by omega)]

/-- **A text literal shows its text**, and the reading stops right behind it. -/
theorem readLiteral_escaped {fuel : Nat} {s : String} (h : s.toList.length < fuel)
    (rest : List Char) :
    readLiteral fuel (s.toList.flatMap escapeChar ++ '"' :: rest) = (⟨.ok s, none⟩, some rest) := by
  rw [readLiteral, readContent_escaped _ rest fuel h, skipContent_escaped _ rest fuel h]
  simp [Except.map]

/-! ## Whole numbers -/

/-- A text that does not go on with a number. -/
def EndsNumber (rest : List Char) : Prop :=
  ∀ c ∈ rest.head?, c.isDigit = false ∧ c ≠ '.' ∧ c ≠ 'e' ∧ c ≠ 'E'

theorem EndsNumber.nil : EndsNumber [] := by simp [EndsNumber]

theorem isDigit_of_mem_decimalDigits {n : Nat} {c : Char} (h : c ∈ Number.decimalDigits n) :
    c.isDigit = true :=
  Nat.isDigit_of_mem_toDigits (by decide) (by decide) h

theorem decimalDigits_ne_nil (n : Nat) : Number.decimalDigits n ≠ [] := Nat.toDigits_ne_nil

theorem exists_decimalDigits_eq_cons (n : Nat) :
    ∃ d ds, Number.decimalDigits n = d :: ds ∧ d.isDigit = true := by
  obtain ⟨d, ds, hds⟩ := List.exists_cons_of_ne_nil (decimalDigits_ne_nil n)
  exact ⟨d, ds, hds, isDigit_of_mem_decimalDigits (n := n) (by simp [hds])⟩

theorem digitsValue_decimalDigits (n : Nat) :
    Number.digitsValue (Number.decimalDigits n) = n :=
  Nat.ofDigitChars_ten_toDigits

theorem decimalDigits_eq_zero_cons {n : Nat} {rest : List Char}
    (h : Number.decimalDigits n = '0' :: rest) : rest = [] := by
  induction n using Nat.strongRecOn generalizing rest with
  | _ n ih =>
    rw [Number.decimalDigits, Nat.toDigits_eq_if (by decide)] at h
    split at h
    · exact (List.cons.inj h).2.symm
    · obtain ⟨d, ds, hds⟩ := List.exists_cons_of_ne_nil (decimalDigits_ne_nil (n / 10))
      have hvalue := digitsValue_decimalDigits (n / 10)
      rw [Number.decimalDigits] at hds
      rw [hds, List.cons_append] at h
      obtain ⟨rfl, -⟩ := List.cons.inj h
      -- the digits before the last one would be a single zero, but their value is not zero
      obtain rfl : ds = [] := ih (n / 10) (by omega) hds
      rw [Number.decimalDigits, hds] at hvalue
      have hzero : Number.digitsValue ['0'] = 0 := by decide
      omega

theorem readDigits_append {ds rest : List Char} (hne : ds ≠ [])
    (hdigits : ∀ c ∈ ds, c.isDigit = true) (h : EndsNumber rest) :
    readDigits (ds ++ rest) = .ok (ds, rest) := by
  have htake : rest.takeWhile Char.isDigit = [] := by
    cases rest with
    | nil => rfl
    | cons c rest => simp [(h c (by simp)).1]
  have hdrop : rest.dropWhile Char.isDigit = rest := by
    cases rest with
    | nil => rfl
    | cons c rest => simp [(h c (by simp)).1]
  obtain ⟨d, tail, rfl⟩ := List.exists_cons_of_ne_nil hne
  rw [List.cons_append, readDigits, if_pos (hdigits d (by simp)), ← List.cons_append,
    List.takeWhile_append_of_pos hdigits, List.dropWhile_append_of_pos hdigits, htake, hdrop,
    List.append_nil]

theorem readWhole_decimalDigits (n : Nat) {rest : List Char} (h : EndsNumber rest) :
    readWhole (Number.decimalDigits n ++ rest) = .ok (Number.decimalDigits n, rest) := by
  rw [readWhole, readDigits_append (decimalDigits_ne_nil n)
    (fun _ hc => isDigit_of_mem_decimalDigits hc) h]
  split
  · rename_i d ds tail heq
    have hzero := decimalDigits_eq_zero_cons (congrArg Prod.fst (Except.ok.inj heq))
    cases hzero
  · rfl

theorem readFraction_of_endsNumber {rest : List Char} (h : EndsNumber rest) :
    readFraction rest = .ok (none, rest) := by
  rw [readFraction]
  rintro tail rfl
  exact (h '.' (by simp)).2.1 rfl

theorem readExponent_of_endsNumber {rest : List Char} (h : EndsNumber rest) :
    readExponent rest = .ok (none, rest) := by
  cases rest with
  | nil => rfl
  | cons c rest =>
    obtain ⟨-, -, he, hE⟩ := h c (by simp)
    rw [readExponent, if_neg (by simp [he, hE])]

/-- A whole number as it is written. -/
def NumberText.ofWhole (n : Int) : NumberText :=
  ⟨decide (n < 0), Number.decimalDigits n.natAbs, none, none⟩

/-- **A whole number shows its sign and its digits**, and the reading stops right behind it. -/
theorem readNumber_wholeText (n : Int) {rest : List Char} (h : EndsNumber rest) :
    readNumber (wholeText n ++ rest) = .ok (.ofWhole n, rest) := by
  have hwhole := readWhole_decimalDigits n.natAbs h
  have hfraction := readFraction_of_endsNumber h
  have hexponent := readExponent_of_endsNumber h
  unfold wholeText NumberText.ofWhole
  by_cases hneg : n < 0
  · rw [if_pos hneg, List.cons_append, readNumber, decide_eq_true hneg]
    simp only [hwhole, hfraction, hexponent, bind, Except.bind, pure, Except.pure]
  · rw [if_neg hneg, readNumber, decide_eq_false hneg]
    · simp only [hwhole, hfraction, hexponent, bind, Except.bind, pure, Except.pure]
    -- the first character is a digit and no sign
    intro tail heq
    obtain ⟨d, ds, hds, hd⟩ := exists_decimalDigits_eq_cons n.natAbs
    rw [hds, List.cons_append] at heq
    rw [(List.cons.inj heq).1] at hd
    exact absurd hd (by decide)

/-- **The value of the written number is the number.** -/
theorem NumberText.value_ofWhole {n : Int} (fits : FitsWord n) :
    (NumberText.ofWhole n).value = .ok (.whole n fits) := by
  have hsign : (if decide (n < 0) = true then -(n.natAbs : Int) else n.natAbs) = n := by
    split
    · rename_i hneg
      have hlt : n < 0 := of_decide_eq_true hneg
      omega
    · rename_i hneg
      have hle : ¬ n < 0 := fun hlt => hneg (decide_eq_true hlt)
      omega
  have hzero : decide (n < 0) = true → n.natAbs ≠ 0 := by
    intro hneg
    have hlt : n < 0 := of_decide_eq_true hneg
    omega
  simp only [NumberText.value, NumberText.ofWhole, digitsValue_decimalDigits, Option.isNone_none,
    Bool.and_self, if_true, hsign]
  rw [dif_pos ⟨fits, hzero⟩]

end DynamicForms.Json
