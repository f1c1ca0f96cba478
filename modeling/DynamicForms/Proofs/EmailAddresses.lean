import DynamicForms.Pattern.Matching
import DynamicForms.Proofs.Matching
import DynamicForms.Proofs.StandardRules

/-!
# Searching for email addresses

The rule for email addresses looks for a shape of texts.  Here it is compared with a search for a
pattern that says the same in one line: three parts with an at sign and a point between them.  The
last two parts may hold more points, so that the pattern can match in more than one way.

* `Pattern.emailPattern`, `ofText_emailPattern` — the pattern, and what it is read as.
* `Spot.Reads` — the text between two spots; `spans_some_iff`: the stretches that one or more
  characters of a kind make up.
* `spans_emailExpression_iff`, `matches_emailExpression_iff` — the pattern only matches whole texts,
  and it does match those that have the shape of an address.
* `PatternEngine.FindsEmail` — an engine that finds the pattern where it matches;
  `finds_emailPattern`: the one of the program does.
* `Text.emailShape_trim_iff` — trimming leaves an address if the text is one between blanks.
* `Rule.EmailVerdict`, `Rule.emailVerdict_email` — what the rule answers on any value.
-/

set_option autoImplicit false

namespace DynamicForms

open Json (Value)

namespace Pattern

/-! ## The pattern -/

/-- The pattern of email addresses. -/
def emailPattern : String := "^[^@\\s]+@[^@\\s]+\\.[^@\\s]+$"

/-- What may stand between the signs of an address. -/
def isAddressChar (c : Char) : Bool := !(c == '@' || Text.isBlank c)

/-- Some characters between the signs of an address, as they are written. -/
def partTerm : Term :=
  .repetition (.bracketed true (.union [.literal ⟨'@', false⟩, .letter false .space])) 1 none

/-- Some characters between the signs of an address, as they are matched. -/
def partExpression : Expression := .repetition (.char 464 isAddressChar) 1 none

/-- A sign of an address. -/
def signExpression (sign : Char) : Expression := .char 32 (· == sign)

/-- A whole text with three parts and two signs between them. -/
def emailExpression : Expression :=
  .sequence (.place (Assertion.lineStart.holds {})) <|
  .sequence partExpression <| .sequence (signExpression '@') <|
  .sequence partExpression <| .sequence (signExpression '.') <|
  .sequence partExpression (.place (Assertion.lineEnd.holds {}))

theorem ofText?_emailPattern : Term.ofText? emailPattern = some (.sequence
    [.assertion .lineStart, partTerm, .literal ⟨'@', false⟩, partTerm, .literal ⟨'.', false⟩,
      partTerm, .assertion .lineEnd]) := by
  rfl

theorem meaning?_partTerm : partTerm.meaning? {} = some (partExpression, {}) := by
  have htest : (fun c => !(c == '@' || (Text.isBlank c || false))) = isAddressChar := by
    funext c
    rw [Bool.or_false, isAddressChar]
  rw [partExpression, ← htest]
  rfl

theorem meaning?_assertion (a : Assertion) :
    (Term.assertion a).meaning? {} = some (.place (a.holds {}), {}) := rfl

theorem meaning?_at : (Term.literal ⟨'@', false⟩).meaning? {} = some (signExpression '@', {}) := rfl

theorem meaning?_point : (Term.literal ⟨'.', false⟩).meaning? {} = some (signExpression '.', {}) :=
  rfl

theorem ofText_emailPattern : Pattern.ofText emailPattern = .ok ⟨emailExpression⟩ := by
  have hmeaning : (Term.sequence [.assertion .lineStart, partTerm, .literal ⟨'@', false⟩, partTerm,
      .literal ⟨'.', false⟩, partTerm, .assertion .lineEnd]).meaning? {} =
        some (emailExpression, {}) := by
    rw [Term.meaning?]
    simp only [sequenceMeaning?, meaning?_assertion, meaning?_partTerm, meaning?_at,
      meaning?_point, Option.bind_eq_bind, Option.bind_some, emailExpression]
  rw [Pattern.ofText, ofText?_emailPattern, Option.bind_some, hmeaning]
  exact if_pos (by decide)

/-! ## Reading a text -/

namespace Spot

variable {x y z : Spot} {read more : List Char}

/-- Some text is read from one spot to another. -/
structure Reads (x : Spot) (read : List Char) (y : Spot) : Prop where
  rest_eq : x.rest = read ++ y.rest
  before_eq : y.before = read.getLast?.or x.before

theorem reads_nil_iff : x.Reads [] y ↔ y = x := by
  constructor
  · rintro ⟨hrest, hbefore⟩
    exact Spot.ext hbefore hrest.symm
  · rintro rfl
    exact ⟨rfl, rfl⟩

theorem next_iff : x.Next y ↔ ∃ c, x.Reads [c] y :=
  exists_congr fun _ => ⟨fun ⟨hrest, hbefore⟩ => ⟨hrest, hbefore⟩, fun h => ⟨h.1, h.2⟩⟩

theorem reads_append_iff : x.Reads (read ++ more) y ↔ ∃ z, x.Reads read z ∧ z.Reads more y := by
  constructor
  · rintro ⟨hrest, hbefore⟩
    rw [List.append_assoc] at hrest
    refine ⟨⟨read.getLast?.or x.before, more ++ y.rest⟩, ⟨hrest, rfl⟩, rfl, ?_⟩
    rw [hbefore, List.getLast?_append, Option.or_assoc]
  · rintro ⟨z, ⟨hxz, hz⟩, hzy, hy⟩
    refine ⟨by rw [hxz, hzy, List.append_assoc], ?_⟩
    rw [hy, hz, List.getLast?_append, Option.or_assoc]

theorem reads_cons_iff {c : Char} : x.Reads (c :: read) y ↔ ∃ z, x.Reads [c] z ∧ z.Reads read y :=
  @reads_append_iff x y [c] read

end Spot

variable {x y : Spot} {size : Nat} {test : Char → Bool}

theorem spans_char_iff :
    (Expression.char size test).Spans x y ↔ ∃ c, test c = true ∧ x.Reads [c] y := by
  rw [Expression.Spans, Spot.next_iff, exists_and_right.symm]
  refine exists_congr fun c => ?_
  rw [and_comm]
  refine and_congr_left fun h => ?_
  rw [h.before_eq]
  exact Iff.rfl

theorem times_char_iff {n : Nat} : Times (Expression.char size test).Spans n x y ↔
    ∃ read, read.length = n ∧ (∀ c ∈ read, test c = true) ∧ x.Reads read y := by
  induction n generalizing x with
  | zero => simp [Times, Spot.reads_nil_iff]
  | succ n ih =>
    simp only [Times, spans_char_iff, ih]
    constructor
    · rintro ⟨z, ⟨c, hc, hxz⟩, read, hlength, hread, hzy⟩
      exact ⟨c :: read, congrArg (· + 1) hlength, List.forall_mem_cons.2 ⟨hc, hread⟩,
        Spot.reads_cons_iff.2 ⟨z, hxz, hzy⟩⟩
    · rintro ⟨read, hlength, hread, hxy⟩
      obtain ⟨c, rest, rfl⟩ := List.exists_cons_of_length_eq_add_one hlength
      obtain ⟨z, hxz, hzy⟩ := Spot.reads_cons_iff.1 hxy
      obtain ⟨hc, hrest⟩ := List.forall_mem_cons.1 hread
      exact ⟨z, ⟨c, hc, hxz⟩, rest, Nat.succ.inj hlength, hrest, hzy⟩

/-- **One or more characters of a kind** match the texts of such characters but the empty one. -/
theorem spans_some_iff : (Expression.repetition (.char size test) 1 none).Spans x y ↔
    ∃ read, read ≠ [] ∧ (∀ c ∈ read, test c = true) ∧ x.Reads read y := by
  rw [Expression.Spans]
  simp only [times_char_iff, Option.mem_def, reduceCtorEq, false_implies,
    implies_true, true_and]
  constructor
  · rintro ⟨n, hn, read, rfl, hread⟩
    exact ⟨read, List.ne_nil_of_length_pos hn, hread⟩
  · rintro ⟨read, hne, hread⟩
    exact ⟨read.length, List.length_pos_of_ne_nil hne, read, rfl, hread⟩

/-! ## The texts in which the pattern occurs -/

/-- A part of an address: it is not empty and holds neither at signs nor blanks. -/
def IsPart (read : List Char) : Prop := read ≠ [] ∧ ∀ c ∈ read, isAddressChar c = true

theorem isPart_iff {read : List Char} :
    IsPart read ↔ read ≠ [] ∧ '@' ∉ read ∧ ∀ c ∈ read, Text.isBlank c = false := by
  refine and_congr_right fun _ => ?_
  simp only [isAddressChar, Bool.not_eq_true', Bool.or_eq_false_iff, beq_eq_false_iff_ne,
    forall_and]
  exact and_congr_left fun _ => ⟨fun h hat => h _ hat rfl, fun h c hc heq => h (heq ▸ hc)⟩

theorem spans_partExpression_iff : partExpression.Spans x y ↔
    ∃ read, IsPart read ∧ x.Reads read y := by
  simp only [partExpression, spans_some_iff, IsPart, and_assoc]

theorem spans_signExpression_iff {sign : Char} :
    (signExpression sign).Spans x y ↔ x.Reads [sign] y := by
  simp only [signExpression, spans_char_iff, beq_iff_eq, exists_eq_left]

theorem spans_lineStart_iff :
    (Expression.place (Assertion.lineStart.holds {})).Spans x y ↔ y = x ∧ x.before = none := by
  simp [Expression.Spans, Assertion.holds, Spot.place]

theorem spans_lineEnd_iff :
    (Expression.place (Assertion.lineEnd.holds {})).Spans x y ↔ y = x ∧ x.rest = [] := by
  simp [Expression.Spans, Assertion.holds, Spot.place]

theorem spans_sequence_iff {a b : Expression} :
    (Expression.sequence a b).Spans x y ↔ ∃ z, a.Spans x z ∧ b.Spans z y := Iff.rfl

/-- **The pattern matches** whole texts, in three parts with two signs between them. -/
theorem spans_emailExpression_iff : emailExpression.Spans x y ↔ ∃ user host top,
    (IsPart user ∧ IsPart host ∧ IsPart top) ∧ x.Reads (user ++ '@' :: (host ++ '.' :: top)) y ∧
      x.before = none ∧ y.rest = [] := by
  simp only [emailExpression, spans_sequence_iff, spans_lineStart_iff, spans_partExpression_iff,
    spans_signExpression_iff, spans_lineEnd_iff]
  constructor
  · rintro ⟨_, ⟨rfl, hbefore⟩, _, ⟨user, huser, hxa⟩, _, hab, _, ⟨host, hhost, hbc⟩, _, hcd, _,
      ⟨top, htop, hdy⟩, rfl, hend⟩
    have hdomain := Spot.reads_append_iff.2 ⟨_, hbc, Spot.reads_cons_iff.2 ⟨_, hcd, hdy⟩⟩
    exact ⟨user, host, top, ⟨huser, hhost, htop⟩,
      Spot.reads_append_iff.2 ⟨_, hxa, Spot.reads_cons_iff.2 ⟨_, hab, hdomain⟩⟩, hbefore, hend⟩
  · rintro ⟨user, host, top, ⟨huser, hhost, htop⟩, hxy, hbefore, hend⟩
    obtain ⟨a, hxa, hay⟩ := Spot.reads_append_iff.1 hxy
    obtain ⟨b, hab, hby⟩ := Spot.reads_cons_iff.1 hay
    obtain ⟨c, hbc, hcy⟩ := Spot.reads_append_iff.1 hby
    obtain ⟨d, hcd, hdy⟩ := Spot.reads_cons_iff.1 hcy
    exact ⟨x, ⟨rfl, hbefore⟩, a, ⟨user, huser, hxa⟩, b, hab, c, ⟨host, hhost, hbc⟩, d, hcd, y,
      ⟨top, htop, hdy⟩, rfl, hend⟩

theorem emailShape_iff {text : List Char} : Text.EmailShape text ↔ ∃ user host top,
    (IsPart user ∧ IsPart host ∧ IsPart top) ∧ text = user ++ '@' :: (host ++ '.' :: top) := by
  refine exists_congr fun user => exists_congr fun host => exists_congr fun top => ?_
  rw [and_comm (b := text = _)]
  refine and_congr_right ?_
  rintro rfl
  have hsigns : '@' ∉ host ++ '.' :: top ↔ '@' ∉ host ∧ '@' ∉ top := by
    simp [not_or]
  have hblanks : (∀ c ∈ user ++ '@' :: (host ++ '.' :: top), Text.isBlank c = false) ↔
      (∀ c ∈ user, Text.isBlank c = false) ∧ (∀ c ∈ host, Text.isBlank c = false) ∧
        ∀ c ∈ top, Text.isBlank c = false := by
    have hat : Text.isBlank '@' = false := by decide
    have hpoint : Text.isBlank '.' = false := by decide
    simp only [List.forall_mem_append, List.forall_mem_cons, hat, hpoint, true_and]
  simp only [isPart_iff, hsigns, hblanks]
  tauto

/-- **The pattern of email addresses matches** in the texts that have the shape of one. -/
theorem matches_emailExpression_iff {text : List Char} :
    (∃ x y, (Spot.start text).Later x ∧ emailExpression.Spans x y) ↔ Text.EmailShape text := by
  simp only [spans_emailExpression_iff, emailShape_iff]
  constructor
  · rintro ⟨x, y, hx, user, host, top, hparts, hreads, hbefore, hend⟩
    obtain ⟨read, htext, hlast⟩ := Spot.later_start_iff.1 hx
    obtain rfl := List.getLast?_eq_none_iff.1 (hlast.symm.trans hbefore)
    refine ⟨user, host, top, hparts, ?_⟩
    rw [htext, hreads.rest_eq, hend, List.append_nil, List.nil_append]
  · rintro ⟨user, host, top, hparts, rfl⟩
    exact ⟨.start _, ⟨_, []⟩, .refl, user, host, top, hparts,
      ⟨(List.append_nil _).symm, rfl⟩, rfl, rfl⟩

/-- The last two parts may hold points and even be points, but they are not empty. -/
example : ["a@b.c.d", "a@..b", "a@.b", "a@b."].map (fun text =>
    emailExpression.occursIn text.toList) = [true, true, false, false] := by
  decide

end Pattern

/-! ## Engines that find addresses -/

/-- An engine compiles the pattern of email addresses and finds it in the texts in which it matches
some stretch. -/
structure PatternEngine.FindsEmail (engine : PatternEngine) (p : engine.Compiled) : Prop where
  compiled : engine.compile Pattern.emailPattern = .ok p
  occursIn_iff : ∀ text, engine.occursIn p text = true ↔
    ∃ x y, (Pattern.Spot.start text).Later x ∧ Pattern.emailExpression.Spans x y

theorem PatternEngine.FindsEmail.occursIn_eq {engine : PatternEngine} {p : engine.Compiled}
    (h : engine.FindsEmail p) (text : List Char) :
    engine.occursIn p text = Text.isEmailShaped text := by
  rw [Bool.eq_iff_iff, h.occursIn_iff, Pattern.matches_emailExpression_iff, Text.isEmailShaped_iff]

theorem Pattern.finds_emailPattern : Pattern.engine.FindsEmail ⟨emailExpression⟩ :=
  ⟨ofText_emailPattern, Expression.occursIn_iff emailExpression⟩

/-! ## Blanks around an address -/

namespace Text

theorem exists_trimStart_eq (text : List Char) :
    ∃ left, (∀ c ∈ left, isBlank c = true) ∧ text = left ++ trimStart text :=
  ⟨text.takeWhile isBlank, fun _ => List.mem_takeWhile_imp,
    (List.takeWhile_append_dropWhile ..).symm⟩

theorem exists_trim_eq (text : List Char) : ∃ left right, (∀ c ∈ left, isBlank c = true) ∧
    (∀ c ∈ right, isBlank c = true) ∧ text = left ++ (trim text ++ right) := by
  obtain ⟨left, hleft, htext⟩ := exists_trimStart_eq text
  obtain ⟨right, hright, hrest⟩ := exists_trimStart_eq (trimStart text).reverse
  refine ⟨left, right.reverse, hleft, fun c hc => hright c (List.mem_reverse.1 hc), ?_⟩
  have hrest := congrArg List.reverse hrest
  rw [List.reverse_reverse, List.reverse_append] at hrest
  rw [trim, trimEnd, ← trimStart, ← hrest, ← htext]

theorem trimStart_append {left text : List Char} (hleft : ∀ c ∈ left, isBlank c = true) :
    trimStart (left ++ text) = trimStart text :=
  List.dropWhile_append_of_pos hleft

theorem trim_append {left core right : List Char} (hleft : ∀ c ∈ left, isBlank c = true)
    (hright : ∀ c ∈ right, isBlank c = true) (hcore : ∀ c ∈ core, isBlank c = false)
    (hne : core ≠ []) : trim (left ++ (core ++ right)) = core := by
  have hstart : trimStart (core ++ right) = core ++ right := by
    obtain ⟨c, rest, rfl⟩ := List.exists_cons_of_ne_nil hne
    exact List.dropWhile_cons_of_neg (by simp [hcore c (List.mem_cons_self ..)])
  have hend : trimStart (core ++ right).reverse = core.reverse := by
    rw [List.reverse_append,
      trimStart_append fun c hc => hright c (List.mem_reverse.1 hc),
      trimStart_eq_self fun c hc => hcore c (List.mem_reverse.1 hc)]
  rw [trim, trimStart_append hleft, hstart, trimEnd, ← trimStart, hend, List.reverse_reverse]

/-- **Trimming leaves an address** if the text is one between blanks. -/
theorem emailShape_trim_iff {text : List Char} : EmailShape (trim text) ↔
    ∃ left core right, text = left ++ (core ++ right) ∧ (∀ c ∈ left, isBlank c = true) ∧
      (∀ c ∈ right, isBlank c = true) ∧ EmailShape core := by
  constructor
  · intro h
    obtain ⟨left, right, hleft, hright, htext⟩ := exists_trim_eq text
    exact ⟨left, trim text, right, htext, hleft, hright, h⟩
  · rintro ⟨left, core, right, rfl, hleft, hright, hcore⟩
    have hne : core ≠ [] := by
      obtain ⟨_, _, _, rfl, _⟩ := hcore
      simp
    have hink : ∀ c ∈ core, isBlank c = false := by
      obtain ⟨_, _, _, _, _, _, hblank⟩ := hcore
      exact hblank
    rwa [trim_append hleft hright hink hne]

end Text

/-! ## Main theorem -/

namespace Rule

/-- What is wrong with a value when a pattern is searched for in its text, blanks around it
aside. -/
def searchViolations (engine : PatternEngine) (p : engine.Compiled) (v : Value) : List Violation :=
  if v.isBlank then []
  else
    match v.text? with
    | none => []
    | some text => if engine.occursIn p (Text.trim text) then [] else [.invalidEmail]

theorem searchViolations_email {engine : PatternEngine} {p : engine.Compiled}
    (hp : engine.FindsEmail p) (v : Value) : searchViolations engine p v = emailViolations v := by
  unfold searchViolations emailViolations
  refine if_congr Iff.rfl rfl ?_
  cases v.text? with
  | none => rfl
  | some text => simp only [hp.occursIn_eq]

/-- Something was entered that is no address after trimming. -/
def IsNoEmail (v : Value) : Prop :=
  v.isBlank = false ∧ ∃ text, v.text? = some text ∧ ¬ Text.EmailShape (Text.trim text)

theorem emailViolations_of_isNoEmail {v : Value} (h : IsNoEmail v) :
    emailViolations v = [.invalidEmail] := by
  obtain ⟨hblank, text, htext, hshape⟩ := h
  rw [← Text.isEmailShaped_iff] at hshape
  simp only [emailViolations, hblank, htext, if_neg hshape, Bool.false_eq_true, if_false]

theorem emailViolations_of_not_isNoEmail {v : Value} (h : ¬ IsNoEmail v) :
    emailViolations v = [] := by
  unfold emailViolations
  split
  · rfl
  · next hblank =>
    split
    · rfl
    · next text htext =>
      refine if_pos (Text.isEmailShaped_iff.2 ?_)
      by_contra hshape
      exact h ⟨Bool.eq_false_iff.2 hblank, text, htext, hshape⟩

theorem not_isNoEmail_iff {v : Value} : ¬ IsNoEmail v ↔ v.isBlank = true ∨
    ∃ left core right, v.text? = some (left ++ (core ++ right)) ∧
      (∀ c ∈ left, Text.isBlank c = true) ∧ (∀ c ∈ right, Text.isBlank c = true) ∧
      Text.EmailShape core := by
  cases htext : v.text? with
  | none =>
    have hblank : v.isBlank = true := by
      unfold Value.isBlank
      rw [htext]
    simp [IsNoEmail, hblank]
  | some text =>
    simp only [IsNoEmail, htext, Option.some.injEq, exists_eq_left', not_and, not_not,
      Text.emailShape_trim_iff]
    cases v.isBlank <;> simp

/-- What the rule for email addresses answers on a value. -/
structure EmailVerdict (node : Node) (v : Value) (verdict : Verdict) : Prop where
  /-- The pattern is one, and the verdict is that of a search for it. -/
  search : ∃ p, Pattern.engine.compile Pattern.emailPattern = .ok p ∧
    verdict = .of node.field (searchViolations Pattern.engine p v)
  /-- Any engine may search that finds the pattern where it matches. -/
  search_with : ∀ (engine : PatternEngine) (p : engine.Compiled), engine.FindsEmail p →
    verdict = .of node.field (searchViolations engine p v)
  /-- What was entered fails exactly if it is no address after trimming. -/
  hasCode_iff : verdict.hasCode "INVALID_EMAIL" = true ↔ IsNoEmail v
  /-- A value that does not fail is an address between blanks, if anything was entered. -/
  valid_iff : verdict = .valid ↔ v.isBlank = true ∨
    ∃ left core right, v.text? = some (left ++ (core ++ right)) ∧
      (∀ c ∈ left, Text.isBlank c = true) ∧ (∀ c ∈ right, Text.isBlank c = true) ∧
      Text.EmailShape core
  /-- There is one way to fail. -/
  valid_or : verdict = .valid ∨ verdict = .of node.field [.invalidEmail]

/-- **The rule for email addresses** answers what a search for their pattern does, on any value. -/
theorem emailVerdict_email (node : Node) (v : Value) (form : Form) :
    EmailVerdict node v (email.check node v form) := by
  have hwith : ∀ (engine : PatternEngine) (p : engine.Compiled), engine.FindsEmail p →
      email.check node v form = .of node.field (searchViolations engine p v) := by
    intro engine p hp
    rw [searchViolations_email hp]
    rfl
  have hsearch := hwith Pattern.engine _ Pattern.finds_emailPattern
  have hcheck : email.check node v form = .of node.field (emailViolations v) := rfl
  by_cases h : IsNoEmail v
  · rw [emailViolations_of_isNoEmail h] at hcheck
    exact ⟨⟨_, Pattern.ofText_emailPattern, hsearch⟩, hwith, iff_of_true (by rw [hcheck]; rfl) h,
      iff_of_false (by rw [hcheck]; nofun) fun hvalid => not_isNoEmail_iff.2 hvalid h,
      .inr hcheck⟩
  · rw [emailViolations_of_not_isNoEmail h] at hcheck
    exact ⟨⟨_, Pattern.ofText_emailPattern, hsearch⟩, hwith,
      iff_of_false (by rw [hcheck]; nofun) h,
      iff_of_true hcheck (not_isNoEmail_iff.1 h), .inl hcheck⟩

end Rule

end DynamicForms
