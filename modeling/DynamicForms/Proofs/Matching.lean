import DynamicForms.Pattern.Expression
import Mathlib.Data.List.Induction
import Mathlib.Logic.Relation

/-!
# What a pattern matches

Whether a pattern occurs in a text is decided in one pass by moving marks.  What the marks stand for
is said here without them.

* `Expression.Spans` — the stretches of a text that an expression matches, from one spot to another;
  a spot knows the character before it and all that follows.
* `Marked.Spans`, `Marked.Resumes` — the same for marked expressions, from their start and from
  their marks on.
* `isSkippable_iff`, `isFinished_iff` — what the two tests say of these.
* `Marked.Begins`, `resumes_step` — a move over one character leaves behind it what starts before
  it and does not end there; `occursFrom_iff`: all moves, by induction on the text.
* `Times.pump` — a stretch of more repetitions than characters is one of any number of them, so
  that no more have to be spelt out; `spans_ofExpression`: spelling them out changes nothing.
* `Expression.occursIn_iff` — an expression occurs in a text exactly if it matches some stretch of
  it.
-/

set_option autoImplicit false

namespace DynamicForms.Pattern

open Relation

/-! ## Spots in a text -/

/-- A place in a text, with all that follows. -/
@[ext]
structure Spot where
  before : Option Char
  rest : List Char

namespace Spot

/-- The start of a text. -/
def start (text : List Char) : Spot := ⟨none, text⟩

/-- The characters on both sides of a spot. -/
def place (x : Spot) : Place := ⟨x.before, x.rest.head?⟩

/-- One character is read. -/
def Next (x y : Spot) : Prop := ∃ c, x.rest = c :: y.rest ∧ y.before = some c

/-- Some characters are read, or none. -/
abbrev Later : Spot → Spot → Prop := ReflTransGen Next

theorem Next.length_lt {x y : Spot} (h : Next x y) : y.rest.length < x.rest.length := by
  obtain ⟨c, hrest, _⟩ := h
  rw [hrest, List.length_cons]
  exact Nat.lt_succ_self _

theorem Next.eq {x y : Spot} {c : Char} {rest : List Char} (h : Next x y)
    (hx : x.rest = c :: rest) : y = ⟨some c, rest⟩ := by
  obtain ⟨d, hrest, hbefore⟩ := h
  rw [hx, List.cons.injEq] at hrest
  obtain ⟨rfl, rfl⟩ := hrest
  exact Spot.ext hbefore rfl

theorem later_iff {x y : Spot} {c : Char} {rest : List Char} (hx : x.rest = c :: rest) :
    Later x y ↔ y = x ∨ Later ⟨some c, rest⟩ y := by
  constructor
  · intro h
    rcases ReflTransGen.cases_head h with rfl | ⟨z, hz, hzy⟩
    · exact .inl rfl
    · exact .inr (hz.eq hx ▸ hzy)
  · rintro (rfl | h)
    · exact .refl
    · exact .head ⟨c, hx, rfl⟩ h

theorem eq_of_later_nil {x y : Spot} (hx : x.rest = []) (h : Later x y) : y = x := by
  rcases ReflTransGen.cases_head h with rfl | ⟨z, hz, _⟩
  · rfl
  · have hlt := hz.length_lt
    rw [hx] at hlt
    exact absurd hlt (Nat.not_lt_zero _)

theorem later_start_iff {text : List Char} {x : Spot} :
    Later (start text) x ↔ ∃ read, text = read ++ x.rest ∧ x.before = read.getLast? := by
  constructor
  · intro h
    induction h with
    | refl => exact ⟨[], rfl, rfl⟩
    | @tail y z _ hnext ih =>
      obtain ⟨read, htext, _⟩ := ih
      obtain ⟨c, hrest, hbefore⟩ := hnext
      exact ⟨read ++ [c], by rw [htext, hrest, List.append_assoc, List.singleton_append],
        by rw [hbefore, List.getLast?_concat]⟩
  · rintro ⟨read, rfl, hbefore⟩
    obtain ⟨before, rest⟩ := x
    subst hbefore
    induction read using List.reverseRecOn generalizing rest with
    | nil => exact .refl
    | append_singleton read c ih =>
      rw [List.append_assoc]
      exact (ih (c :: rest)).tail ⟨c, rfl, List.getLast?_concat⟩

end Spot

/-! ## Relations that only go ahead -/

/-- A relation that goes ahead in the text, or stays where it is. -/
def GoesAhead (R : Spot → Spot → Prop) : Prop :=
  ∀ x y, R x y → y = x ∨ y.rest.length < x.rest.length

/-- A relation some times in a row. -/
def Times (R : Spot → Spot → Prop) : Nat → Spot → Spot → Prop
  | 0, x, y => y = x
  | n + 1, x, y => ∃ z, R x z ∧ Times R n z y

namespace GoesAhead

variable {R : Spot → Spot → Prop} {x y z : Spot}

theorem length_le (h : GoesAhead R) (hR : R x y) : y.rest.length ≤ x.rest.length := by
  rcases h x y hR with rfl | hlt
  · exact Nat.le_refl _
  · exact Nat.le_of_lt hlt

theorem times (h : GoesAhead R) (n : Nat) : GoesAhead (Times R n) := by
  induction n with
  | zero => exact fun _ _ heq => .inl heq
  | succ n ih =>
    rintro x y ⟨z, hxz, hzy⟩
    rcases h x z hxz with rfl | hlt
    · exact ih _ _ hzy
    · exact .inr (Nat.lt_of_le_of_lt (ih.length_le hzy) hlt)

theorem reflTransGen (h : GoesAhead R) : GoesAhead (ReflTransGen R) := by
  intro x y hxy
  induction hxy with
  | refl => exact .inl rfl
  | @tail y z _ hyz ih =>
    rcases ih with rfl | hlt
    · exact h _ _ hyz
    · exact .inr (Nat.lt_of_le_of_lt (h.length_le hyz) hlt)

theorem transGen (h : GoesAhead R) : GoesAhead (TransGen R) :=
  fun x y hxy => h.reflTransGen x y hxy.to_reflTransGen

theorem ne (h : GoesAhead R) (hlt : z.rest.length < x.rest.length) (hR : R z y) : y ≠ x := by
  rintro rfl
  exact Nat.lt_irrefl _ (Nat.lt_of_le_of_lt (h.length_le hR) hlt)

theorem exists_first (h : ReflTransGen R x y) (hne : y ≠ x) :
    ∃ z, R x z ∧ z ≠ x ∧ ReflTransGen R z y := by
  induction h using ReflTransGen.head_induction_on with
  | refl => exact absurd rfl hne
  | @head x z hxz hzy ih =>
    by_cases hz : z = x
    · subst hz
      exact ih hne
    · exact ⟨z, hxz, hz, hzy⟩

end GoesAhead

namespace Times

variable {R S : Spot → Spot → Prop} {x y z : Spot} {m n : Nat}

theorem add_iff : Times R (m + n) x y ↔ ∃ z, Times R m x z ∧ Times R n z y := by
  induction m generalizing x with
  | zero => simp [Times]
  | succ m ih =>
    rw [Nat.succ_add]
    simp only [Times, ih]
    constructor
    · rintro ⟨w, hxw, z, hwz, hzy⟩
      exact ⟨z, ⟨w, hxw, hwz⟩, hzy⟩
    · rintro ⟨z, ⟨w, hxw, hwz⟩, hzy⟩
      exact ⟨w, hxw, z, hwz, hzy⟩

theorem reflTransGen_iff : ReflTransGen R x y ↔ ∃ n, Times R n x y := by
  constructor
  · intro h
    induction h using ReflTransGen.head_induction_on with
    | refl => exact ⟨0, rfl⟩
    | head hxz _ ih =>
      obtain ⟨n, hn⟩ := ih
      exact ⟨n + 1, _, hxz, hn⟩
  · rintro ⟨n, h⟩
    induction n generalizing x with
    | zero =>
      obtain rfl := h
      exact .refl
    | succ n ih =>
      obtain ⟨z, hxz, hzy⟩ := h
      exact .head hxz (ih hzy)

theorem transGen_iff : TransGen R x y ↔ ∃ n, Times R (n + 1) x y := by
  rw [TransGen.head'_iff]
  simp only [reflTransGen_iff, Times]
  constructor
  · rintro ⟨z, hxz, n, hzy⟩
    exact ⟨n, z, hxz, hzy⟩
  · rintro ⟨n, z, hxz, hzy⟩
    exact ⟨z, hxz, n, hzy⟩

theorem congr (h : GoesAhead R) {limit : Nat}
    (hRS : ∀ x y, x.rest.length < limit → (R x y ↔ S x y)) (hx : x.rest.length < limit) :
    Times R n x y ↔ Times S n x y := by
  induction n generalizing x with
  | zero => exact Iff.rfl
  | succ n ih =>
    simp only [Times]
    refine exists_congr fun z => ?_
    rw [← hRS x z hx]
    exact and_congr_right fun hxz => ih (Nat.lt_of_le_of_lt (h.length_le hxz) hx)

theorem shorten (h : GoesAhead R) (hxy : Times R n x y) :
    ∃ k, k ≤ x.rest.length ∧ k ≤ n ∧ Times R k x y := by
  induction n generalizing x with
  | zero => exact ⟨0, Nat.zero_le _, Nat.le_refl _, hxy⟩
  | succ n ih =>
    obtain ⟨z, hxz, hzy⟩ := hxy
    obtain ⟨k, hlen, hk, hkzy⟩ := ih hzy
    rcases h x z hxz with rfl | hlt
    · exact ⟨k, hlen, Nat.le_succ_of_le hk, hkzy⟩
    · exact ⟨k + 1, Nat.le_trans (Nat.succ_le_succ hlen) hlt, Nat.succ_le_succ hk, z, hxz, hkzy⟩

theorem pad (hxx : R x x) (hxy : Times R n x y) : ∀ k, Times R (k + n) x y
  | 0 => (Nat.zero_add n).symm ▸ hxy
  | k + 1 => by
    rw [Nat.succ_add]
    exact ⟨x, hxx, pad hxx hxy k⟩

/-- **More steps than there are characters** are as good as any number of them: one of them stays
where it is. -/
theorem pump (h : GoesAhead R) (hxy : Times R n x y) (hn : x.rest.length < n)
    (hm : x.rest.length ≤ m) : Times R m x y := by
  induction n generalizing x m with
  | zero => exact absurd hn (Nat.not_lt_zero _)
  | succ n ih =>
    obtain ⟨z, hxz, hzy⟩ := hxy
    rcases h x z hxz with rfl | hlt
    · obtain ⟨k, hlen, _, hk⟩ := shorten h hzy
      have hpad := pad hxz hk (m - k)
      rwa [Nat.sub_add_cancel (Nat.le_trans hlen hm)] at hpad
    · obtain ⟨m, rfl⟩ : ∃ k, m = k + 1 := ⟨m - 1, by omega⟩
      exact ⟨z, hxz, ih hzy (by omega) (by omega)⟩

end Times

/-! ## What expressions match -/

/-- The stretches of a text that an expression matches. -/
def Expression.Spans : Expression → Spot → Spot → Prop
  | .empty, x, y => y = x
  | .place test, x, y => y = x ∧ test x.place = true
  | .char _ test, x, y => x.Next y ∧ y.before.any test = true
  | .sequence a b, x, y => ∃ z, a.Spans x z ∧ b.Spans z y
  | .choice a b, x, y => a.Spans x y ∨ b.Spans x y
  | .repetition e low high, x, y =>
    ∃ n, low ≤ n ∧ (∀ most ∈ high, n ≤ max low most) ∧ Times e.Spans n x y

namespace Marked

/-- The stretches that a marked expression matches; marks make no difference. -/
def Spans : Marked → Spot → Spot → Prop
  | .empty, x, y => y = x
  | .place test, x, y => y = x ∧ test x.place = true
  | .char _ test, x, y => x.Next y ∧ y.before.any test = true
  | .sequence a b, x, y => ∃ z, a.Spans x z ∧ b.Spans z y
  | .choice a b, x, y => a.Spans x y ∨ b.Spans x y
  | .loop e, x, y => TransGen e.Spans x y

/-- The stretches that what stands behind a mark matches. -/
def Resumes : Marked → Spot → Spot → Prop
  | .empty, _, _ => False
  | .place _, _, _ => False
  | .char mark _, x, y => mark = true ∧ y = x
  | .sequence a b, x, y => (∃ z, a.Resumes x z ∧ b.Spans z y) ∨ b.Resumes x y
  | .choice a b, x, y => a.Resumes x y ∨ b.Resumes x y
  | .loop e, x, y => ∃ z, e.Resumes x z ∧ ReflTransGen e.Spans z y

theorem goesAhead_spans (e : Marked) : GoesAhead e.Spans := by
  induction e with
  | empty => exact fun _ _ h => .inl h
  | place test => exact fun _ _ h => .inl h.1
  | char mark test => exact fun _ _ h => .inr h.1.length_lt
  | sequence a b iha ihb =>
    rintro x y ⟨z, hxz, hzy⟩
    rcases iha x z hxz with rfl | hlt
    · exact ihb _ _ hzy
    · exact .inr (Nat.lt_of_le_of_lt (ihb.length_le hzy) hlt)
  | choice a b iha ihb =>
    rintro x y (h | h)
    · exact iha x y h
    · exact ihb x y h
  | loop e ih => exact ih.transGen

theorem goesAhead_resumes (e : Marked) : GoesAhead e.Resumes := by
  induction e with
  | empty => exact fun _ _ h => h.elim
  | place test => exact fun _ _ h => h.elim
  | char mark test => exact fun _ _ h => .inl h.2
  | sequence a b iha ihb =>
    rintro x y (⟨z, hxz, hzy⟩ | h)
    · rcases iha x z hxz with rfl | hlt
      · exact b.goesAhead_spans _ _ hzy
      · exact .inr (Nat.lt_of_le_of_lt (b.goesAhead_spans.length_le hzy) hlt)
    · exact ihb x y h
  | choice a b iha ihb =>
    rintro x y (h | h)
    · exact iha x y h
    · exact ihb x y h
  | loop e ih =>
    rintro x y ⟨z, hxz, hzy⟩
    rcases ih x z hxz with rfl | hlt
    · exact e.goesAhead_spans.reflTransGen _ _ hzy
    · exact .inr (Nat.lt_of_le_of_lt (e.goesAhead_spans.reflTransGen.length_le hzy) hlt)

theorem eq_of_back {R S : Spot → Spot → Prop} (hR : GoesAhead R) (hS : GoesAhead S) {x z : Spot}
    (hxz : R x z) (hzx : S z x) : z = x := by
  rcases hR x z hxz with heq | hlt
  · exact heq
  · exact absurd rfl (hS.ne hlt hzx)

/-- **The test for nothing at all.** -/
theorem isSkippable_iff (e : Marked) (x : Spot) :
    e.isSkippable x.place = true ↔ e.Spans x x := by
  induction e with
  | empty => simp [isSkippable, Spans]
  | place test => simp [isSkippable, Spans]
  | char mark test =>
    simp only [isSkippable, Spans, Bool.false_eq_true, false_iff]
    exact fun h => Nat.lt_irrefl _ h.1.length_lt
  | sequence a b iha ihb =>
    rw [isSkippable, Bool.and_eq_true, iha, ihb]
    constructor
    · exact fun h => ⟨x, h⟩
    · rintro ⟨z, hxz, hzx⟩
      obtain rfl := eq_of_back a.goesAhead_spans b.goesAhead_spans hxz hzx
      exact ⟨hxz, hzx⟩
  | choice a b iha ihb => rw [isSkippable, Bool.or_eq_true, iha, ihb, Spans]
  | loop e ih =>
    rw [isSkippable, ih]
    constructor
    · exact .single
    · intro h
      obtain ⟨z, hxz, hzx⟩ := TransGen.head'_iff.1 h
      obtain rfl := eq_of_back e.goesAhead_spans e.goesAhead_spans.reflTransGen hxz hzx
      exact hxz

/-- **The test for a mark at the end.** -/
theorem isFinished_iff (e : Marked) (x : Spot) :
    e.isFinished x.place = true ↔ e.Resumes x x := by
  induction e with
  | empty => simp [isFinished, Resumes]
  | place test => simp [isFinished, Resumes]
  | char mark test => simp [isFinished, Resumes]
  | sequence a b iha ihb =>
    rw [isFinished, Bool.or_eq_true, Bool.and_eq_true, iha, ihb, isSkippable_iff, Resumes]
    refine or_congr_left ⟨fun h => ⟨x, h⟩, ?_⟩
    rintro ⟨z, hxz, hzx⟩
    obtain rfl := eq_of_back a.goesAhead_resumes b.goesAhead_spans hxz hzx
    exact ⟨hxz, hzx⟩
  | choice a b iha ihb => rw [isFinished, Bool.or_eq_true, iha, ihb, Resumes]
  | loop e ih =>
    rw [isFinished, ih]
    constructor
    · exact fun h => ⟨x, h, .refl⟩
    · rintro ⟨z, hxz, hzx⟩
      obtain rfl := eq_of_back e.goesAhead_resumes e.goesAhead_spans.reflTransGen hxz hzx
      exact hxz

/-! ## A move over one character -/

theorem spans_step (p : Place) (c : Char) (e : Marked) :
    ∀ entered, (e.step p c entered).Spans = e.Spans := by
  induction e with
  | empty => exact fun _ => rfl
  | place test => exact fun _ => rfl
  | char mark test => exact fun _ => rfl
  | sequence a b iha ihb =>
    intro entered
    funext x y
    simp only [step, Spans, iha, ihb]
  | choice a b iha ihb =>
    intro entered
    funext x y
    simp only [step, Spans, iha, ihb]
  | loop e ih =>
    intro entered
    funext x y
    simp only [step, Spans, ih]

/-- The stretches that start at a spot, if they may, or had started before it. -/
def Begins (e : Marked) (entered : Prop) (x y : Spot) : Prop :=
  entered ∧ e.Spans x y ∨ e.Resumes x y

theorem goesAhead_begins (e : Marked) (entered : Prop) : GoesAhead (e.Begins entered) := by
  rintro x y (⟨_, h⟩ | h)
  · exact e.goesAhead_spans x y h
  · exact e.goesAhead_resumes x y h

theorem exists_begins_and {e : Marked} {entered : Prop} {x : Spot} {S : Spot → Prop} :
    (entered ∧ ∃ z, e.Spans x z ∧ S z) ∨ (∃ z, e.Resumes x z ∧ S z) ↔
      ∃ z, e.Begins entered x z ∧ S z := by
  constructor
  · rintro (⟨hentered, z, hxz, hz⟩ | ⟨z, hxz, hz⟩)
    · exact ⟨z, .inl ⟨hentered, hxz⟩, hz⟩
    · exact ⟨z, .inr hxz, hz⟩
  · rintro ⟨z, ⟨hentered, hxz⟩ | hxz, hz⟩
    · exact .inl ⟨hentered, z, hxz, hz⟩
    · exact .inr ⟨z, hxz, hz⟩

theorem begins_sequence {a b : Marked} {entered : Prop} {x y : Spot} :
    (sequence a b).Begins entered x y ↔
      (∃ z, a.Begins entered x z ∧ b.Spans z y) ∨ b.Resumes x y := by
  rw [Begins, Spans, Resumes, ← or_assoc, exists_begins_and]

theorem begins_loop {e : Marked} {entered : Prop} {x y : Spot} :
    (loop e).Begins entered x y ↔
      ∃ z, e.Begins entered x z ∧ ReflTransGen e.Spans z y := by
  rw [Begins, Spans, Resumes, TransGen.head'_iff, exists_begins_and]

theorem leaves_iff {R S : Spot → Spot → Prop} (hR : GoesAhead R) (hS : GoesAhead S)
    {x y : Spot} : (∃ z, R x z ∧ S z y) ∧ y ≠ x ↔
      (∃ z, (R x z ∧ z ≠ x) ∧ S z y) ∨ (R x x ∧ S x y) ∧ y ≠ x := by
  constructor
  · rintro ⟨⟨z, hxz, hzy⟩, hy⟩
    by_cases hz : z = x
    · subst hz
      exact .inr ⟨⟨hxz, hzy⟩, hy⟩
    · exact .inl ⟨z, ⟨hxz, hz⟩, hzy⟩
  · rintro (⟨z, ⟨hxz, hz⟩, hzy⟩ | ⟨h, hy⟩)
    · exact ⟨⟨z, hxz, hzy⟩, hS.ne ((hR x z hxz).resolve_left hz) hzy⟩
    · exact ⟨⟨x, h⟩, hy⟩

/-- **A move over one character**: behind it are the stretches that start before it, or had started,
and do not end before it. -/
theorem resumes_step {x : Spot} {c : Char} {rest : List Char} (hx : x.rest = c :: rest)
    (e : Marked) : ∀ (entered : Bool) (y : Spot),
      (e.step x.place c entered).Resumes ⟨some c, rest⟩ y ↔
        e.Begins (entered = true) x y ∧ y ≠ x := by
  induction e with
  | empty => simp [step, Resumes, Begins, Spans]
  | place test =>
    intro entered y
    simp only [step, Resumes, Begins, Spans, or_false, false_iff]
    exact fun h => h.2 h.1.2.1
  | char mark test =>
    intro entered y
    simp only [step, Resumes, Begins, Spans, Bool.and_eq_true]
    constructor
    · rintro ⟨⟨hentered, htest⟩, rfl⟩
      have hnext : x.Next ⟨some c, rest⟩ := ⟨c, hx, rfl⟩
      refine ⟨.inl ⟨hentered, hnext, by simpa using htest⟩, ?_⟩
      exact fun heq => Nat.lt_irrefl _ (heq ▸ hnext.length_lt)
    · rintro ⟨⟨hentered, hnext, htest⟩ | h, hy⟩
      · obtain rfl := hnext.eq hx
        exact ⟨⟨hentered, by simpa using htest⟩, rfl⟩
      · exact absurd h.2 hy
  | sequence a b iha ihb =>
    -- The second part is entered where the first one is skipped or ends.
    intro entered y
    have hentered : ((entered && a.isSkippable x.place) || a.isFinished x.place) = true ↔
        a.Begins (entered = true) x x := by
      rw [Bool.or_eq_true, Bool.and_eq_true, isSkippable_iff, isFinished_iff, Begins]
    rw [begins_sequence, or_and_right,
      leaves_iff (a.goesAhead_begins _) b.goesAhead_spans, or_assoc, ← or_and_right]
    simp only [step, Resumes, spans_step, iha, ihb, Begins, hentered]
  | choice a b iha ihb =>
    intro entered y
    simp only [step, Resumes, Begins, Spans, iha, ihb, ← or_and_right, and_or_left]
    rw [or_or_or_comm]
  | loop e ih =>
    intro entered y
    have hentered : (entered || e.isFinished x.place) = true ↔
        entered = true ∨ e.Resumes x x := by
      rw [Bool.or_eq_true, isFinished_iff]
    simp only [step, Resumes, spans_step, ih, hentered]
    rw [begins_loop]
    have hloop := e.goesAhead_spans.reflTransGen
    constructor
    · rintro ⟨z, ⟨hxz, hz⟩, hzy⟩
      refine ⟨?_, hloop.ne ((e.goesAhead_begins _ x z hxz).resolve_left hz) hzy⟩
      rcases hxz with ⟨hentered | hxx, hxz⟩ | hxz
      · exact ⟨z, .inl ⟨hentered, hxz⟩, hzy⟩
      · exact ⟨x, .inr hxx, .head hxz hzy⟩
      · exact ⟨z, .inr hxz, hzy⟩
    · rw [leaves_iff (e.goesAhead_begins _) hloop]
      rintro (⟨z, ⟨hxz, hz⟩, hzy⟩ | ⟨⟨hxx, hxy⟩, hy⟩)
      · exact ⟨z, ⟨hxz.imp_left fun h => ⟨.inl h.1, h.2⟩, hz⟩, hzy⟩
      · -- Nothing was left of the first round, and another one is entered.
        obtain ⟨z, hxz, hz, hzy⟩ := GoesAhead.exists_first hxy hy
        exact ⟨z, ⟨.inl ⟨hxx.imp_left And.left, hxz⟩, hz⟩, hzy⟩

/-! ## All moves -/

/-- **The moves over a text** find a stretch that starts in it, or one that had started. -/
theorem occursFrom_iff : ∀ (rest : List Char) (e : Marked) (before : Option Char),
    e.occursFrom before rest = true ↔
      (∃ y, e.Resumes ⟨before, rest⟩ y) ∨ ∃ x y, Spot.Later ⟨before, rest⟩ x ∧ e.Spans x y := by
  intro rest
  induction rest with
  | nil =>
    intro e before
    have hend : ∀ {R : Spot → Spot → Prop} {y : Spot}, GoesAhead R → R ⟨before, []⟩ y →
        y = ⟨before, []⟩ :=
      fun hR h => (hR _ _ h).resolve_right (Nat.not_lt_zero _)
    have hskip := e.isSkippable_iff ⟨before, []⟩
    have hfinish := e.isFinished_iff ⟨before, []⟩
    rw [Spot.place] at hskip hfinish
    rw [occursFrom, Bool.or_eq_true]
    simp only [List.head?_nil] at hskip hfinish
    rw [hskip, hfinish]
    constructor
    · rintro (h | h)
      · exact .inr ⟨_, _, .refl, h⟩
      · exact .inl ⟨_, h⟩
    · rintro (⟨y, h⟩ | ⟨x, y, hlater, h⟩)
      · exact .inr (hend e.goesAhead_resumes h ▸ h)
      · obtain rfl := Spot.eq_of_later_nil rfl hlater
        exact .inl (hend e.goesAhead_spans h ▸ h)
  | cons c rest ih =>
    intro e before
    have hskip := e.isSkippable_iff ⟨before, c :: rest⟩
    have hfinish := e.isFinished_iff ⟨before, c :: rest⟩
    have hstep := resumes_step (x := ⟨before, c :: rest⟩) rfl e true
    rw [Spot.place] at hskip hfinish hstep
    simp only [List.head?_cons] at hskip hfinish hstep
    rw [occursFrom, Bool.or_eq_true, Bool.or_eq_true, ih, hskip, hfinish, spans_step]
    simp only [hstep, Begins, true_and]
    constructor
    · rintro ((h | h) | ⟨y, h | h, _⟩ | ⟨x, y, hlater, h⟩)
      · exact .inr ⟨_, _, .refl, h⟩
      · exact .inl ⟨_, h⟩
      · exact .inr ⟨_, y, .refl, h⟩
      · exact .inl ⟨y, h⟩
      · exact .inr ⟨x, y, (Spot.later_iff rfl).2 (.inr hlater), h⟩
    · rintro (⟨y, h⟩ | ⟨x, y, hlater, h⟩)
      · by_cases hy : y = ⟨before, c :: rest⟩
        · exact .inl (.inr (hy ▸ h))
        · exact .inr (.inl ⟨y, .inr h, hy⟩)
      · rcases (Spot.later_iff rfl).1 hlater with rfl | hlater
        · by_cases hy : y = ⟨before, c :: rest⟩
          · exact .inl (.inl (hy ▸ h))
          · exact .inr (.inl ⟨y, .inl h, hy⟩)
        · exact .inr (.inr ⟨x, y, hlater, h⟩)

/-! ## Repetitions spelt out -/

theorem spans_copies {e next : Marked} {n : Nat} {x y : Spot} :
    (copies e n next).Spans x y ↔ ∃ z, Times e.Spans n x z ∧ next.Spans z y := by
  induction n generalizing x with
  | zero => simp [copies, Times]
  | succ n ih =>
    simp only [copies, Spans, ih, Times]
    constructor
    · rintro ⟨w, hxw, z, hwz, hzy⟩
      exact ⟨z, ⟨w, hxw, hwz⟩, hzy⟩
    · rintro ⟨z, ⟨w, hxw, hwz⟩, hzy⟩
      exact ⟨w, hxw, z, hwz, hzy⟩

theorem spans_atMost {e : Marked} {n : Nat} {x y : Spot} :
    (atMost e n).Spans x y ↔ ∃ k, k ≤ n ∧ Times e.Spans k x y := by
  induction n generalizing x with
  | zero => simp [atMost, Spans, Times]
  | succ n ih =>
    simp only [atMost, Spans, ih]
    constructor
    · rintro (h | ⟨z, hxz, k, hk, hzy⟩)
      · exact ⟨0, Nat.zero_le _, h⟩
      · exact ⟨k + 1, Nat.succ_le_succ hk, z, hxz, hzy⟩
    · rintro ⟨_ | k, hk, h⟩
      · exact .inl h
      · obtain ⟨z, hxz, hzy⟩ := h
        exact .inr ⟨z, hxz, k, Nat.le_of_succ_le_succ hk, hzy⟩

theorem spans_copies_loop {e : Marked} {least limit : Nat} {x y : Spot}
    (hx : x.rest.length < limit) : (copies e (min least limit) (.loop e)).Spans x y ↔
      ∃ n, least + 1 ≤ n ∧ Times e.Spans n x y := by
  rw [spans_copies]
  simp only [Spans, Times.transGen_iff]
  constructor
  · rintro ⟨z, hxz, n, hzy⟩
    have hxy := Times.add_iff.2 ⟨z, hxz, hzy⟩
    rcases Nat.le_total least limit with hle | hle
    · rw [Nat.min_eq_left hle] at hxy
      exact ⟨_, by omega, hxy⟩
    · rw [Nat.min_eq_right hle] at hxy
      exact ⟨least + 1, Nat.le_refl _, hxy.pump e.goesAhead_spans (by omega) (by omega)⟩
  · rintro ⟨n, hn, hxy⟩
    obtain ⟨k, rfl⟩ : ∃ k, n = min least limit + (k + 1) :=
      ⟨n - min least limit - 1, by omega⟩
    obtain ⟨z, hxz, hzy⟩ := Times.add_iff.1 hxy
    exact ⟨z, hxz, k, hzy⟩

theorem spans_copies_atMost {e : Marked} {least most limit : Nat} {x y : Spot}
    (hx : x.rest.length < limit) :
    (copies e (min least limit) (atMost e (min (most - least) limit))).Spans x y ↔
      ∃ n, least ≤ n ∧ n ≤ max least most ∧ Times e.Spans n x y := by
  rw [spans_copies]
  simp only [spans_atMost]
  constructor
  · rintro ⟨z, hxz, n, hn, hzy⟩
    have hxy := Times.add_iff.2 ⟨z, hxz, hzy⟩
    rcases Nat.lt_or_ge limit least with hlt | hge
    · exact ⟨least, Nat.le_refl _, Nat.le_max_left _ _,
        hxy.pump e.goesAhead_spans (by omega) (by omega)⟩
    · exact ⟨_, by omega, by omega, hxy⟩
  · rintro ⟨n, hleast, hmost, hxy⟩
    rcases Nat.lt_or_ge limit least with hlt | hge
    · have hall : Times e.Spans (min least limit) x y :=
        hxy.pump e.goesAhead_spans (by omega) (by omega)
      exact ⟨y, hall, 0, Nat.zero_le _, rfl⟩
    · obtain ⟨k, rfl⟩ : ∃ k, n = min least limit + k := ⟨n - min least limit, by omega⟩
      obtain ⟨z, hxz, hzy⟩ := Times.add_iff.1 hxy
      have hlen := (e.goesAhead_spans.times _).length_le hxz
      obtain ⟨j, hj, hjk, hshort⟩ := hzy.shorten e.goesAhead_spans
      exact ⟨z, hxz, j, by omega, hshort⟩

/-- **Spelling repetitions out** changes nothing in a text of fewer than `limit` characters. -/
theorem spans_ofExpression {limit : Nat} (e : Expression) : ∀ {x y : Spot},
    x.rest.length < limit → ((ofExpression limit e).Spans x y ↔ e.Spans x y) := by
  induction e with
  | empty => exact fun _ => Iff.rfl
  | place test => exact fun _ => Iff.rfl
  | char size test => exact fun _ => Iff.rfl
  | sequence a b iha ihb =>
    intro x y hx
    simp only [ofExpression, Spans, Expression.Spans]
    refine exists_congr fun z => ?_
    rw [← iha hx]
    refine and_congr_right fun hxz => ihb ?_
    exact Nat.lt_of_le_of_lt ((goesAhead_spans _).length_le hxz) hx
  | choice a b iha ihb =>
    intro x y hx
    simp only [ofExpression, Spans, Expression.Spans, iha hx, ihb hx]
  | repetition e low high ih =>
    intro x y hx
    have htimes : ∀ n, Times (ofExpression limit e).Spans n x y ↔ Times e.Spans n x y := fun n =>
      Times.congr (goesAhead_spans _) (fun _ _ => ih) hx
    rw [Expression.Spans]
    simp only [← htimes]
    cases high with
    | none =>
      cases low with
      | zero =>
        simp only [ofExpression, Spans, Nat.zero_le, Option.mem_def, reduceCtorEq,
          false_implies, implies_true, true_and]
        rw [← Times.reflTransGen_iff, reflTransGen_iff_eq_or_transGen]
      | succ least =>
        simp only [ofExpression, spans_copies_loop hx, Option.mem_def, reduceCtorEq,
          false_implies, implies_true, true_and]
    | some most =>
      simp only [ofExpression, spans_copies_atMost hx, Option.mem_def, Option.some.injEq,
        forall_eq']

/-- In an expression that was spelt out nothing is marked. -/
theorem not_resumes_ofExpression {limit : Nat} (e : Expression) : ∀ x y : Spot,
    ¬ (ofExpression limit e).Resumes x y := by
  have hcopies : ∀ {e next : Marked}, (∀ x y, ¬ e.Resumes x y) → (∀ x y, ¬ next.Resumes x y) →
      ∀ n x y, ¬ (copies e n next).Resumes x y := by
    intro e next he hnext n
    induction n with
    | zero => exact hnext
    | succ n ih =>
      rintro x y (⟨z, h, _⟩ | h)
      · exact he x z h
      · exact ih x y h
  have hatMost : ∀ {e : Marked}, (∀ x y, ¬ e.Resumes x y) →
      ∀ n x y, ¬ (atMost e n).Resumes x y := by
    intro e he n
    induction n with
    | zero => exact fun _ _ h => h
    | succ n ih =>
      rintro x y (h | ⟨z, h, _⟩ | h)
      · exact h
      · exact he x z h
      · exact ih x y h
  induction e with
  | empty => exact fun _ _ h => h
  | place test => exact fun _ _ h => h
  | char size test => exact fun _ _ h => Bool.false_ne_true h.1
  | sequence a b iha ihb =>
    rintro x y (⟨z, h, _⟩ | h)
    · exact iha x z h
    · exact ihb x y h
  | choice a b iha ihb =>
    rintro x y (h | h)
    · exact iha x y h
    · exact ihb x y h
  | repetition e low high ih =>
    have hloop : ∀ x y, ¬ (loop (ofExpression limit e)).Resumes x y :=
      fun x _ ⟨z, h, _⟩ => ih x z h
    cases high with
    | none =>
      cases low with
      | zero =>
        rintro x y (h | h)
        · exact h
        · exact hloop x y h
      | succ least => exact hcopies ih hloop _
    | some most =>
      simp only [ofExpression]
      exact hcopies ih (hatMost ih _) _

end Marked

/-! ## Main theorem -/

/-- **An expression occurs in a text** exactly if it matches some stretch of it. -/
theorem Expression.occursIn_iff (e : Expression) (text : List Char) :
    e.occursIn text = true ↔ ∃ x y, (Spot.start text).Later x ∧ e.Spans x y := by
  have hnext : GoesAhead Spot.Next := fun _ _ h => .inr h.length_lt
  unfold occursIn
  rw [Marked.occursFrom_iff]
  simp only [Marked.not_resumes_ofExpression, exists_false, false_or]
  refine exists_congr fun x => exists_congr fun y => and_congr_right fun hx => ?_
  exact Marked.spans_ofExpression e (Nat.lt_succ_of_le (hnext.reflTransGen.length_le hx))

end DynamicForms.Pattern
