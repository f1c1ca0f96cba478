import DynamicForms.Logic.States
import Mathlib.Data.List.Perm.Basic
import Mathlib.Logic.Relation

/-!
# How conditions decide

Whether a field is visible, and whether it is enabled, is decided by the first of its conditions on
the axis that holds.  This is said here by what is declared before what.

* `Axis.on`, `Axis.off` — the two actions on an axis.
* `Field.decide_eq` — only the conditions that hold and whether one would turn the state on are
  looked at.
* `TurnedOn`, `LeftOn`, `Field.decide_iff` — a state is true if a condition turns it on before
  another one turns it off, or if nothing holds and nothing waits to turn it on.
* `EditBeside` — one condition on the other axis put in or taken out, or two of them exchanged;
  `EditBeside.keeps`, `keeps_of_edits`: a step, and any number of them, leave those on the axis.
* `Field.decide_of_keeps`, `Field.decide_of_shuffled` — what a decision does not depend on.
* `FirstDecides`, `firstDecides` — all this of visible and of enabled fields.
-/

set_option autoImplicit false

namespace DynamicForms

open Relation

/-! ## The actions on an axis -/

/-- The action that turns a state on. -/
def Axis.on : Axis → Action
  | .visibility => .reveal
  | .enablement => .enable

/-- The action that turns a state off. -/
def Axis.off : Axis → Action
  | .visibility => .hide
  | .enablement => .disable

namespace Action

variable {axis : Axis} {a : Action}

theorem axis_eq_iff : a.axis = axis ↔ a = axis.on ∨ a = axis.off := by
  cases a <;> cases axis <;> decide

theorem eq_on_iff : a = axis.on ↔ a.axis = axis ∧ a.outcome = true := by
  cases a <;> cases axis <;> decide

theorem eq_off_iff : a = axis.off ↔ a.axis = axis ∧ a.outcome = false := by
  cases a <;> cases axis <;> decide

end Action

/-! ## What a decision looks at -/

variable {f : Field} {form : Form} {axis : Axis} {conditions conditions' : List Condition}

/-- Whether a condition is on an axis and holds. -/
def Condition.decides (axis : Axis) (form : Form) (c : Condition) : Bool :=
  c.holds form && c.action.axis == axis

theorem Condition.decides_iff {c : Condition} :
    c.decides axis form = true ↔ c.action.axis = axis ∧ c.holds form = true := by
  rw [decides, Bool.and_eq_true, beq_iff_eq, and_comm]

/-- **A decision** is that of the first condition on the axis that holds; without one it is true
unless some condition would turn the state on. -/
theorem Field.decide_eq (f : Field) (form : Form) (axis : Axis) :
    f.decide form axis = (f.conditions.find? (Condition.decides axis form)).elim
      (!f.conditions.any fun c => c.action == axis.on) fun c => c.action.outcome := by
  have hfind : (f.conditions.filter fun c => c.action.axis == axis).find? (·.holds form) =
      f.conditions.find? (Condition.decides axis form) := by
    rw [List.find?_filter]
    congr 1
    funext c
    rw [Bool.eq_iff_iff, decide_eq_true_iff, Condition.decides_iff, beq_iff_eq]
  have hany : ((f.conditions.filter fun c => c.action.axis == axis).any fun c =>
      c.action.outcome) = f.conditions.any fun c => c.action == axis.on := by
    rw [List.any_filter]
    congr 1
    funext c
    rw [Bool.eq_iff_iff, Bool.and_eq_true, beq_iff_eq, beq_iff_eq, Action.eq_on_iff]
  simp only [decide, hfind, hany]
  cases f.conditions.find? (Condition.decides axis form) <;> rfl

/-! ## The first condition that holds -/

/-- Some condition turns the state on, and none of those before it turns it off. -/
def TurnedOn (axis : Axis) (form : Form) (conditions : List Condition) : Prop :=
  ∃ before c after, conditions = before ++ c :: after ∧ c.action = axis.on ∧
    c.holds form = true ∧ ∀ d ∈ before, d.action = axis.off → d.holds form = false

/-- No condition turns the state on or off, and there is none that ever turns it on. -/
def LeftOn (axis : Axis) (form : Form) (conditions : List Condition) : Prop :=
  (∀ c ∈ conditions, c.action = axis.on ∨ c.action = axis.off → c.holds form = false) ∧
    ∀ c ∈ conditions, c.action ≠ axis.on

/-- If a condition decides at all, the first one turns the state on just when it is turned on. -/
theorem turnedOn_iff_of_find? {c : Condition}
    (h : conditions.find? (Condition.decides axis form) = some c) :
    TurnedOn axis form conditions ↔ c.action.outcome = true := by
  have hc := Condition.decides_iff.1 (List.find?_some h)
  constructor
  · rintro ⟨before, d, after, rfl, hon, hholds, hbefore⟩
    obtain ⟨haxis, houtcome⟩ := Action.eq_on_iff.1 hon
    rw [List.find?_append] at h
    cases hfirst : before.find? (Condition.decides axis form) with
    | none =>
      rw [hfirst, Option.none_or,
        List.find?_cons_of_pos (Condition.decides_iff.2 ⟨haxis, hholds⟩), Option.some.injEq] at h
      rw [← h, houtcome]
    | some e =>
      rw [hfirst, Option.some_or, Option.some.injEq] at h
      subst h
      by_contra hoff
      rw [Bool.not_eq_true] at hoff
      have hfalse := hbefore e (List.mem_of_find?_eq_some hfirst)
        (Action.eq_off_iff.2 ⟨hc.1, hoff⟩)
      rw [hc.2] at hfalse
      cases hfalse
  · intro houtcome
    obtain ⟨_, before, after, rfl, hbefore⟩ := List.find?_eq_some_iff_append.1 h
    refine ⟨before, c, after, rfl, Action.eq_on_iff.2 ⟨hc.1, houtcome⟩, hc.2, fun d hd hoff => ?_⟩
    by_contra hholds
    have hdecides : d.decides axis form = true :=
      Condition.decides_iff.2 ⟨(Action.eq_off_iff.1 hoff).1, Bool.not_eq_false _ ▸ hholds⟩
    have hnot := hbefore d hd
    rw [hdecides] at hnot
    cases hnot

/-- **A state is true** if it is turned on before it is turned off, or if it is left on. -/
theorem Field.decide_iff : f.decide form axis = true ↔
    TurnedOn axis form f.conditions ∨ LeftOn axis form f.conditions := by
  rw [Field.decide_eq]
  cases hfind : f.conditions.find? (Condition.decides axis form) with
  | some c =>
    have hc := Condition.decides_iff.1 (List.find?_some hfind)
    have hleft : ¬ LeftOn axis form f.conditions := by
      rintro ⟨hnone, _⟩
      have hfalse := hnone c (List.mem_of_find?_eq_some hfind) (Action.axis_eq_iff.1 hc.1)
      rw [hc.2] at hfalse
      cases hfalse
    rw [or_iff_left hleft, turnedOn_iff_of_find? hfind, Option.elim_some]
  | none =>
    have hnone : ∀ c ∈ f.conditions, c.action = axis.on ∨ c.action = axis.off →
        c.holds form = false := by
      intro c hc haction
      by_contra hholds
      exact List.find?_eq_none.1 hfind c hc
        (Condition.decides_iff.2 ⟨Action.axis_eq_iff.2 haction, Bool.not_eq_false _ ▸ hholds⟩)
    have hturned : ¬ TurnedOn axis form f.conditions := by
      rintro ⟨before, c, after, hconditions, hon, hholds, _⟩
      have hfalse := hnone c (hconditions ▸ by simp) (.inl hon)
      rw [hholds] at hfalse
      cases hfalse
    rw [or_iff_right hturned, Option.elim_none]
    constructor
    · intro h
      exact ⟨hnone, by simpa using h⟩
    · rintro ⟨_, hon⟩
      simpa using hon

/-! ## What a decision does not depend on -/

/-- The conditions on an axis are the same, in the same order. -/
def Keeps (axis : Axis) (conditions conditions' : List Condition) : Prop :=
  (conditions'.filter fun c => c.action = axis.on ∨ c.action = axis.off) =
    conditions.filter fun c => c.action = axis.on ∨ c.action = axis.off

/-- An edit of conditions that are not on an axis. -/
inductive EditBeside (axis : Axis) : List Condition → List Condition → Prop
  | insert (before after : List Condition) {c : Condition}
    (h : c.action ≠ axis.on ∧ c.action ≠ axis.off) :
    EditBeside axis (before ++ after) (before ++ c :: after)
  | remove (before after : List Condition) {c : Condition}
    (h : c.action ≠ axis.on ∧ c.action ≠ axis.off) :
    EditBeside axis (before ++ c :: after) (before ++ after)
  | exchange (before between after : List Condition) {c d : Condition}
    (hc : c.action ≠ axis.on ∧ c.action ≠ axis.off)
    (hd : d.action ≠ axis.on ∧ d.action ≠ axis.off) :
    EditBeside axis (before ++ c :: (between ++ d :: after))
      (before ++ d :: (between ++ c :: after))

/-- **One edit** leaves the conditions on the axis. -/
theorem EditBeside.keeps (h : EditBeside axis conditions conditions') :
    Keeps axis conditions conditions' := by
  unfold Keeps
  cases h with
  | insert before after h => simp [h]
  | remove before after h => simp [h]
  | exchange before between after hc hd => simp [hc, hd]

theorem keeps_of_edits (h : ReflTransGen (EditBeside axis) conditions conditions') :
    Keeps axis conditions conditions' := by
  induction h with
  | refl => rfl
  | tail _ hedit ih => exact hedit.keeps.trans ih

theorem Field.decide_of_keeps (h : Keeps axis conditions conditions') :
    { f with conditions := conditions' }.decide form axis =
      { f with conditions := conditions }.decide form axis := by
  have hfilter : (conditions'.filter fun c => c.action.axis == axis) =
      conditions.filter fun c => c.action.axis == axis := by
    have haxis : (fun c : Condition => c.action.axis == axis) =
        fun c => Decidable.decide (c.action = axis.on ∨ c.action = axis.off) := by
      funext c
      rw [Bool.eq_iff_iff, beq_iff_eq, decide_eq_true_iff, Action.axis_eq_iff]
    rw [haxis]
    exact h
  unfold decide
  simp only [hfilter]

theorem Field.decide_of_shuffled (hperm : conditions'.Perm conditions)
    (hholding : conditions'.filter (·.holds form) = conditions.filter (·.holds form)) :
    { f with conditions := conditions' }.decide form axis =
      { f with conditions := conditions }.decide form axis := by
  have hfind : ∀ l : List Condition, l.find? (Condition.decides axis form) =
      (l.filter (·.holds form)).find? fun c => c.action.axis == axis := by
    intro l
    rw [List.find?_filter]
    congr 1
    funext c
    rw [Bool.eq_iff_iff, decide_eq_true_iff, Condition.decides, Bool.and_eq_true]
  rw [Field.decide_eq, Field.decide_eq, hfind, hfind, hholding, hperm.any_eq]

/-! ## Main theorem -/

/-- How a state of a field follows from its conditions. -/
structure FirstDecides (axis : Axis) (form : Form) (state : List Condition → Bool) : Prop where
  state_iff : ∀ conditions, state conditions = true ↔
    TurnedOn axis form conditions ∨ LeftOn axis form conditions
  /-- Conditions on the other axis may be put in, taken out and moved as one likes. -/
  edited : ∀ conditions conditions', ReflTransGen (EditBeside axis) conditions conditions' →
    state conditions' = state conditions
  kept : ∀ conditions conditions', Keeps axis conditions conditions' →
    state conditions' = state conditions
  /-- Conditions that do not hold may be moved if those that hold stay in their order. -/
  shuffled : ∀ conditions conditions', conditions'.Perm conditions →
    conditions'.filter (·.holds form) = conditions.filter (·.holds form) →
    state conditions' = state conditions

/-- **The first condition that holds decides**, on each axis apart from the other one. -/
theorem firstDecides (f : Field) (form : Form) :
    FirstDecides .visibility form (fun conditions =>
      { f with conditions := conditions }.isVisible form) ∧
    FirstDecides .enablement form (fun conditions =>
      { f with conditions := conditions }.isEnabled form) := by
  have hdecides : ∀ axis, FirstDecides axis form fun conditions =>
      { f with conditions := conditions }.decide form axis := fun axis =>
    { state_iff := fun _ => Field.decide_iff
      edited := fun _ _ h => Field.decide_of_keeps (keeps_of_edits h)
      kept := fun _ _ => Field.decide_of_keeps
      shuffled := fun _ _ => Field.decide_of_shuffled }
  exact ⟨hdecides .visibility, hdecides .enablement⟩

end DynamicForms
