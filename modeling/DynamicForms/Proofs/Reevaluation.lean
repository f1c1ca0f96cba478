import DynamicForms.Proofs.Dependents
import Mathlib

/-!
# Looking again at the dependents only

When some values of a form change, the states of a field can change only if the field depends on
one of them.

* `Dependencies.stale` — whether a field depends on one of the ids that changed.
* `States.refresh` — the states with only the stale ones decided again; `refresh_evaluate`: that
  is as good as deciding all of them.
* `refreshAll_evaluate` — the same for any number of changes in a row, by induction on them.
* `DifferOn.inherit`, `DifferOn.cascade` — if two states differ only on a set of fields that holds
  all children of its members, so do the states after each step of the cascade, and at its end.
* `refresh_enough` — what changes depends on what changed, and after the cascade it lies below.
-/

set_option autoImplicit false

namespace DynamicForms

open Relation

/-! ## Stale fields -/

/-- A field depends on one of the ids that changed. -/
def Dependencies.OnChanged (d : Dependencies) (changed : String → Bool) (id : String) : Prop :=
  ∃ k, changed k = true ∧ id ∈ d.dependents k

/-- Whether a field depends on one of the ids that changed. -/
def Dependencies.stale (d : Dependencies) (changed : String → Bool) (id : String) : Bool :=
  d.index.entries.any fun entry => changed entry.1 && entry.2.contains id

theorem Dependencies.stale_iff {d : Dependencies} {changed : String → Bool} {id : String} :
    d.stale changed id = true ↔ d.OnChanged changed id := by
  unfold stale OnChanged
  simp only [List.any_eq_true, Bool.and_eq_true, List.contains_iff_mem]
  constructor
  · rintro ⟨⟨k, ids⟩, hentry, hk, hid⟩
    refine ⟨k, hk, ?_⟩
    rw [dependents, Dictionary.get?_eq_some_iff.2 hentry]
    exact hid
  · rintro ⟨k, hk, hid⟩
    unfold dependents at hid
    cases hget : d.index.get? k with
    | none =>
      rw [hget] at hid
      cases hid
    | some ids =>
      rw [hget] at hid
      exact ⟨(k, ids), Dictionary.get?_eq_some_iff.1 hget, hk, hid⟩

/-- The values of a form are those of another one, except under the ids that changed. -/
def Form.SameBut (form next : Form) (changed : String → Bool) : Prop :=
  ∀ k, changed k = false → form.value k = next.value k

namespace States

variable {m : Module} {form next : Form} {changed : String → Bool} {axis : Axis} {id : String}

/-- **A field that does not depend on what changed keeps its states.** -/
theorem get?_on_evaluate_of_sameBut (hsame : form.SameBut next changed)
    (hid : ¬ (Dependencies.ofForest (Forest.build m)).OnChanged changed id) :
    ((evaluate (Forest.build m) form).on axis).get? id =
      ((evaluate (Forest.build m) next).on axis).get? id := by
  rw [get?_on_evaluate, get?_on_evaluate]
  refine Option.map_congr fun f hf => Field.decide_congr axis fun c hc => hsame c.trigger ?_
  by_contra hchanged
  rw [Bool.not_eq_false] at hchanged
  exact hid ⟨c.trigger, hchanged, Dependencies.mem_dependents_build.2 ⟨f, hf, c, hc, rfl⟩⟩

/-! ## Deciding again -/

/-- The state on an axis that a field has now; one that is not known keeps the state it had. -/
def decideAgain (forest : Forest) (form : Form) (axis : Axis) (id : String) (state : Bool) : Bool :=
  match forest.find? id with
  | none => state
  | some node => node.field.decide form axis

/-- The states after some values changed: only stale ones are decided again. -/
def refresh (forest : Forest) (changed : String → Bool) (form : Form) (states : States) : States :=
  let stale := (Dependencies.ofForest forest).stale changed
  let refreshOn (axis : Axis) : Dictionary Bool := (states.on axis).mapValues fun id state =>
    if stale id then decideAgain forest form axis id state else state
  { visible := refreshOn .visibility
    enabled := refreshOn .enablement }

theorem on_refresh (forest : Forest) (states : States) :
    (states.refresh forest changed form).on axis = (states.on axis).mapValues fun id state =>
      if (Dependencies.ofForest forest).stale changed id then decideAgain forest form axis id state
      else state := by
  cases axis <;> rfl

theorem decideAgain_build {f : Field} (hf : m.field? id = some f) (state : Bool) :
    decideAgain (Forest.build m) form axis id state = f.decide form axis := by
  have hfind := field_find?_build m id
  rw [hf] at hfind
  obtain ⟨node, hnode, rfl⟩ := Option.map_eq_some_iff.1 hfind
  unfold decideAgain
  rw [hnode]

/-- **Deciding the stale states again is enough.** -/
theorem refresh_evaluate (hsame : form.SameBut next changed) :
    (evaluate (Forest.build m) form).refresh (Forest.build m) changed next =
      evaluate (Forest.build m) next := by
  refine ext_on fun axis => Dictionary.ext_get? fun id => ?_
  rw [on_refresh, Dictionary.get?_mapValues]
  by_cases hid : (Dependencies.ofForest (Forest.build m)).OnChanged changed id
  · rw [get?_on_evaluate, get?_on_evaluate, Option.map_map]
    refine Option.map_congr fun f hf => ?_
    rw [Function.comp_apply, if_pos (Dependencies.stale_iff.2 hid), decideAgain_build hf]
  · rw [get?_on_evaluate_of_sameBut hsame hid]
    simp only [mt Dependencies.stale_iff.1 hid, Bool.false_eq_true, if_false, Option.map_id_fun',
      id_eq]

end States

/-! ## Changes in a row -/

/-- A form after a change, with a test for the ids whose values may have changed. -/
structure FormChange where
  changed : String → Bool
  form : Form

/-- Each change names the ids whose values are not those of the form before. -/
def Form.Follows : Form → List FormChange → Prop
  | _, [] => True
  | form, c :: changes => form.SameBut c.form c.changed ∧ c.form.Follows changes

/-- The form at the end of some changes. -/
def Form.after (form : Form) (changes : List FormChange) : Form :=
  changes.foldl (fun _ c => c.form) form

/-- The states after some changes, refreshed after each of them. -/
def States.refreshAll (forest : Forest) (changes : List FormChange) (states : States) : States :=
  changes.foldl (fun states c => states.refresh forest c.changed c.form) states

/-- **After any number of changes the refreshed states are those of the last form.** -/
theorem States.refreshAll_evaluate {m : Module} (changes : List FormChange) :
    ∀ form : Form, form.Follows changes →
      (evaluate (Forest.build m) form).refreshAll (Forest.build m) changes =
        evaluate (Forest.build m) (form.after changes) := by
  induction changes with
  | nil => exact fun _ _ => rfl
  | cons c changes ih =>
    rintro form ⟨hsame, hrest⟩
    have hlast := ih c.form hrest
    unfold refreshAll Form.after at hlast ⊢
    rw [List.foldl_cons, List.foldl_cons, refresh_evaluate hsame]
    exact hlast

/-! ## Below hidden and disabled fields -/

namespace States

/-- Two states differ only on some fields. -/
def DifferOn (fields : String → Prop) (s t : States) : Prop :=
  ∀ axis id, (s.on axis).get? id ≠ (t.on axis).get? id → fields id

/-- The state a parent has; a field that is not known stands in no one's way. -/
def allows (states : Dictionary Bool) (parent : String) : Bool := (states.get? parent).getD true

/-- The states on one axis when a node takes over that of its parent. -/
def inheritOn (forest : Forest) (states : Dictionary Bool) (node : Node) : Dictionary Bool :=
  match node.parent.bind forest.idAt? with
  | none => states
  | some parent => restrict states node.field.id (allows states parent)

theorem on_inherit (forest : Forest) (states : States) (node : Node) (axis : Axis) :
    (inherit forest states node).on axis = inheritOn forest (states.on axis) node := by
  unfold inherit inheritOn
  cases node.parent.bind forest.idAt? <;> cases axis <;> rfl

theorem get?_inheritOn (forest : Forest) (states : Dictionary Bool) (node : Node) (key : String) :
    (inheritOn forest states node).get? key =
      match node.parent.bind forest.idAt? with
      | none => states.get? key
      | some parent => (states.get? key).map fun state =>
          if key = node.field.id then state && allows states parent else state := by
  unfold inheritOn
  cases node.parent.bind forest.idAt? with
  | none => rfl
  | some parent => exact Dictionary.get?_mapValues ..

variable {forest : Forest} {fields : String → Prop} {s t : States}

/-- **A step of the cascade spreads no difference** but to a child. -/
theorem DifferOn.inherit (h : DifferOn fields s t) {node : Node}
    (hchild : ∀ parent, node.parent.bind forest.idAt? = some parent → fields parent →
      fields node.field.id) :
    DifferOn fields (s.inherit forest node) (t.inherit forest node) := by
  intro axis key hne
  rw [on_inherit, on_inherit, get?_inheritOn, get?_inheritOn] at hne
  cases hparent : node.parent.bind forest.idAt? with
  | none =>
    rw [hparent] at hne
    exact h axis key hne
  | some parent =>
    simp only [hparent] at hne
    by_cases hkey : (s.on axis).get? key = (t.on axis).get? key
    · -- The old states agree, so the parent's differ and the field is the child.
      by_cases hallows : allows (s.on axis) parent = allows (t.on axis) parent
      · rw [hkey, hallows] at hne
        exact absurd rfl hne
      · have hnode : key = node.field.id := by
          by_contra hother
          simp only [hkey, if_neg hother] at hne
          exact absurd rfl hne
        rw [hnode]
        refine hchild parent hparent (h axis parent fun heq => hallows ?_)
        unfold allows
        rw [heq]
    · exact h axis key hkey

/-- **The cascade spreads no difference** but downwards. -/
theorem DifferOn.cascade (h : DifferOn fields s t)
    (hchild : ∀ node ∈ forest.nodesInOrder, ∀ parent,
      node.parent.bind forest.idAt? = some parent → fields parent → fields node.field.id) :
    DifferOn fields (s.cascade forest) (t.cascade forest) := by
  unfold States.cascade
  generalize forest.nodesInOrder = nodes at hchild
  induction nodes generalizing s t with
  | nil => exact h
  | cons node nodes ih =>
    refine ih (h.inherit (hchild node (List.mem_cons_self ..))) fun node hnode => ?_
    exact hchild node (List.mem_cons_of_mem _ hnode)

end States

/-- Some field with a property has the id or is an ancestor of the node of the id. -/
def Forest.AtOrBelow (forest : Forest) (fields : String → Prop) (id : String) : Prop :=
  ∃ i j top, forest.idAt? i = some id ∧ j ∈ i :: forest.ancestors i ∧ forest.idAt? j = some top ∧
    fields top

section Below

variable {m : Module} {fields : String → Prop} {id : String}

theorem mem_ancestors_build {i j : Nat} :
    j ∈ (Forest.build m).ancestors i ↔ Above (Forest.build m).parent? i j :=
  (Forest.ancestors_spec (linked_build m) i).mem_iff

theorem atOrBelow_self (hid : id ∈ m.ids) (hfield : fields id) :
    (Forest.build m).AtOrBelow fields id := by
  obtain ⟨i, hi⟩ := Module.exists_keptId? hid
  rw [← idAt?_build] at hi
  exact ⟨i, i, id, hi, List.mem_cons_self .., hi, hfield⟩

theorem atOrBelow_child {node : Node} (hnode : node ∈ (Forest.build m).nodesInOrder)
    {parent : String} (hparent : node.parent.bind (Forest.build m).idAt? = some parent)
    (h : (Forest.build m).AtOrBelow fields parent) :
    (Forest.build m).AtOrBelow fields node.field.id := by
  obtain ⟨p, hp, hpid⟩ := Option.bind_eq_some_iff.1 hparent
  obtain ⟨i, _, hget⟩ := List.mem_filterMap.1 hnode
  have hi := Forest.idAt?_of_node hget
  have hup : (Forest.build m).parent? i = some p := (Forest.parent?_of_node hget).trans hp
  obtain ⟨q, j, top, hq, hj, htop, hfields⟩ := h
  rw [idAt?_build] at hpid hq
  rw [Module.keptId?_inj hq hpid] at hj
  refine ⟨i, j, top, hi, List.mem_cons_of_mem _ (mem_ancestors_build.2 ?_), htop, hfields⟩
  rcases List.mem_cons.1 hj with rfl | hj
  · exact .single hup
  · exact .head hup (mem_ancestors_build.1 hj)

end Below

/-! ## Main theorem -/

/-- **It is enough to look again at the dependents of what changed.**  Let two forms agree but for
the ids that changed.  A field whose states differ depends on such an id; deciding only the states
of these fields again gives the states of the new form, also after any number of changes; and once
hidden and disabled fields have spread downwards, what differs is one of these fields or below
one. -/
theorem refresh_enough (m : Module) (form : Form) :
    (∀ next changed, form.SameBut next changed →
      (∀ axis id, ((States.evaluate (Forest.build m) form).on axis).get? id ≠
          ((States.evaluate (Forest.build m) next).on axis).get? id →
        (Dependencies.ofForest (Forest.build m)).OnChanged changed id) ∧
      (States.evaluate (Forest.build m) form).refresh (Forest.build m) changed next =
        States.evaluate (Forest.build m) next ∧
      ∀ axis id,
        (((States.evaluate (Forest.build m) form).cascade (Forest.build m)).on axis).get? id ≠
          (((States.evaluate (Forest.build m) next).cascade (Forest.build m)).on axis).get? id →
        (Forest.build m).AtOrBelow
          ((Dependencies.ofForest (Forest.build m)).OnChanged changed) id) ∧
    ∀ changes, form.Follows changes →
      (States.evaluate (Forest.build m) form).refreshAll (Forest.build m) changes =
        States.evaluate (Forest.build m) (form.after changes) := by
  refine ⟨fun next changed hsame => ?_, fun changes => States.refreshAll_evaluate changes form⟩
  have hdepends : ∀ axis id, ((States.evaluate (Forest.build m) form).on axis).get? id ≠
      ((States.evaluate (Forest.build m) next).on axis).get? id →
      (Dependencies.ofForest (Forest.build m)).OnChanged changed id := by
    intro axis id hne
    by_contra hid
    exact hne (States.get?_on_evaluate_of_sameBut hsame hid)
  refine ⟨hdepends, States.refresh_evaluate hsame, ?_⟩
  have hdiffer : States.DifferOn
      ((Forest.build m).AtOrBelow ((Dependencies.ofForest (Forest.build m)).OnChanged changed))
      (States.evaluate (Forest.build m) form) (States.evaluate (Forest.build m) next) := by
    intro axis id hne
    obtain ⟨k, hk, hid⟩ := hdepends axis id hne
    obtain ⟨f, hf, _⟩ := Dependencies.mem_dependents_build.1 hid
    exact atOrBelow_self (List.mem_map.2 ⟨f, Module.mem_of_field? hf, Module.id_of_field? hf⟩)
      ⟨k, hk, hid⟩
  exact hdiffer.cascade fun node hnode parent hparent => atOrBelow_child hnode hparent

/-- A group that is shown when something is entered in `a`, with a text in it. -/
def Module.revealing : Module :=
  { Module.ofId "revealing" with
    fields := [.ofId "a" .text,
      { Field.ofId "group" .group with conditions := [⟨"a", .isNotEmpty, none, .reveal⟩] },
      { Field.ofId "b" .text with parent := some "group" }] }

/-- The text in the group is no dependent of `a`, but comes to be shown with the group. -/
theorem refresh_enough_revealing :
    ((States.evaluate (Forest.build .revealing) .empty).refresh (Forest.build .revealing)
        (· == "a") (.insert .empty "a" (.string "x")) =
      States.evaluate (Forest.build .revealing) (.insert .empty "a" (.string "x"))) ∧
    (Dependencies.ofForest (Forest.build .revealing)).OnChanged (· == "a") "group" ∧
    (Forest.build .revealing).AtOrBelow
      ((Dependencies.ofForest (Forest.build .revealing)).OnChanged (· == "a")) "b" ∧
    (States.evaluate (Forest.build .revealing) .empty).refreshAll (Forest.build .revealing)
        [⟨(· == "a"), .insert .empty "a" (.string "x")⟩] =
      States.evaluate (Forest.build .revealing) (.insert .empty "a" (.string "x")) := by
  have hsame : Form.SameBut .empty (.insert .empty "a" (.string "x")) (· == "a") := by
    intro k hk
    unfold Form.value
    rw [Dictionary.get?_insert, if_neg (by simpa using hk)]
  obtain ⟨hstep, hrun⟩ := refresh_enough .revealing .empty
  obtain ⟨hdepends, hrefresh, hbelow⟩ := hstep _ _ hsame
  refine ⟨hrefresh, hdepends .visibility "group" ?_, hbelow .visibility "b" ?_,
    hrun _ ⟨hsame, trivial⟩⟩
  · cbv
    rintro ⟨⟩
  · cbv
    rintro ⟨⟩

end DynamicForms
