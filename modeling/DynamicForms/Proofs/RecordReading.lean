import DynamicForms.Proofs.Decoding
import DynamicForms.Schema.Writing

/-!
# Reading records

Two ways to argue about the readers of records from what they do with one attribute.  What the
reading of every attribute keeps, a finished record has, however its text spells it; and a record
that is written attribute by attribute is read attribute by attribute.

* `decodeRecord_keeps` — a property that every attribute keeps holds of the finished record.
* `Enters` — reading some entries takes one draft to another; `Enters.optional` and
  `Enters.unlessEmpty`: entries that are left out when there is nothing to write.
* `Enters.decodeRecord_attributes` — a record that is written attribute by attribute is read back.
-/

set_option autoImplicit false

namespace DynamicForms

open Json

variable {Attribute Draft α β : Type} {r : Record Attribute Draft α}
  {read : ReadAttribute Attribute Draft} {depth : Nat}

/-! ## What every attribute keeps -/

theorem finish_eq_ok {problem : Attribute → Json.Problem} {draft : Draft} {a : α}
    (h : (match r.finish draft with
      | .ok a => .ok a
      | .error missing => refuse (problem missing) : Decoded α) = .ok a) :
    r.finish draft = .ok a := by
  split at h
  · rename_i heq
    rw [heq]
    exact congrArg Except.ok (Except.ok.inj h)
  · cases h

section Keeps

variable {P : Draft → Prop} {Q : α → Prop}
  (hread : ∀ slot o draft draft', P draft → read depth slot o draft = .ok draft' → P draft')
  (hfinish : ∀ draft a, P draft → r.finish draft = .ok a → Q a)

include hread hfinish

theorem decodeAttributes_keeps {a : α} :
    ∀ {entries : Entries} {draft : Draft}, P draft →
      decodeAttributes r read depth entries draft = .ok a → Q a
  | .closed, draft, hP, h => hfinish draft a hP (finish_eq_ok h)
  | .broken b, _, _, h | .odd o, _, _, h => nomatch h
  | .next key o rest, draft, hP, h => by
    obtain ⟨key, -, h⟩ := bind_eq_ok_iff.1 h
    cases hslot : r.ofName? key with
    | none =>
      simp only [hslot] at h
      split at h
      · cases h
      · exact decodeAttributes_keeps hP h
    | some slot =>
      simp only [hslot] at h
      split at h
      · cases h
      · obtain ⟨draft', hdraft, h⟩ := bind_eq_ok_iff.1 h
        exact decodeAttributes_keeps (hread slot o draft draft' hP hdraft) h

theorem decodePositions_keeps [DecidableEq Attribute] {a : α} :
    ∀ {slots : List Attribute} {items : Items} {draft : Draft}, P draft →
      decodePositions r read depth slots items draft = .ok a → Q a
  | _, .closed, draft, hP, h => by
    rw [decodePositions] at h
    exact hfinish draft a hP (finish_eq_ok h)
  | _, .broken b, _, _, h => by
    rw [decodePositions] at h
    cases h
  | [], .next _ _, _, _, h => by
    rw [decodePositions] at h
    cases h
  | slot :: slots, .next o rest, draft, hP, h => by
    rw [decodePositions] at h
    obtain ⟨draft', hdraft, h⟩ := bind_eq_ok_iff.1 h
    exact decodePositions_keeps (hread slot o draft draft' hP hdraft) h

/-- **What the reading of every attribute keeps, the finished record has**, whether it stands as
an object or as an array. -/
theorem decodeRecord_keeps [DecidableEq Attribute] {o : Outline} {a : α} (hstart : P r.start)
    (h : decodeRecord r read (depth + 1) o = .ok a) : Q a := by
  unfold decodeRecord at h
  split at h
  · exact decodeAttributes_keeps hread hfinish hstart h
  · exact decodePositions_keeps hread hfinish hstart h
  · exact absurd h (mismatch_ne_ok _ _ _)

end Keeps

theorem exists_of_mem_decodeItems {item : Outline → Decoded β} {xs : List β} :
    ∀ {items : Items}, decodeItems item items = .ok xs → ∀ x ∈ xs, ∃ o, item o = .ok x
  | .closed, h => by
    cases h
    simp
  | .broken b, h => nomatch h
  | .next o rest, h => by
    obtain ⟨x, hx, h⟩ := bind_eq_ok_iff.1 h
    obtain ⟨xs, hxs, h⟩ := bind_eq_ok_iff.1 h
    cases h
    exact List.forall_mem_cons.2 ⟨⟨o, hx⟩, exists_of_mem_decodeItems hxs⟩

theorem exists_of_mem_decodeList {item : Nat → Outline → Decoded β} {o : Outline} {xs : List β}
    (h : decodeList item (depth + 1) o = .ok xs) : ∀ x ∈ xs, ∃ o, item depth o = .ok x := by
  unfold decodeList at h
  split at h
  · exact exists_of_mem_decodeItems h
  · exact absurd h (mismatch_ne_ok _ _ _)

/-! ## Attribute by attribute -/

/-- The place of an attribute in the draft of a record. -/
structure Place (r : Record Attribute Draft α) (slot : Attribute) (β : Type) where
  get : Draft → Option β
  set : Draft → Option β → Draft
  /-- The attribute has been met when its place is taken. -/
  has_eq : ∀ draft, r.has draft slot = (get draft).isSome := by exact fun _ => rfl
  set_get : ∀ draft, set draft (get draft) = draft := by exact fun _ => rfl

/-- Reading some entries takes one draft to another, whatever entries follow. -/
def Enters (r : Record Attribute Draft α) (read : ReadAttribute Attribute Draft) (depth : Nat)
    (entries : List (String × Value)) (draft draft' : Draft) : Prop :=
  ∀ rest, decodeAttributes r read depth (Value.outlineEntries (entries ++ rest)) draft =
    decodeAttributes r read depth (Value.outlineEntries rest) draft'

namespace Place

variable {slot : Attribute} (place : Place r slot β) {draft : Draft}

theorem set_none (hnew : r.has draft slot = false) : place.set draft none = draft := by
  rw [place.has_eq, Option.isSome_eq_false_iff, Option.isNone_iff_eq_none] at hnew
  rw [← hnew, place.set_get]

end Place

namespace Enters

variable {entries entries' : List (String × Value)} {draft draft' draft'' : Draft}
  {slot : Attribute} {key : String}

theorem nil : Enters r read depth [] draft draft := fun _ => rfl

theorem append (h : Enters r read depth entries draft draft')
    (h' : Enters r read depth entries' draft' draft'') :
    Enters r read depth (entries ++ entries') draft draft'' := by
  intro rest
  rw [List.append_assoc, h, h']

theorem entry {v : Value} (hslot : r.ofName? key = some slot) (hnew : r.has draft slot = false)
    (hread : read depth slot v.outline draft = .ok draft') :
    Enters r read depth [(key, v)] draft draft' := by
  intro rest
  rw [List.singleton_append, Value.outlineEntries, decodeAttributes]
  simp only [intact, bind, Except.bind, hslot, hnew, hread, Bool.false_eq_true, if_false]

theorem optional {toJson : β → Value} {a : Option β} (place : Place r slot (Option β))
    (hslot : r.ofName? key = some slot) (hnew : r.has draft slot = false)
    (hread : ∀ x, read depth slot (toJson x).outline draft =
      .ok (place.set draft (some (some x))))
    (hdraft : place.set draft (a.map some) = draft') :
    Enters r read depth (optionEntry key toJson a) draft draft' := by
  subst hdraft
  cases a with
  | none =>
    rw [Option.map_none, place.set_none hnew]
    exact nil
  | some x => exact entry hslot hnew (hread x)

/-- What an attribute with a list holds after its entry: nothing when the list is empty. -/
def listOf (items : List β) : Option (List β) := if items.isEmpty then none else some items

theorem getD_listOf (items : List β) : (listOf items).getD [] = items := by
  cases items <;> rfl

theorem unlessEmpty {items : List β} {v : Value} (place : Place r slot (List β))
    (hslot : r.ofName? key = some slot) (hnew : r.has draft slot = false)
    (hread : read depth slot v.outline draft = .ok (place.set draft (some items)))
    (hdraft : place.set draft (listOf items) = draft') :
    Enters r read depth (if items.isEmpty then [] else [(key, v)]) draft draft' := by
  subst hdraft
  unfold listOf
  split
  · rw [place.set_none hnew]
    exact nil
  · exact entry hslot hnew hread

theorem attributes {entriesOf : Attribute → List (String × Value)}
    {put : Draft → Attribute → Draft}
    (hstep : ∀ draft slot, r.has draft slot = false →
      Enters r read depth (entriesOf slot) draft (put draft slot))
    (hput : ∀ draft slot other, other ≠ slot → r.has (put draft slot) other = r.has draft other)
    {slots : List Attribute} (hnodup : slots.Nodup) :
    ∀ {draft}, (∀ slot ∈ slots, r.has draft slot = false) →
      Enters r read depth (slots.flatMap entriesOf) draft (slots.foldl put draft) := by
  induction slots with
  | nil => exact fun _ => nil
  | cons slot rest ih =>
    intro draft hnew
    obtain ⟨hslot, hrest⟩ := List.forall_mem_cons.1 hnew
    obtain ⟨hnot, hnodup⟩ := List.nodup_cons.1 hnodup
    refine (hstep draft slot hslot).append (ih hnodup fun other hother => ?_)
    rw [hput draft slot other (fun heq => hnot (heq ▸ hother))]
    exact hrest other hother

/-- **A record that is written attribute by attribute is read attribute by attribute.** -/
theorem decodeRecord_attributes [DecidableEq Attribute] {a : α} {put : Draft → Attribute → Draft}
    {entriesOf : Attribute → List (String × Value)}
    (hstep : ∀ draft slot, r.has draft slot = false →
      Enters r read depth (entriesOf slot) draft (put draft slot))
    (hput : ∀ draft slot other, other ≠ slot → r.has (put draft slot) other = r.has draft other)
    (hnodup : r.attributes.Nodup) (hstart : ∀ slot ∈ r.attributes, r.has r.start slot = false)
    (hfinish : r.finish (r.attributes.foldl put r.start) = .ok a) :
    decodeRecord r read (depth + 1) (Value.object (r.attributes.flatMap entriesOf)).outline =
      .ok a := by
  have hread := attributes hstep hput hnodup hstart []
  rw [List.append_nil, Value.outlineEntries, decodeAttributes, hfinish] at hread
  rw [Value.outline]
  exact hread

end Enters

end DynamicForms
