import DynamicForms.Forest.Build
import DynamicForms.Structure.Report
import Mathlib.Data.List.Induction
import Mathlib.Data.List.Nodup

/-!
# Declarations and their places

Of several declarations of an id the last one is kept.

* `lastIndexOf?_eq_some_iff` — what the last place of an id is.
* `kept_eq_filter` — the kept declarations are those at the last place of their ids, in the order
  of declaration.
* `keptId?`, `keptId?_inj`, `get?_lookup` — the kept declarations by their places: different ones
  have different ids, and the lookup leads from an id back to its place.
* `namedParent?`, `parentOf?` — the parent that an id names, and the parent when those that are
  not declared do not count; `parent?_links` says that the links are the latter, seen from the
  places.
-/

set_option autoImplicit false

namespace DynamicForms

open Structure

/-- Under different keys all values are kept. -/
theorem Dictionary.get?_ofList_eq_some_iff {α : Type} {entries : List (String × α)}
    (hkeys : (entries.map (·.1)).Nodup) {key : String} {value : α} :
    (ofList entries).get? key = some value ↔ (key, value) ∈ entries := by
  rw [get?_ofList, Option.map_eq_some_iff]
  constructor
  · rintro ⟨entry, hfind, rfl⟩
    have hmem := List.mem_reverse.1 (List.mem_of_find?_eq_some hfind)
    have hkey : entry.1 = key := by simpa using List.find?_some hfind
    rw [← hkey]
    exact hmem
  · intro hmem
    have hsome : (entries.reverse.find? fun entry => entry.1 == key).isSome := by
      rw [List.find?_isSome]
      exact ⟨(key, value), List.mem_reverse.2 hmem, by simp⟩
    obtain ⟨entry, hfind⟩ := Option.isSome_iff_exists.1 hsome
    have hfound := List.mem_reverse.1 (List.mem_of_find?_eq_some hfind)
    have hkey : entry.1 = key := by simpa using List.find?_some hfind
    have heq : entry = (key, value) := List.inj_on_of_nodup_map hkeys hfound hmem hkey
    exact ⟨entry, hfind, by rw [heq]⟩

/-! ## Last places -/

theorem lastIndexOf?_append_singleton (ids : List String) (x id : String) :
    lastIndexOf? (ids ++ [x]) id = if x = id then some ids.length else lastIndexOf? ids id := by
  unfold lastIndexOf?
  rw [List.reverse_append, List.reverse_singleton, List.singleton_append, List.idxOf?_cons]
  by_cases h : x = id
  · simp [h]
  · have hne : (x == id) = false := by simp [h]
    rw [hne, if_neg h, if_neg Bool.false_ne_true, Option.map_map]
    congr 1
    funext i
    simp only [Function.comp_apply, List.length_append, List.length_singleton]
    omega

theorem lastIndexOf?_eq_some_iff {ids : List String} {id : String} {i : Nat} :
    lastIndexOf? ids id = some i ↔ ids[i]? = some id ∧ ∀ j, i < j → ids[j]? ≠ some id := by
  induction ids using List.reverseRecOn with
  | nil => simp [lastIndexOf?]
  | append_singleton ids x ih =>
    rw [lastIndexOf?_append_singleton]
    by_cases hx : x = id
    · rw [if_pos hx, Option.some.injEq]
      constructor
      · rintro rfl
        refine ⟨by simp [hx], fun j hj => ?_⟩
        rw [List.getElem?_eq_none (by simp only [List.length_append, List.length_singleton]; omega)]
        exact (Option.some_ne_none id).symm
      · rintro ⟨hi, hlast⟩
        have hle : ¬ i < ids.length := fun hlt => hlast ids.length hlt (by simp [hx])
        have hlt := (List.getElem?_eq_some_iff.1 hi).1
        rw [List.length_append, List.length_singleton] at hlt
        omega
    · rw [if_neg hx, ih]
      have hget : ∀ j : Nat, (ids ++ [x])[j]? = some id ↔ ids[j]? = some id := by
        intro j
        rw [List.getElem?_append]
        split
        · rfl
        · rename_i hj
          rw [List.getElem?_eq_none (l := ids) (by omega)]
          cases hk : j - ids.length <;> simp [hx]
      simp only [hget, ne_eq]

theorem exists_lastIndexOf? {ids : List String} {id : String} (h : id ∈ ids) :
    ∃ i, lastIndexOf? ids id = some i := by
  induction ids using List.reverseRecOn with
  | nil => cases h
  | append_singleton ids x ih =>
    rw [lastIndexOf?_append_singleton]
    by_cases hx : x = id
    · exact ⟨ids.length, if_pos hx⟩
    · obtain ⟨i, hi⟩ := ih (by simpa [Ne.symm hx] using h)
      exact ⟨i, by rw [if_neg hx, hi]⟩

theorem mem_of_lastIndexOf? {ids : List String} {id : String} {i : Nat}
    (h : lastIndexOf? ids id = some i) : id ∈ ids :=
  List.mem_of_getElem? (lastIndexOf?_eq_some_iff.1 h).1

theorem lastOf?_eq_bind (id : String) (fields : List Field) :
    Module.lastOf? id fields =
      (lastIndexOf? (fields.map (·.id)) id).bind fun i => fields[i]? := by
  induction fields using List.reverseRecOn with
  | nil => rfl
  | append_singleton fields f ih =>
    rw [List.map_append, List.map_singleton, lastIndexOf?_append_singleton]
    unfold Module.lastOf? at ih ⊢
    rw [List.reverse_append, List.reverse_singleton, List.singleton_append, List.find?_cons]
    by_cases h : f.id = id
    · simp [h]
    · have hne : (f.id == id) = false := by simp [h]
      rw [hne, if_neg h, ih]
      refine Option.bind_congr fun i hi => ?_
      have hlt := (List.getElem?_eq_some_iff.1 (lastIndexOf?_eq_some_iff.1 hi).1).1
      rw [List.length_map] at hlt
      rw [List.getElem?_append_left hlt]

/-! ## The kept declarations -/

theorem keptOf_append_singleton (ds : List Declaration) (d : Declaration) :
    keptOf (ds ++ [d]) = (keptOf ds).filter (fun e => e.1.id != d.1.id) ++ [d] := by
  induction ds with
  | nil => rfl
  | cons e ds ih =>
    rw [List.cons_append, keptOf, keptOf, ih, List.any_append]
    by_cases hd : d.1.id = e.1.id
    · by_cases he : (ds.any fun x => x.1.id == e.1.id) = true <;> simp [hd, he]
    · by_cases he : (ds.any fun x => x.1.id == e.1.id) = true <;> simp [hd, Ne.symm hd, he]

/-- The ids of a module as they are declared. -/
def Module.ids (m : Module) : List String := m.fields.map (·.id)

theorem keptOf_zipIdx (fields : List Field) :
    keptOf fields.zipIdx =
      fields.zipIdx.filter fun d => lastIndexOf? (fields.map (·.id)) d.1.id == some d.2 := by
  induction fields using List.reverseRecOn with
  | nil => rfl
  | append_singleton fields f ih =>
    rw [List.zipIdx_append, List.zipIdx_cons, List.zipIdx_nil, keptOf_append_singleton, ih,
      List.filter_append, List.filter_filter, List.map_append, List.map_singleton]
    congr 1
    · refine List.filter_congr fun d hd => ?_
      have hlt := (List.getElem?_eq_some_iff.1 (List.mem_zipIdx_iff_getElem?.1 hd)).1
      rw [lastIndexOf?_append_singleton, List.length_map]
      by_cases hid : d.1.id = f.id
      · have hne : fields.length ≠ d.2 := by omega
        simp [hid, hne]
      · simp [hid, Ne.symm hid]
    · simp [lastIndexOf?_append_singleton]

namespace Module

variable {m : Module}

/-- **The kept declarations** are those at the last places of their ids. -/
theorem kept_eq_filter (m : Module) :
    m.kept = m.fields.zipIdx.filter fun d => lastIndexOf? m.ids d.1.id == some d.2 :=
  keptOf_zipIdx m.fields

theorem mem_kept {d : Declaration} :
    d ∈ m.kept ↔ m.fields[d.2]? = some d.1 ∧ lastIndexOf? m.ids d.1.id = some d.2 := by
  rw [kept_eq_filter, List.mem_filter, List.mem_zipIdx_iff_getElem?, beq_iff_eq]

theorem pairwise_kept (m : Module) : m.kept.Pairwise fun d e => d.2 < e.2 := by
  rw [kept_eq_filter]
  refine List.Pairwise.filter _ ?_
  have hpos : (m.fields.zipIdx.map (·.2)).Pairwise (· < ·) := by
    rw [List.zipIdx_map_snd]
    exact List.pairwise_lt_range'
  exact List.pairwise_map.1 hpos

theorem nodup_ids_kept (m : Module) : (m.kept.map (·.1.id)).Nodup := by
  refine List.pairwise_map.2 ((pairwise_kept m).imp_of_mem ?_)
  intro d e hd he hlt heq
  have hpos := (mem_kept.1 hd).2
  rw [heq, (mem_kept.1 he).2, Option.some.injEq] at hpos
  omega

theorem mem_ids_of_mem_kept {d : Declaration} (h : d ∈ m.kept) : d.1.id ∈ m.ids :=
  mem_of_lastIndexOf? (mem_kept.1 h).2

theorem exists_mem_kept {id : String} (h : id ∈ m.ids) : ∃ d ∈ m.kept, d.1.id = id := by
  obtain ⟨i, hi⟩ := exists_lastIndexOf? h
  have hget := (lastIndexOf?_eq_some_iff.1 hi).1
  rw [ids, List.getElem?_map] at hget
  obtain ⟨f, hf, rfl⟩ := Option.map_eq_some_iff.1 hget
  exact ⟨(f, i), mem_kept.2 ⟨hf, hi⟩, rfl⟩

theorem contains_iff {id : String} : m.contains id = true ↔ id ∈ m.ids := by
  simp [contains, ids]

/-! ## Places of the kept declarations -/

/-- The id of the declaration that is kept at a place. -/
def keptId? (m : Module) (i : Nat) : Option String := m.kept[i]?.map (·.1.id)

theorem keptId?_inj {i j : Nat} {id : String} (hi : m.keptId? i = some id)
    (hj : m.keptId? j = some id) : i = j := by
  unfold keptId? at hi hj
  rw [← List.getElem?_map] at hi hj
  obtain ⟨hlt, heq⟩ := List.getElem?_eq_some_iff.1 hi
  obtain ⟨hlt', heq'⟩ := List.getElem?_eq_some_iff.1 hj
  exact (m.nodup_ids_kept.getElem_inj_iff).1 (heq.trans heq'.symm)

theorem exists_keptId? {id : String} (h : id ∈ m.ids) : ∃ i, m.keptId? i = some id := by
  obtain ⟨d, hd, hid⟩ := exists_mem_kept h
  obtain ⟨i, hi⟩ := List.getElem?_of_mem hd
  exact ⟨i, by rw [keptId?, hi, Option.map_some, hid]⟩

theorem mem_ids_of_keptId? {i : Nat} {id : String} (h : m.keptId? i = some id) : id ∈ m.ids := by
  obtain ⟨d, hd, rfl⟩ := Option.map_eq_some_iff.1 h
  exact mem_ids_of_mem_kept (List.mem_of_getElem? hd)

/-- The places of the kept declarations by their ids. -/
def lookup (m : Module) : Dictionary Nat := lookupOf m.kept

/-- **The lookup leads from an id to its place.** -/
theorem get?_lookup {id : String} {i : Nat} :
    m.lookup.get? id = some i ↔ m.keptId? i = some id := by
  have hkeys : (m.kept.zipIdx.map fun d => (d.1.1.id, d.2)).map (·.1) = m.kept.map (·.1.id) := by
    rw [List.map_map]
    have hfst := congrArg (List.map fun d : Declaration => d.1.id) (List.zipIdx_map_fst 0 m.kept)
    rw [List.map_map] at hfst
    exact hfst
  unfold lookup lookupOf
  rw [Dictionary.get?_ofList_eq_some_iff (hkeys ▸ m.nodup_ids_kept), List.mem_map]
  constructor
  · rintro ⟨d, hd, heq⟩
    obtain ⟨rfl, rfl⟩ := Prod.mk.inj heq
    rw [keptId?, List.mem_zipIdx_iff_getElem?.1 hd, Option.map_some]
  · intro h
    obtain ⟨d, hd, rfl⟩ := Option.map_eq_some_iff.1 h
    exact ⟨(d, i), List.mem_zipIdx_iff_getElem?.2 hd, rfl⟩

theorem contains_lookup {id : String} : m.lookup.contains id = m.contains id := by
  rw [Bool.eq_iff_iff, contains_iff, Dictionary.contains, Option.isSome_iff_exists]
  constructor
  · rintro ⟨i, hi⟩
    exact mem_ids_of_keptId? (get?_lookup.1 hi)
  · intro h
    obtain ⟨i, hi⟩ := exists_keptId? h
    exact ⟨i, get?_lookup.2 hi⟩

/-! ## Parents by ids and by places -/

/-- The parent that the last declaration of an id names. -/
def namedParent? (m : Module) (id : String) : Option String := (m.field? id).bind Field.parent

/-- The parent of the last declaration of an id, unless it is not declared. -/
def parentOf? (m : Module) (id : String) : Option String := (m.namedParent? id).filter m.contains

/-- The parents of the kept declarations by their places. -/
def links (m : Module) : Parents := parentsOf m.kept m.lookup

theorem mem_of_field? {id : String} {f : Field} (h : m.field? id = some f) : f ∈ m.fields := by
  unfold field? lastOf? at h
  exact List.mem_reverse.1 (List.mem_of_find?_eq_some h)

theorem id_of_field? {id : String} {f : Field} (h : m.field? id = some f) : f.id = id := by
  unfold field? lastOf? at h
  simpa using List.find?_some h

theorem field?_of_mem_kept {d : Declaration} (h : d ∈ m.kept) : m.field? d.1.id = some d.1 := by
  obtain ⟨hget, hlast⟩ := mem_kept.1 h
  unfold ids at hlast
  unfold field?
  rw [lastOf?_eq_bind, hlast]
  exact hget

theorem isSome_field?_iff {id : String} : (m.field? id).isSome = true ↔ id ∈ m.ids := by
  constructor
  · intro h
    obtain ⟨f, hf⟩ := Option.isSome_iff_exists.1 h
    exact List.mem_map.2 ⟨f, mem_of_field? hf, id_of_field? hf⟩
  · intro hid
    obtain ⟨d, hd, rfl⟩ := exists_mem_kept hid
    rw [field?_of_mem_kept hd, Option.isSome_some]

theorem namedParent?_of_mem_kept {d : Declaration} (h : d ∈ m.kept) :
    m.namedParent? d.1.id = d.1.parent := by
  unfold namedParent?
  rw [field?_of_mem_kept h, Option.bind_some]

theorem parentOf?_eq_some_iff {id q : String} :
    m.parentOf? id = some q ↔ m.namedParent? id = some q ∧ q ∈ m.ids := by
  unfold parentOf?
  rw [Option.filter_eq_some_iff, contains_iff]

theorem mem_ids_of_namedParent? {id q : String} (h : m.namedParent? id = some q) : id ∈ m.ids := by
  obtain ⟨f, hf, _⟩ := Option.bind_eq_some_iff.1 h
  exact List.mem_map.2 ⟨f, mem_of_field? hf, id_of_field? hf⟩

theorem parentOf?_self_iff {id : String} :
    m.parentOf? id = some id ↔ m.namedParent? id = some id := by
  rw [parentOf?_eq_some_iff]
  exact ⟨fun h => h.1, fun h => ⟨h, mem_ids_of_namedParent? h⟩⟩

/-- **The links are the parents of the ids**, seen from their places. -/
theorem parent?_links {i p : Nat} :
    m.links.parent? i = some p ↔
      ∃ id q, m.keptId? i = some id ∧ m.parentOf? id = some q ∧ m.keptId? p = some q := by
  have hget : m.links.parent? i = m.kept[i]?.bind fun d => d.1.parent.bind m.lookup.get? := by
    unfold links parentsOf Parents.parent?
    rw [List.getElem?_toArray, List.getElem?_map]
    cases m.kept[i]? <;> rfl
  rw [hget, Option.bind_eq_some_iff]
  constructor
  · rintro ⟨d, hd, hp⟩
    obtain ⟨q, hq, hp⟩ := Option.bind_eq_some_iff.1 hp
    have hmem := List.mem_of_getElem? hd
    have hkept := get?_lookup.1 hp
    refine ⟨d.1.id, q, by rw [keptId?, hd, Option.map_some], ?_, hkept⟩
    exact parentOf?_eq_some_iff.2
      ⟨by rw [namedParent?_of_mem_kept hmem, hq], mem_ids_of_keptId? hkept⟩
  · rintro ⟨id, q, hi, hq, hp⟩
    obtain ⟨d, hd, rfl⟩ := Option.map_eq_some_iff.1 hi
    obtain ⟨hparent, _⟩ := parentOf?_eq_some_iff.1 hq
    rw [namedParent?_of_mem_kept (List.mem_of_getElem? hd)] at hparent
    exact ⟨d, hd, Option.bind_eq_some_iff.2 ⟨q, hparent, get?_lookup.2 hp⟩⟩

end Module

end DynamicForms
