/-!
# Dictionaries

Finite maps from texts to values, kept as a list of entries with ascending keys, so that equal
maps are equal lists.  `insertEntry`, `eraseEntry` and `lookupEntry` work on plain lists of
entries; `Dictionary` packs such a list with the proof that its keys ascend.  Main statements:
`Ascending.insertEntry`, `lookupEntry_insertEntry`, `lookupEntry_eraseEntry` and
`Dictionary.get?_ofList`.
-/

set_option autoImplicit false

namespace DynamicForms

variable {α β : Type}

/-- The keys of a list of entries ascend. -/
def Ascending (entries : List (String × α)) : Prop :=
  entries.Pairwise fun a b => a.1 < b.1

/-- Puts a value under a key, in place of the one that is there. -/
def insertEntry (key : String) (value : α) : List (String × α) → List (String × α)
  | [] => [(key, value)]
  | (k, v) :: rest =>
    if key < k then (key, value) :: (k, v) :: rest
    else if key = k then (key, value) :: rest
    else (k, v) :: insertEntry key value rest

/-- Takes a key and its value out. -/
def eraseEntry (key : String) (entries : List (String × α)) : List (String × α) :=
  entries.filter fun entry => entry.1 != key

/-- The value under a key. -/
def lookupEntry (key : String) (entries : List (String × α)) : Option α :=
  (entries.find? fun entry => entry.1 == key).map (·.2)

/-- Entries entered one after the other, a later one replacing an earlier one of the same key. -/
def collectEntries (entries : List (String × α)) : List (String × α) :=
  entries.foldl (fun all entry => insertEntry entry.1 entry.2 all) []

theorem key_lt_of_not_lt_of_ne {a b : String} (h : ¬ a < b) (hne : a ≠ b) : b < a := by
  by_cases hb : b < a
  · exact hb
  · exact absurd (String.le_antisymm (String.not_lt.1 hb) (String.not_lt.1 h)) hne

theorem mem_insertEntry {key : String} {value : α} {entries : List (String × α)}
    {entry : String × α} (h : entry ∈ insertEntry key value entries) :
    entry = (key, value) ∨ entry ∈ entries := by
  induction entries with
  | nil => simpa [insertEntry] using h
  | cons head rest ih =>
    obtain ⟨k, v⟩ := head
    simp only [insertEntry] at h
    split at h
    · simpa using h
    · split at h
      · rcases List.mem_cons.1 h with h | h
        · exact .inl h
        · exact .inr (List.mem_cons_of_mem _ h)
      · rcases List.mem_cons.1 h with h | h
        · exact .inr (by simp [h])
        · rcases ih h with h | h
          · exact .inl h
          · exact .inr (List.mem_cons_of_mem _ h)

theorem Ascending.nil : Ascending ([] : List (String × α)) := List.Pairwise.nil

theorem Ascending.insertEntry {entries : List (String × α)} (h : Ascending entries)
    (key : String) (value : α) : Ascending (insertEntry key value entries) := by
  induction entries with
  | nil => simp [Ascending, DynamicForms.insertEntry]
  | cons head rest ih =>
    obtain ⟨k, v⟩ := head
    obtain ⟨hhead, hrest⟩ := List.pairwise_cons.1 h
    simp only [DynamicForms.insertEntry]
    split
    · rename_i hlt
      refine List.pairwise_cons.2 ⟨fun entry hmem => ?_, h⟩
      rcases List.mem_cons.1 hmem with rfl | hmem
      · exact hlt
      · exact String.lt_trans hlt (hhead entry hmem)
    · split
      · rename_i heq
        exact List.pairwise_cons.2 ⟨fun entry hmem => heq ▸ hhead entry hmem, hrest⟩
      · rename_i hlt hne
        refine List.pairwise_cons.2 ⟨fun entry hmem => ?_, ih hrest⟩
        rcases mem_insertEntry hmem with rfl | hmem
        · exact key_lt_of_not_lt_of_ne hlt hne
        · exact hhead entry hmem

theorem Ascending.eraseEntry {entries : List (String × α)} (h : Ascending entries)
    (key : String) : Ascending (eraseEntry key entries) :=
  List.Pairwise.sublist List.filter_sublist h

theorem Ascending.collectEntries (entries : List (String × α)) :
    Ascending (collectEntries entries) := by
  suffices ∀ all, Ascending all →
      Ascending (entries.foldl (fun all entry => DynamicForms.insertEntry entry.1 entry.2 all) all)
    from this [] .nil
  induction entries with
  | nil => exact fun _ h => h
  | cons entry rest ih => exact fun all h => ih _ (h.insertEntry _ _)

/-- A key above all others goes to the end. -/
theorem insertEntry_of_forall_lt {key : String} (value : α) {entries : List (String × α)}
    (h : ∀ entry ∈ entries, entry.1 < key) :
    insertEntry key value entries = entries ++ [(key, value)] := by
  induction entries with
  | nil => rfl
  | cons head rest ih =>
    obtain ⟨hhead, hrest⟩ := List.forall_mem_cons.1 h
    have hlt : ¬ key < head.1 := String.lt_asymm hhead
    have hne : key ≠ head.1 := by
      rintro rfl
      exact String.lt_irrefl _ hhead
    simp only [insertEntry, if_neg hlt, if_neg hne, ih hrest, List.cons_append]

/-- Entries that ascend already stay as they are. -/
theorem Ascending.collectEntries_eq {entries : List (String × α)} (h : Ascending entries) :
    DynamicForms.collectEntries entries = entries := by
  suffices ∀ all, Ascending (all ++ entries) →
      entries.foldl (fun all entry => DynamicForms.insertEntry entry.1 entry.2 all) all =
        all ++ entries from this [] h
  induction entries with
  | nil => exact fun all _ => (List.append_nil all).symm
  | cons entry rest ih =>
    intro all hall
    have hlast : ∀ e ∈ all, e.1 < entry.1 :=
      fun e he => (List.pairwise_append.1 hall).2.2 e he entry List.mem_cons_self
    rw [List.append_cons] at hall
    rw [List.foldl_cons, insertEntry_of_forall_lt entry.2 hlast,
      ih (List.pairwise_cons.1 h).2 _ hall, ← List.append_cons]

theorem Ascending.map {entries : List (String × α)} (h : Ascending entries)
    (f : String × α → β) : Ascending (entries.map fun entry => (entry.1, f entry)) := by
  rw [Ascending, List.pairwise_map]
  exact h

theorem lookupEntry_insertEntry (key other : String) (value : α) (entries : List (String × α)) :
    lookupEntry other (insertEntry key value entries) =
      if other = key then some value else lookupEntry other entries := by
  induction entries with
  | nil =>
    by_cases h : other = key
    · simp [lookupEntry, insertEntry, h]
    · simp [lookupEntry, insertEntry, h, Ne.symm h]
  | cons head rest ih =>
    obtain ⟨k, v⟩ := head
    simp only [insertEntry]
    split
    · by_cases h : other = key
      · simp [lookupEntry, h]
      · simp [lookupEntry, h, Ne.symm h]
    · split
      · rename_i heq
        subst heq
        by_cases h : other = key
        · simp [lookupEntry, h]
        · simp [lookupEntry, h, Ne.symm h]
      · rename_i hne
        by_cases hk : other = k
        · subst hk
          simp [lookupEntry, Ne.symm hne]
        · have hko : (k == other) = false := by simp [Ne.symm hk]
          simpa only [lookupEntry, List.find?_cons, hko] using ih

theorem lookupEntry_eraseEntry (key other : String) (entries : List (String × α)) :
    lookupEntry other (eraseEntry key entries) =
      if other = key then none else lookupEntry other entries := by
  induction entries with
  | nil => simp [lookupEntry, eraseEntry]
  | cons head rest ih =>
    obtain ⟨k, v⟩ := head
    simp only [eraseEntry, List.filter_cons] at ih ⊢
    by_cases hk : k = key
    · subst hk
      by_cases h : other = k
      · simpa [h] using ih
      · simpa [lookupEntry, h, Ne.symm h] using ih
    · by_cases h : other = key
      · subst h
        simp [lookupEntry, hk]
      · by_cases ho : other = k
        · subst ho
          simp [lookupEntry, hk]
        · simpa [lookupEntry, hk, h, Ne.symm ho] using ih

theorem lookupEntry_foldl_insertEntry (key : String) (entries : List (String × α)) :
    ∀ all, lookupEntry key
        (entries.foldl (fun all entry => insertEntry entry.1 entry.2 all) all) =
      ((entries.reverse.find? fun entry => entry.1 == key).map (·.2)).or (lookupEntry key all) := by
  induction entries with
  | nil => intro all; simp
  | cons entry rest ih =>
    intro all
    rw [List.foldl_cons, ih, lookupEntry_insertEntry, List.reverse_cons, List.find?_append,
      List.find?_singleton]
    cases rest.reverse.find? fun entry => entry.1 == key with
    | some found => simp
    | none =>
      by_cases h : key = entry.1
      · simp [h]
      · have hne : (entry.1 == key) = false := by simp [Ne.symm h]
        simp [h, hne]

/-- A finite map whose entries stand in the order of their keys. -/
structure Dictionary (α : Type) where
  entries : List (String × α)
  ascending : Ascending entries
deriving DecidableEq, Repr

namespace Dictionary

instance : Inhabited (Dictionary α) := ⟨⟨[], .nil⟩⟩

/-- The map without entries. -/
def empty : Dictionary α := ⟨[], .nil⟩

/-- The value under a key. -/
def get? (d : Dictionary α) (key : String) : Option α := lookupEntry key d.entries

/-- Whether a key has a value. -/
def contains (d : Dictionary α) (key : String) : Bool := (d.get? key).isSome

/-- The keys in ascending order. -/
def keys (d : Dictionary α) : List String := d.entries.map (·.1)

/-- The number of entries. -/
def size (d : Dictionary α) : Nat := d.entries.length

/-- Puts a value under a key, in place of the one that is there. -/
def insert (d : Dictionary α) (key : String) (value : α) : Dictionary α :=
  ⟨insertEntry key value d.entries, d.ascending.insertEntry key value⟩

/-- Takes a key and its value out. -/
def erase (d : Dictionary α) (key : String) : Dictionary α :=
  ⟨eraseEntry key d.entries, d.ascending.eraseEntry key⟩

/-- The map of a list of entries; of two entries with one key the later one counts. -/
def ofList (entries : List (String × α)) : Dictionary α :=
  ⟨collectEntries entries, .collectEntries entries⟩

/-- Changes every value, given its key. -/
def mapValues (d : Dictionary α) (f : String → α → β) : Dictionary β :=
  ⟨d.entries.map fun entry => (entry.1, f entry.1 entry.2), d.ascending.map fun e => f e.1 e.2⟩

theorem ext {d e : Dictionary α} (h : d.entries = e.entries) : d = e := by
  cases d; cases e; simp_all

theorem get?_insert (d : Dictionary α) (key other : String) (value : α) :
    (d.insert key value).get? other = if other = key then some value else d.get? other :=
  lookupEntry_insertEntry key other value d.entries

theorem get?_mapValues (d : Dictionary α) (f : String → α → β) (key : String) :
    (d.mapValues f).get? key = (d.get? key).map (f key) := by
  unfold get? mapValues lookupEntry
  rw [List.find?_map, Option.map_map, Option.map_map]
  refine Option.map_congr fun entry hentry => ?_
  have hkey : entry.1 = key := by simpa using List.find?_some hentry
  rw [Function.comp_apply, Function.comp_apply, hkey]

theorem get?_erase (d : Dictionary α) (key other : String) :
    (d.erase key).get? other = if other = key then none else d.get? other :=
  lookupEntry_eraseEntry key other d.entries

/-- Under every key stands the last of the values entered for it. -/
theorem get?_ofList (entries : List (String × α)) (key : String) :
    (ofList entries).get? key = (entries.reverse.find? fun entry => entry.1 == key).map (·.2) := by
  have h := lookupEntry_foldl_insertEntry key entries []
  rw [show lookupEntry key ([] : List (String × α)) = none from rfl, Option.or_none] at h
  exact h

/-- The last entry decides on its key, and the others on all other keys. -/
theorem get?_ofList_concat (entries : List (String × α)) (key other : String) (value : α) :
    (ofList (entries ++ [(key, value)])).get? other =
      if other = key then some value else (ofList entries).get? other := by
  have h : collectEntries (entries ++ [(key, value)]) =
      insertEntry key value (collectEntries entries) := List.foldl_append
  show lookupEntry other (collectEntries (entries ++ [(key, value)])) = _
  rw [h]
  exact lookupEntry_insertEntry key other value _

end Dictionary

end DynamicForms
