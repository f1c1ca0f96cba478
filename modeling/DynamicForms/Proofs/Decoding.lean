import DynamicForms.Json.Decode
import DynamicForms.Proofs.Layouts

/-!
# Values and their outlines

What a text holds once it is read: every object has its keys in ascending order, and no more
containers stand inside each other than may be entered.  Values of that kind, and no others,
come out of the reading of their own outline unchanged.

* `storable_of_decodeValue` — a value that was read is `Storable`.
* `decodeValue_outline` — a storable value without numbers of the binary format is read off its
  outline.
* `decodeText_of_spells` — reading a text that spells a value is reading the value's outline.
-/

set_option autoImplicit false

namespace DynamicForms.Json

variable {α β : Type} {depth : Nat}

theorem bind_eq_ok_iff {ε : Type} {x : Except ε α} {f : α → Except ε β} {b : β} :
    x >>= f = .ok b ↔ ∃ a, x = .ok a ∧ f a = .ok b := by
  cases x with
  | error e => simp [bind, Except.bind]
  | ok a => simp [bind, Except.bind]

theorem map_eq_ok_iff {ε : Type} {x : Except ε α} {f : α → β} {b : β} :
    x.map f = .ok b ↔ ∃ a, x = .ok a ∧ f a = b := by
  cases x with
  | error e => simp [Except.map]
  | ok a => simp [Except.map]

theorem enter_eq_ok_iff {inside : Nat → Decoded α} {a : α} :
    enter depth inside = .ok a ↔ ∃ n, depth = n + 1 ∧ inside n = .ok a := by
  cases depth with
  | zero => simp [enter, fail]
  | succ depth => simp [enter]

theorem mismatch_ne_ok (expected : String) (o : Outline) (a : α) : mismatch expected o ≠ .ok a := by
  cases o with
  | number t =>
    intro h
    obtain ⟨n, -, h⟩ := bind_eq_ok_iff.1 h
    cases h
  | string s =>
    intro h
    obtain ⟨s, -, h⟩ := bind_eq_ok_iff.1 h
    cases h
  | _ => exact nofun

/-! ## Storable values -/

/-- The values that come out of a text when `depth` containers may be entered: keys ascend in
every object. -/
inductive Storable : (depth : Nat) → Value → Prop where
  | null {depth : Nat} : Storable depth .null
  | boolean {depth : Nat} (b : Bool) : Storable depth (.boolean b)
  | number {depth : Nat} (n : Numeral) : Storable depth (.number n)
  | string {depth : Nat} (s : String) : Storable depth (.string s)
  | array {depth : Nat} {items : List Value} (h : ∀ v ∈ items, Storable depth v) :
      Storable (depth + 1) (.array items)
  | object {depth : Nat} {entries : List (String × Value)} (hkeys : Ascending entries)
      (h : ∀ entry ∈ entries, Storable depth entry.2) : Storable (depth + 1) (.object entries)

/-- The entries of an object that come out of a text when `depth` containers may be entered inside
the object. -/
structure StorableEntries (depth : Nat) (entries : List (String × Value)) : Prop where
  keys : Ascending entries
  values : ∀ entry ∈ entries, Storable depth entry.2

theorem StorableEntries.nil : StorableEntries depth [] := ⟨.nil, by simp⟩

theorem StorableEntries.insertEntry {all : List (String × Value)} (h : StorableEntries depth all)
    {key : String} {v : Value} (hv : Storable depth v) :
    StorableEntries depth (insertEntry key v all) := by
  refine ⟨h.keys.insertEntry key v, fun entry hmem => ?_⟩
  rcases mem_insertEntry hmem with rfl | hmem
  · exact hv
  · exact h.values entry hmem

mutual
/-- **A value that was read is storable.** -/
theorem storable_of_decodeValue {depth : Nat} {v : Value} :
    ∀ {o : Outline}, decodeValue depth o = .ok v → Storable depth v
  | .null, h => by
    cases h
    exact .null
  | .boolean b, h => by
    cases h
    exact .boolean b
  | .number t, h => by
    obtain ⟨n, -, rfl⟩ := map_eq_ok_iff.1 h
    exact .number n
  | .string s, h => by
    obtain ⟨s, -, rfl⟩ := map_eq_ok_iff.1 h
    exact .string s
  | .array items, h => by
    obtain ⟨n, rfl, h⟩ := enter_eq_ok_iff.1 h
    obtain ⟨vs, hvs, rfl⟩ := map_eq_ok_iff.1 h
    exact .array (storable_of_decodeValues hvs)
  | .object entries, h => by
    obtain ⟨n, rfl, h⟩ := enter_eq_ok_iff.1 h
    obtain ⟨all, hall, rfl⟩ := map_eq_ok_iff.1 h
    have hentries := storableEntries_of_decodeEntries .nil hall
    exact .object hentries.keys hentries.values
  | .torn b, h | .broken b, h => nomatch h

theorem storable_of_decodeValues {depth : Nat} {vs : List Value} :
    ∀ {items : Items}, decodeValues depth items = .ok vs → ∀ v ∈ vs, Storable depth v
  | .closed, h => by
    cases h
    simp
  | .broken b, h => nomatch h
  | .next o rest, h => by
    obtain ⟨v, hv, h⟩ := bind_eq_ok_iff.1 h
    obtain ⟨vs, hvs, h⟩ := bind_eq_ok_iff.1 h
    cases h
    exact List.forall_mem_cons.2 ⟨storable_of_decodeValue hv, storable_of_decodeValues hvs⟩

theorem storableEntries_of_decodeEntries {depth : Nat} {all result : List (String × Value)}
    (hall : StorableEntries depth all) :
    ∀ {entries : Entries}, decodeEntries depth entries all = .ok result →
      StorableEntries depth result
  | .closed, h => by
    cases h
    exact hall
  | .broken b, h | .odd o, h => nomatch h
  | .next key o rest, h => by
    obtain ⟨key, -, h⟩ := bind_eq_ok_iff.1 h
    obtain ⟨v, hv, h⟩ := bind_eq_ok_iff.1 h
    exact storableEntries_of_decodeEntries (hall.insertEntry (storable_of_decodeValue hv)) h
end

theorem storableEntries_of_decodeMap {o : Outline} {entries : List (String × Value)}
    (h : decodeMap (depth + 1) o = .ok entries) : StorableEntries depth entries := by
  unfold decodeMap at h
  split at h
  · exact storableEntries_of_decodeEntries .nil h
  · exact absurd h (mismatch_ne_ok _ _ _)

/-! ## Reading outlines of values -/

theorem decodeValues_outlineItems {items : List Value}
    (h : ∀ v ∈ items, decodeValue depth v.outline = .ok v) :
    decodeValues depth (Value.outlineItems items) = .ok items := by
  induction items with
  | nil => rfl
  | cons v rest ih =>
    obtain ⟨hv, hrest⟩ := List.forall_mem_cons.1 h
    rw [Value.outlineItems, decodeValues, hv, ih hrest]
    rfl

theorem decodeEntries_outlineEntries {entries : List (String × Value)}
    (h : ∀ entry ∈ entries, decodeValue depth entry.2.outline = .ok entry.2) :
    ∀ all, decodeEntries depth (Value.outlineEntries entries) all =
      .ok (entries.foldl (fun all entry => insertEntry entry.1 entry.2 all) all) := by
  induction entries with
  | nil => exact fun _ => rfl
  | cons entry rest ih =>
    intro all
    obtain ⟨hv, hrest⟩ := List.forall_mem_cons.1 h
    obtain ⟨key, v⟩ := entry
    rw [Value.outlineEntries, decodeEntries, hv]
    exact ih hrest _

theorem decodeEntries_outlineEntries_nil {entries : List (String × Value)}
    (hkeys : Ascending entries)
    (h : ∀ entry ∈ entries, decodeValue depth entry.2.outline = .ok entry.2) :
    decodeEntries depth (Value.outlineEntries entries) [] = .ok entries := by
  rw [decodeEntries_outlineEntries h []]
  exact congrArg Except.ok hkeys.collectEntries_eq

theorem decodeValue_number {n : Int} (fits : FitsWord n) :
    decodeValue depth (.number (.ofWhole n)) = .ok (.number (.whole n fits)) := by
  rw [decodeValue, NumberText.value_ofWhole fits]
  rfl

/-- **A storable value is read off its outline.** -/
theorem decodeValue_outline {v : Value} (h : Storable depth v) (hexact : v.isExact = true) :
    decodeValue depth v.outline = .ok v := by
  induction h with
  | null => rfl
  | boolean b => rfl
  | number n =>
    cases n with
    | whole n fits => rw [Value.outline, Numeral.outline_whole, decodeValue_number fits]
    | real x => cases hexact
  | string s => rfl
  | array h ih =>
    have hall := Value.exactItems_iff.1 hexact
    rw [Value.outline, decodeValue, enter,
      decodeValues_outlineItems fun v hv => ih v hv (hall v hv)]
    rfl
  | object hkeys h ih =>
    have hall := Value.exactEntries_iff.1 hexact
    rw [Value.outline, decodeValue, enter,
      decodeEntries_outlineEntries_nil hkeys fun entry hentry =>
        ih entry hentry (hall entry hentry)]
    rfl

theorem decodeMap_outline {entries : List (String × Value)} (h : StorableEntries depth entries)
    (hexact : Value.exactEntries entries = true) :
    decodeMap (depth + 1) (Value.object entries).outline = .ok entries := by
  have hall := Value.exactEntries_iff.1 hexact
  rw [Value.outline, decodeMap, enter]
  exact decodeEntries_outlineEntries_nil h.keys fun entry hentry =>
    decodeValue_outline (h.values entry hentry) (hall entry hentry)

/-- **A text that spells a value is read like the value's outline.** -/
theorem decodeText_of_spells {v : Value} {text : List Char} (h : Spells v text)
    (decode : Nat → Outline → Decoded α) :
    decodeText decode (String.ofList text) = decode maxDepth v.outline := by
  have hrest : (some ([] : List Char)).map skipSpaces = some [] := rfl
  rw [decodeText, String.toList_ofList, outline_ofText h]
  simp only [hrest, if_true]
  cases decode maxDepth v.outline with
  | error e => rfl
  | ok a => rfl

end DynamicForms.Json
