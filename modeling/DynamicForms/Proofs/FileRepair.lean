import DynamicForms.Command.Folder
import DynamicForms.Pattern.Matching
import DynamicForms.Proofs.Dependents
import DynamicForms.Proofs.RepairedReport
import DynamicForms.Proofs.RoundTrip

/-!
# Repairing a file

A check that repairs a module ends by the report on what it has in memory, while the next check
reads what was written.  Both end in the same way.

* `Folder.follow_insert` — paths lead where they led before once a file is written.
* `Folder.read_write?` — what was written under a path is read under the path.
* `isValid_check_repair_iff` — a repaired module is valid exactly if nothing but unusable parents
  was wrong.
* `Module.ofFile_toFile_repair` — JSON reads what a repair wrote.
* `Folder.run_check_none`, `Folder.run_check_some` — how a check ends and what it leaves.
* `RepairsFile`, `run_check_repairsFile` — a check that repairs, and the checks that come after it.
-/

set_option autoImplicit false

namespace DynamicForms

open Json

/-! ## Files in a folder -/

theorem Dictionary.mem_keys_insert {α : Type} {d : Dictionary α} {other : String}
    (h : other ∈ d.keys) (key : String) (value : α) : other ∈ (d.insert key value).keys := by
  rw [mem_keys_iff] at h ⊢
  rw [get?_insert]
  split
  · exact ⟨value, rfl⟩
  · exact h

namespace Folder

variable {folder after : Folder} {file : Output}

theorem hasFolder_insert {place : List String} (h : folder.hasFolder place = true) (key : String)
    (text : Option String) : hasFolder (folder.insert key text) place = true := by
  unfold hasFolder at h ⊢
  rw [Bool.or_eq_true, List.any_eq_true] at h ⊢
  rcases h with hnil | ⟨path, hpath, hinside⟩
  · exact .inl hnil
  · exact .inr ⟨path, Dictionary.mem_keys_insert hpath key text, hinside⟩

/-- **Paths lead where they led before** once a file is written. -/
theorem follow_insert (key : String) (text : Option String) {parts : List String} :
    ∀ {place found : List String}, folder.follow place parts = some found →
      follow (folder.insert key text) place parts = some found := by
  induction parts with
  | nil => exact fun h => h
  | cons part rest ih =>
    intro place found h
    rw [follow] at h ⊢
    cases hplace : folder.hasFolder place with
    | false =>
      rw [hplace] at h
      cases h
    | true =>
      rw [hplace] at h
      rw [hasFolder_insert hplace]
      simp only [Bool.not_true, Bool.false_eq_true, if_false] at h ⊢
      by_cases hpart : (part != "..") = true
      · rw [if_pos hpart] at h ⊢
        exact ih h
      · rw [if_neg hpart] at h ⊢
        -- the way back leads to the folder around, where there is one
        by_cases htop : place.isEmpty = true
        · rw [if_pos htop] at h
          cases h
        · rw [if_neg htop] at h ⊢
          exact ih h

/-- **What was written is read**, under the path it was written to. -/
theorem read_write? (h : folder.write? file = some after) :
    after.read file.path = some file.text := by
  obtain ⟨key, hkey, hwrite⟩ := Option.bind_eq_some_iff.1 h
  split at hwrite
  · cases hwrite
  · rw [Option.some.injEq] at hwrite
    subst hwrite
    have hkey' : fileKey? (folder.insert key (some file.text)) file.path = some key := by
      unfold fileKey? at hkey ⊢
      split at hkey
      · cases hkey
      · rename_i hpath
        obtain ⟨found, hfound, hjoin⟩ := Option.map_eq_some_iff.1 hkey
        rw [if_neg hpath, follow_insert key _ hfound, Option.map_some, hjoin]
    rw [read, hkey', Option.bind_some, Dictionary.get?_insert, if_pos rfl, Option.join_some]

end Folder

/-! ## Reports on repaired modules -/

/-- **A repaired module is valid** exactly if unusable parents were all that was wrong. -/
theorem isValid_check_repair_iff (m : Module) (config : Config) :
    (m.repair.check config).isValid = true ↔ ∀ issue ∈ (m.check config).errors,
      issue.finding.kind = .unresolvedParent ∨ issue.finding.kind = .selfParent := by
  rw [Report.isValid, errors_check_repair, List.isEmpty_iff, Structure.ofKinds,
    List.filter_eq_nil_iff]
  refine forall₂_congr fun issue hissue => ?_
  have hkind := kind_of_mem_errors_check m config hissue
  simp only [List.mem_cons, List.not_mem_nil, or_false] at hkind
  rcases hkind with hkind | hkind | hkind | hkind <;> simp [hkind]

theorem ExitCode.ofValid_eq_success_iff {valid : Bool} :
    ofValid valid = .success ↔ valid = true := by
  cases valid <;> simp [ofValid]

/-! ## Files of repaired modules -/

namespace Module

variable {m : Module} {path other : String}

theorem toFile_congr (m : Module) (h : isYamlPath path = isYamlPath other) :
    m.toFile path = m.toFile other := by
  rw [toFile, toFile, h]

theorem toFile_json (m : Module) (h : isYamlPath path = false) : m.toFile path = m.toJsonText := by
  rw [toFile, h]
  rfl

theorem ofFile_json_iff {text : String} (h : isYamlPath path = false) :
    Module.ofFile path (some text) = .ok m ↔ Module.ofJson text = .ok m := by
  simp only [Module.ofFile, loadFile, h]
  cases Module.ofJson text <;> simp [loadJson, Except.mapError]

theorem exists_extensions_eq {f : Field} (hf : f ∈ m.repair.fields) :
    ∃ g ∈ m.fields, f.extensions = g.extensions := by
  rw [fields_repair, List.mem_map] at hf
  obtain ⟨g, hg, rfl⟩ := hf
  refine ⟨g, hg, ?_⟩
  rcases g.withoutUnusableParent_cases m.ids with h | h <;> rw [h]

/-- **JSON reads what a repair wrote**, if the module was read from JSON and has no number of the
binary format in it. -/
theorem ofFile_toFile_repair {text : String} (hpath : isYamlPath path = false)
    (hother : isYamlPath other = false) (hload : Module.ofFile path (some text) = .ok m)
    (hexact : m.isExact = true) :
    Module.ofFile other (some (m.repair.toFile other)) = .ok m.repair := by
  obtain ⟨o, ho⟩ := exists_of_decodeText ((ofFile_json_iff hpath).1 hload)
  have hstorable : ∀ f ∈ m.fields, StorableEntries 123 f.extensions := storable_of_decodeModule ho
  rw [m.repair.toFile_json hother, ofFile_json_iff hother]
  -- a repair leaves extensions alone, so they can still be stored
  refine ofJson_toJsonText (fun f hf => ?_) (List.all_eq_true.2 fun f hf => ?_)
  · obtain ⟨g, hg, heq⟩ := exists_extensions_eq hf
    rw [heq]
    exact hstorable g hg
  · obtain ⟨g, hg, heq⟩ := exists_extensions_eq hf
    rw [heq]
    exact List.all_eq_true.1 hexact g hg

end Module

/-! ## Runs of checks -/

namespace Folder

variable {folder after : Folder} {path out : String} {m : Module}

theorem run_check (hload : Module.ofFile path (folder.read path) = .ok m) (engine : PatternEngine)
    (config : Config) (repaired : Option String) (json : Bool) :
    folder.run engine config (.check path repaired json) =
      folder.carryOut (checkModule m config repaired json) := by
  show folder.carryOut (Id.run (withLoaded (Module.ofFile path (folder.read path)) _)) = _
  rw [hload]
  rfl

theorem run_check_none (hload : Module.ofFile path (folder.read path) = .ok m)
    (engine : PatternEngine) (config : Config) (json : Bool) :
    (folder.run engine config (.check path none json)).2 =
      (.ofValid (m.check config).isValid, folder) := by
  rw [run_check hload]
  rfl

/-- **A check with a repair** ends by the report on the repaired module and writes it. -/
theorem run_check_some (hload : Module.ofFile path (folder.read path) = .ok m)
    (hwrite : folder.write? ⟨out, m.repair.toFile out⟩ = some after) (engine : PatternEngine)
    (config : Config) (json : Bool) :
    (folder.run engine config (.check path (some out) json)).2 =
      (.ofValid (m.repair.check config).isValid, after) := by
  have hafter : (checkModule m config (some out) json).file.bind folder.write? = some after :=
    hwrite
  rw [run_check hload, carryOut, hafter]
  rfl

end Folder

/-! ## Main theorem -/

/-- What a check has to do that reads a module from one file and writes the repaired one to
another, which may be the same file. -/
structure RepairsFile (folder : Folder) (engine : PatternEngine) (config : Config)
    (path out : String) (json : Bool) (m : Module) : Prop where
  /-- It is a success exactly if unusable parents were all that was wrong. -/
  success_iff : (folder.run engine config (.check path (some out) json)).2.1 = .success ↔
    ∀ issue ∈ (m.check config).errors,
      issue.finding.kind = .unresolvedParent ∨ issue.finding.kind = .selfParent
  /-- Otherwise the module is invalid; nothing fails. -/
  not_failure : (folder.run engine config (.check path (some out) json)).2.1 ≠ .failure
  /-- The repaired module is in the file. -/
  read_eq : (folder.run engine config (.check path (some out) json)).2.2.read out =
    some (m.repair.toFile out)
  /-- As long as it is, a check of it ends in the same way. -/
  checked_again : ∀ (later : Folder) (json' : Bool), later.read out = some (m.repair.toFile out) →
    (later.run engine config (.check out none json')).2.1 =
      (folder.run engine config (.check path (some out) json)).2.1
  /-- And a check of it that repairs it once more, to a file of the same format that can be
  written, puts the same text there. -/
  repaired_again : ∀ (later : Folder) (config' : Config) (again : String) (json' : Bool),
    later.read out = some (m.repair.toFile out) → isYamlPath again = isYamlPath out →
    (later.write? ⟨again, m.repair.toFile out⟩).isSome →
    (later.run engine config' (.check out (some again) json')).2.2.read again = later.read out

section Run

variable {folder : Folder} {engine : PatternEngine} {config : Config} {path out : String}
  {json : Bool} {m : Module}

/-- **What a check says of a repair holds of the file.**  The module is loaded, the file can be
written, and the text of the repaired module is read as the repaired module. -/
theorem run_check_repairsFile (hload : Module.ofFile path (folder.read path) = .ok m)
    (hwrite : (folder.write? ⟨out, m.repair.toFile out⟩).isSome)
    (hreads : Module.ofFile out (some (m.repair.toFile out)) = .ok m.repair) :
    RepairsFile folder engine config path out json m := by
  obtain ⟨after, hafter⟩ := Option.isSome_iff_exists.1 hwrite
  have hrun := Folder.run_check_some hload hafter engine config json
  refine ⟨?_, ?_, ?_, ?_, ?_⟩
  · rw [hrun, ExitCode.ofValid_eq_success_iff]
    exact isValid_check_repair_iff m config
  · rw [hrun]
    cases (m.repair.check config).isValid <;> simp [ExitCode.ofValid]
  · rw [hrun]
    exact Folder.read_write? hafter
  · intro later json' hread
    rw [← hread] at hreads
    rw [hrun, Folder.run_check_none hreads]
  · intro later config' again json' hread hformat hagain
    rw [← hread] at hreads
    -- a second repair changes nothing, and the format is the same
    have htext : m.repair.repair.toFile again = m.repair.toFile out := by
      rw [repair_repair, m.repair.toFile_congr hformat]
    obtain ⟨last, hlast⟩ := Option.isSome_iff_exists.1 hagain
    rw [← htext] at hlast
    rw [Folder.run_check_some hreads hlast, hread]
    exact (Folder.read_write? hlast).trans (congrArg some htext)

/-- The text of a module with a parent that is missing and one that is the field itself. -/
def brokenText : String :=
  "\x7b\"id\": \"m\", \"fields\": [
    \x7b\"id\": \"a\", \"type\": \"text\", \"parent_id\": \"gone\"\x7d,
    \x7b\"id\": \"b\", \"type\": \"text\", \"parent_id\": \"b\"\x7d]\x7d"

/-- The module of that text. -/
def brokenModule : Module where
  id := "m"
  label := none
  fields := [{ Field.ofId "a" .text with parent := some "gone" },
    { Field.ofId "b" .text with parent := some "b" }]
  rules := []

/-- A folder with that text in a file. -/
def brokenFolder : Folder := .ofList [("broken.json", some brokenText)]

/-- A check of it that repairs is a success, whichever format the repaired module is written in. -/
theorem run_check_repairsFile_broken :
    Module.ofFile "broken.json" (brokenFolder.read "broken.json") = .ok brokenModule ∧
    ((brokenFolder.write? ⟨"./fixed.json", brokenModule.repair.toFile "./fixed.json"⟩).isSome ∧
    Module.ofFile "./fixed.json" (some (brokenModule.repair.toFile "./fixed.json")) =
      .ok brokenModule.repair ∧
    RepairsFile brokenFolder Pattern.engine {} "broken.json" "./fixed.json" true brokenModule ∧
    (brokenFolder.run Pattern.engine {}
      (.check "broken.json" (some "./fixed.json") true)).2.1 = .success) ∧
    (brokenFolder.write? ⟨"fixed.yaml", brokenModule.repair.toFile "fixed.yaml"⟩).isSome ∧
    Module.ofFile "fixed.yaml" (some (brokenModule.repair.toFile "fixed.yaml")) =
      .ok brokenModule.repair ∧
    RepairsFile brokenFolder Pattern.engine {} "broken.json" "fixed.yaml" true brokenModule ∧
    (brokenFolder.run Pattern.engine {}
      (.check "broken.json" (some "fixed.yaml") true)).2.1 = .success := by
  have hload : Module.ofFile "broken.json" (some brokenText) = .ok brokenModule := by
    decide +kernel
  have hread : brokenFolder.read "broken.json" = some brokenText := by decide +kernel
  have hwrite : (brokenFolder.write?
      ⟨"./fixed.json", brokenModule.repair.toFile "./fixed.json"⟩).isSome := by
    decide +kernel
  have hreads : Module.ofFile "./fixed.json"
      (some (brokenModule.repair.toFile "./fixed.json")) = .ok brokenModule.repair := by
    have hpath : isYamlPath "broken.json" = false := by decide +kernel
    have hout : isYamlPath "./fixed.json" = false := by decide +kernel
    exact Module.ofFile_toFile_repair hpath hout hload (by decide)
  have hwriteYaml : (brokenFolder.write?
      ⟨"fixed.yaml", brokenModule.repair.toFile "fixed.yaml"⟩).isSome := by
    decide +kernel
  have hreadsYaml : Module.ofFile "fixed.yaml"
      (some (brokenModule.repair.toFile "fixed.yaml")) = .ok brokenModule.repair := by
    decide +kernel
  rw [← hread] at hload
  have hrepairs : RepairsFile brokenFolder Pattern.engine {} "broken.json" "./fixed.json" true
      brokenModule :=
    run_check_repairsFile hload hwrite hreads
  have hrepairsYaml : RepairsFile brokenFolder Pattern.engine {} "broken.json" "fixed.yaml" true
      brokenModule :=
    run_check_repairsFile hload hwriteYaml hreadsYaml
  exact ⟨hload,
    ⟨hwrite, hreads, hrepairs, hrepairs.success_iff.2 (by decide +kernel)⟩,
    hwriteYaml, hreadsYaml, hrepairsYaml, hrepairsYaml.success_iff.2 (by decide +kernel)⟩

end Run

end DynamicForms
