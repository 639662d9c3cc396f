import SourceTrace.Proofs.Settings.Grammar
import SourceTrace.Proofs.Settings.Order

/-!
# Settings that fall back on a table

A settings file sets options through the entries of one table, and an entry is about the option that
its key means. `FallsBack` says where the value of one option comes from: from an entry about it, or
from the default if there is no such entry. Taking up one entry keeps this for all options, so it
holds of whatever file is loaded.
-/

namespace SourceTrace

/-- What holds of each option by its name holds of every option. -/
theorem Flag.casesByName {motive : Flag → Prop}
    (compilerOutput : motive (.valued .compilerOutput)) (contract : motive (.valued .contract))
    (sourcesDir : motive (.valued .sourcesDir))
    (minimumVersion : motive (.valued .minimumVersion)) (root : motive (.valued .root))
    (config : motive (.valued .config)) (noLiteral : motive (.switch .noLiteral))
    (json : motive (.switch .json)) (explain : motive (.switch .explain))
    (noColor : motive (.switch .noColor)) (verbose : motive .verbose) (help : motive .help)
    (version : motive .version) (flag : Flag) : motive flag := by
  cases flag with
  | valued option => cases option <;> assumption
  | switch which => cases which <;> assumption
  | verbose => exact verbose
  | help => exact help
  | version => exact version

/-- The normal key under which a settings table sets an option. The root and the path of the
settings file are only given as arguments. -/
def Flag.key? : Flag → Option String
  | .valued .compilerOutput => some "compiler_output"
  | .valued .contract => some "contract"
  | .valued .sourcesDir => some "sources_dir"
  | .valued .minimumVersion => some "min_compiler_version"
  | .valued .root | .valued .config => none
  | .switch .noLiteral => some "no_literal"
  | .switch .json => some "json"
  | .switch .explain => some "explain"
  | .switch .noColor => some "no_color"
  | .verbose => some "verbose"
  | .help | .version => none

namespace Settings

/-- The value of an option, as a settings table has it. -/
def valueOf? (settings : Settings) : Flag → Option Toml.Value
  | .valued .compilerOutput => settings.compilerOutput.map .string
  | .valued .contract => some (.string settings.contract)
  | .valued .sourcesDir => settings.sourcesDir.map .string
  | .valued .minimumVersion => some (.string settings.minimumVersion)
  | .valued .root => some (.string settings.root)
  | .valued .config => settings.config.map .string
  | .switch .noLiteral => some (.boolean settings.noLiteral)
  | .switch .json => some (.boolean settings.json)
  | .switch .explain => some (.boolean settings.explain)
  | .switch .noColor => some (.boolean settings.noColor)
  | .verbose => some (.integer settings.verbose.toNat)
  | .help | .version => none

/-- The option that a change is about, with its value afterwards. -/
def Change.setting? : Change → Option (Flag × Toml.Value)
  | .compilerOutput path => some (.valued .compilerOutput, .string path)
  | .contract name => some (.valued .contract, .string name)
  | .sourcesDir path => some (.valued .sourcesDir, .string path)
  | .noLiteral isOn => some (.switch .noLiteral, .boolean isOn)
  | .json isOn => some (.switch .json, .boolean isOn)
  | .explain isOn => some (.switch .explain, .boolean isOn)
  | .verbose count => some (.verbose, .integer count.toNat)
  | .noColor isOn => some (.switch .noColor, .boolean isOn)
  | .minimumVersion version => some (.valued .minimumVersion, .string version)
  | .ignored => none

/-- A change gives the option that it is about its new value. -/
theorem valueOf?_apply_of_setting? {change : Change} {flag : Flag} {value : Toml.Value}
    (about : change.setting? = some (flag, value)) (settings : Settings) :
    (settings.apply change).valueOf? flag = some value := by
  cases change <;> cases about <;> rfl

/-- A change keeps every option that it is not about. -/
theorem valueOf?_apply_of_ne {change : Change} {flag : Flag}
    (other : ∀ value, change.setting? ≠ some (flag, value)) (settings : Settings) :
    (settings.apply change).valueOf? flag = settings.valueOf? flag := by
  cases flag using Flag.casesByName <;> cases change <;>
    first | rfl | exact absurd rfl (other _)

/-- Only a string is read as a text. -/
theorem textValue_eq_ok {key text : String} {value : Toml.Value}
    (read : textValue key value = .ok text) : value = .string text := by
  cases value <;> cases read
  rfl

/-- Only a truth value is read as one. -/
theorem boolValue_eq_ok {key : String} {isOn : Bool} {value : Toml.Value}
    (read : boolValue key value = .ok isOn) : value = .boolean isOn := by
  cases value <;> cases read
  rfl

/-- Only an integer is read as a small number. -/
theorem byteValue_eq_ok {key : String} {count : UInt8} {value : Toml.Value}
    (read : byteValue key value = .ok count) : value = .integer count.toNat := by
  cases value with
  | integer number =>
    rw [byteValue] at read
    split at read
    · rename_i small
      cases read
      congr 1
      rw [UInt8.toNat_ofNat']
      omega
    · cases read
  | _ => cases read

/-- No two options have one key. -/
theorem flag_eq_of_key?_eq {first second : Flag} {key : String} (firstKey : first.key? = some key)
    (secondKey : second.key? = some key) : first = second := by
  cases first using Flag.casesByName <;> cases firstKey <;>
    cases second using Flag.casesByName <;>
      first | rfl | exact absurd secondKey (by decide)

/-- The keys of options are known. -/
theorem known_of_key?_eq {flag : Flag} {key : String} (own : flag.key? = some key) :
    key ∈ knownKeys := by
  cases flag using Flag.casesByName <;> cases own <;> decide

section Entries

variable {entry : String × Toml.Value} {change : Change} {flag : Flag} {value : Toml.Value}

/-- One kind of entry: its key is that of an option, and its value is read for that option. -/
theorem setting?_of_known {α : Type} {key : String} {own : Flag}
    {outcome : Except SettingsFault α}
    {make : α → Change} {write : α → Toml.Value} (ownKey : own.key? = some key)
    (makes : ∀ given, (make given).setting? = some (own, write given))
    (writes : ∀ given, outcome = .ok given → entry.2 = write given)
    (known : normalKey entry.1 = key) (read : outcome.map make = .ok change) :
    change.setting? = some (flag, value) ↔
      flag.key? = some (normalKey entry.1) ∧ value = entry.2 := by
  cases outcome with
  | error fault => cases read
  | ok given =>
    obtain rfl := Except.ok.inj read
    rw [makes, known, writes given rfl]
    constructor
    · intro same
      cases same
      exact ⟨ownKey, rfl⟩
    · rintro ⟨flagKey, rfl⟩
      rw [flag_eq_of_key?_eq flagKey ownKey]

/-- An entry changes the option that its key means to the value that it has. -/
theorem setting?_eq_some_iff (read : changeOf entry = .ok change) :
    change.setting? = some (flag, value) ↔
      flag.key? = some (normalKey entry.1) ∧ value = entry.2 := by
  simp only [changeOf] at read
  repeat'
    split at read
    · rename_i known
      first
        | exact setting?_of_known rfl (fun _ => rfl) (fun _ => textValue_eq_ok) known read
        | exact setting?_of_known rfl (fun _ => rfl) (fun _ => boolValue_eq_ok) known read
        | exact setting?_of_known rfl (fun _ => rfl) (fun _ => byteValue_eq_ok) known read
  · obtain rfl := Except.ok.inj read
    have unknown : normalKey entry.1 ∉ knownKeys := by simp_all [knownKeys]
    have foreign : flag.key? ≠ some (normalKey entry.1) :=
      fun own => unknown (known_of_key?_eq own)
    simp [Change.setting?, foreign]

/-- An entry gives the option that its key means the value that it has, and no other option. -/
theorem valueOf?_takeEntry {settings next : Settings} (taken : settings.takeEntry entry = .ok next)
    (flag : Flag) :
    next.valueOf? flag =
      if flag.key? = some (normalKey entry.1) then some entry.2 else settings.valueOf? flag := by
  rw [takeEntry] at taken
  cases read : changeOf entry with
  | error fault =>
    rw [read] at taken
    cases taken
  | ok change =>
    rw [read] at taken
    obtain rfl := Except.ok.inj taken
    split
    · rename_i own
      exact valueOf?_apply_of_setting? ((setting?_eq_some_iff read).mpr ⟨own, rfl⟩) settings
    · rename_i foreign
      refine valueOf?_apply_of_ne (fun value about => foreign ?_) settings
      exact ((setting?_eq_some_iff read).mp about).1

end Entries

/-- An option has the value that an entry of a table gives it, or its default if there is no such
entry. -/
def FallsBack (settings : Settings) (table : List (String × Toml.Value)) (flag : Flag) : Prop :=
  (∃ entry ∈ table, flag.key? = some (normalKey entry.1) ∧
    settings.valueOf? flag = some entry.2) ∨
    (∀ entry ∈ table, flag.key? ≠ some (normalKey entry.1)) ∧
      settings.valueOf? flag = ({} : Settings).valueOf? flag

/-- Taking up one more entry keeps where an option has its value from. -/
theorem FallsBack.takeEntry {settings next : Settings} {table : List (String × Toml.Value)}
    {entry : String × Toml.Value} {flag : Flag} (holds : settings.FallsBack table flag)
    (taken : settings.takeEntry entry = .ok next) : next.FallsBack (table ++ [entry]) flag := by
  have changed := valueOf?_takeEntry taken flag
  by_cases own : flag.key? = some (normalKey entry.1)
  · rw [if_pos own] at changed
    exact .inl ⟨entry, by simp, own, changed⟩
  · rw [if_neg own] at changed
    obtain ⟨earlier, member, earlierOwn, value⟩ | ⟨none, default⟩ := holds
    · exact .inl ⟨earlier, by simp [member], earlierOwn, changed.trans value⟩
    · refine .inr ⟨fun other member => ?_, changed.trans default⟩
      obtain earlier | last := List.mem_append.mp member
      · exact none other earlier
      · rw [List.mem_singleton.mp last]
        exact own

/-- Without entries every option has its default. -/
theorem fallsBack_default (flag : Flag) : ({} : Settings).FallsBack [] flag :=
  .inr ⟨fun _ member => absurd member List.not_mem_nil, rfl⟩

/-- Options of a table that loads have their values from it, or their defaults. -/
theorem fallsBack_of_ofEntries {file : Settings} {table : List (String × Toml.Value)}
    (loaded : ofEntries table = .ok file) (flag : Flag) : file.FallsBack table flag := by
  let Holds (entries : List (String × Toml.Value)) (settings : Settings) : Prop :=
    settings.FallsBack entries flag
  have kept entries entry settings next (holds : Holds entries settings)
      (taken : settings.takeEntry entry = .ok next) : Holds (entries ++ [entry]) next :=
    FallsBack.takeEntry holds taken
  exact foldlM_invariant Holds kept [] (fallsBack_default flag) loaded

/-- The entries that set something in a document. -/
def tableOf (root : List (String × Toml.Value)) : List (String × Toml.Value) :=
  match root.lookup "global" with
  | some (.table entries) => entries
  | _ => []

/-- Options of a document that loads have their values from its table, or their defaults. -/
theorem fallsBack_of_ofToml {text : String} {file : Settings} (loaded : ofToml text = .ok file) :
    ∃ root, Toml.parse? text = some root ∧ ∀ flag, file.FallsBack (tableOf root) flag := by
  unfold ofToml at loaded
  cases parsed : Toml.parse? text with
  | none =>
    rw [parsed] at loaded
    cases loaded
  | some root =>
    rw [parsed] at loaded
    refine ⟨root, rfl, ?_⟩
    dsimp only at loaded
    unfold tableOf
    split at loaded
    · rename_i absent
      rw [absent]
      cases loaded
      exact fallsBack_default
    · rename_i entries present
      rw [present]
      exact fallsBack_of_ofEntries loaded
    · rename_i moment present
      rw [present]
      cases loaded
      exact fallsBack_default
    · cases loaded

/-- Options of a file that loads have their values from its table, or their defaults. -/
theorem fallsBack_of_ofFile {files : Files} {path : String} {file : Settings}
    (loaded : ofFile files path = .ok file) :
    ∃ text root, (files path).readText = .ok text ∧ Toml.parse? text = some root ∧
      ∀ flag, file.FallsBack (tableOf root) flag := by
  unfold ofFile at loaded
  cases read : (files path).readText with
  | error fault =>
    rw [read] at loaded
    cases loaded
  | ok text =>
    rw [read] at loaded
    have content : ofToml text = .ok file := by
      dsimp only at loaded
      split at loaded
      · cases loaded
      · rename_i settings accepted
        cases loaded
        exact accepted
    obtain ⟨root, parsed, fallsBack⟩ := fallsBack_of_ofToml content
    exact ⟨text, root, rfl, parsed, fallsBack⟩

end Settings

end SourceTrace
