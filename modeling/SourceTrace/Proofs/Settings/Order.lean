import SourceTrace.Settings.File

/-!
# The order of settings

The entries of a settings table come in no particular order, and they are taken up in turn. Two
entries with different keys may still be about one setting, because a minus sign and an underscore
in a key mean the same. `Settings.orderIndependent_iff` says for which tables the order does not
matter: those that are refused anyhow, and those in which entries about one setting ask for the same
change. `Settings.not_orderIndependent_spellings` is a table for which it does.
-/

namespace SourceTrace.Settings

/-- Two outcomes of loading agree: both are the same settings, or both are faults. -/
def Agree : Except SettingsFault Settings → Except SettingsFault Settings → Prop
  | .ok first, .ok second => first = second
  | .error _, .error _ => True
  | _, _ => False

/-- A table is loaded alike in whatever order its entries come. -/
def OrderIndependent (entries : List (String × Toml.Value)) : Prop :=
  ∀ others, entries.Perm others → Agree (ofEntries entries) (ofEntries others)

/-- An entry has a value of the wrong type. -/
def IsIllTyped (entry : String × Toml.Value) : Prop :=
  ∃ fault, changeOf entry = .error fault

/-- Entries whose keys mean the same ask for the same change. -/
def Consistent (entries : List (String × Toml.Value)) : Prop :=
  ∀ first ∈ entries, ∀ second ∈ entries,
    normalKey first.1 = normalKey second.1 → changeOf first = changeOf second

/-- The normal keys of the settings that a table may change. -/
def knownKeys : List String :=
  ["compiler_output", "contract", "sources_dir", "no_literal", "json", "explain", "verbose",
    "no_color", "min_compiler_version"]

/-- The normal key of the setting that a change is about. -/
def Change.key? : Change → Option String
  | .compilerOutput _ => some "compiler_output"
  | .contract _ => some "contract"
  | .sourcesDir _ => some "sources_dir"
  | .noLiteral _ => some "no_literal"
  | .json _ => some "json"
  | .explain _ => some "explain"
  | .verbose _ => some "verbose"
  | .noColor _ => some "no_color"
  | .minimumVersion _ => some "min_compiler_version"
  | .ignored => none

/-- Only a change that does nothing has no key. -/
theorem Change.key?_eq_none_iff {change : Change} : change.key? = none ↔ change = .ignored := by
  cases change <;> simp [Change.key?]

/-- The change that would give the setting with a key the value it has, if it has one. -/
def shown? (settings : Settings) : Option String → Option Change
  | some "compiler_output" => settings.compilerOutput.map .compilerOutput
  | some "contract" => some (.contract settings.contract)
  | some "sources_dir" => settings.sourcesDir.map .sourcesDir
  | some "no_literal" => some (.noLiteral settings.noLiteral)
  | some "json" => some (.json settings.json)
  | some "explain" => some (.explain settings.explain)
  | some "verbose" => some (.verbose settings.verbose)
  | some "no_color" => some (.noColor settings.noColor)
  | some "min_compiler_version" => some (.minimumVersion settings.minimumVersion)
  | _ => some .ignored

section Changes

variable {settings : Settings} {first second : Change}

/-- Changes of different settings may be made in either order. -/
theorem apply_comm (compatible : first.key? = second.key? → first = second) :
    (settings.apply first).apply second = (settings.apply second).apply first := by
  by_cases same : first.key? = second.key?
  · rw [compatible same]
  · cases first <;> cases second <;> first | rfl | exact absurd rfl same

/-- A change that was made need not be made again. -/
theorem apply_apply_self (settings : Settings) (change : Change) :
    (settings.apply change).apply change = settings.apply change := by
  cases change <;> rfl

/-- Settings show the change of each setting that was made last. -/
theorem shown?_apply (settings : Settings) (change : Change) :
    (settings.apply change).shown? change.key? = some change := by
  cases change <;> rfl

/-- Settings that show two changes of one setting show but one. -/
theorem change_eq_of_apply_eq_self (firstMade : settings.apply first = settings)
    (secondMade : settings.apply second = settings) (same : first.key? = second.key?) :
    first = second := by
  have firstShown := shown?_apply settings first
  have secondShown := shown?_apply settings second
  rw [firstMade, same] at firstShown
  rw [secondMade] at secondShown
  exact Option.some.inj (firstShown.symm.trans secondShown)

end Changes

section Entries

variable {entry : String × Toml.Value} {entries others : List (String × Toml.Value)}

/-- The change that an entry asks for is about the setting that its key means. -/
theorem key?_of_changeOf_eq_ok {change : Change} (read : changeOf entry = .ok change) :
    change.key? = if normalKey entry.1 ∈ knownKeys then some (normalKey entry.1) else none := by
  have made {α : Type} {value : Except SettingsFault α} {make : α → Change}
      (mapped : value.map make = .ok change) : ∃ given, make given = change := by
    cases value with
    | error fault => cases mapped
    | ok given => exact ⟨given, Except.ok.inj mapped⟩
  simp only [changeOf] at read
  repeat'
    split at read
    · rename_i known
      obtain ⟨given, rfl⟩ := made read
      rw [known]
      rfl
  · obtain rfl := Except.ok.inj read
    simp_all [knownKeys, Change.key?]

/-- Entries whose keys mean the same are about one setting. -/
theorem key?_eq_of_normalKey_eq {first second : String × Toml.Value} {made changed : Change}
    (same : normalKey first.1 = normalKey second.1) (firstRead : changeOf first = .ok made)
    (secondRead : changeOf second = .ok changed) : made.key? = changed.key? := by
  rw [key?_of_changeOf_eq_ok firstRead, key?_of_changeOf_eq_ok secondRead, same]

/-- Entries about one setting have keys that mean the same. -/
theorem normalKey_eq_of_key?_eq {first second : String × Toml.Value} {made changed : Change}
    (same : made.key? = changed.key?) (known : made ≠ .ignored)
    (firstRead : changeOf first = .ok made) (secondRead : changeOf second = .ok changed) :
    normalKey first.1 = normalKey second.1 := by
  have present : made.key? ≠ none := fun absent => known (Change.key?_eq_none_iff.mp absent)
  have firstKey := key?_of_changeOf_eq_ok firstRead
  have secondKey := key?_of_changeOf_eq_ok secondRead
  split at firstKey
  · split at secondKey
    · rw [firstKey, secondKey] at same
      exact Option.some.inj same
    · exact absurd (same.trans secondKey) present
  · exact absurd firstKey present

/-- The change that an entry asks for, or none if its value is of the wrong type. -/
def requested (entry : String × Toml.Value) : Change :=
  match changeOf entry with
  | .ok change => change
  | .error _ => .ignored

/-- An entry with a value of the right type makes the change that it asks for. -/
theorem changeOf_eq_ok_requested (wellTyped : ¬IsIllTyped entry) :
    changeOf entry = .ok (requested entry) := by
  cases read : changeOf entry with
  | error fault => exact absurd ⟨fault, read⟩ wellTyped
  | ok change => simp only [requested, read]

/-- Taking up entries without a fault makes all their changes in turn. -/
theorem foldlM_takeEntry_of_wellTyped (wellTyped : ∀ entry ∈ entries, ¬IsIllTyped entry)
    (settings : Settings) :
    entries.foldlM takeEntry settings =
      .ok (entries.foldl (fun settings entry => settings.apply (requested entry)) settings) := by
  induction entries generalizing settings with
  | nil => rfl
  | cons entry rest inductionHypothesis =>
    have read := changeOf_eq_ok_requested (wellTyped entry List.mem_cons_self)
    have taken : takeEntry settings entry = .ok (settings.apply (requested entry)) := by
      rw [takeEntry, read]
      rfl
    rw [List.foldlM_cons, taken, List.foldl_cons]
    exact inductionHypothesis (fun later mem => wellTyped later (List.mem_cons_of_mem entry mem)) _

/-- One ill-typed entry is enough for a fault, wherever it stands. -/
theorem exists_foldlM_takeEntry_error (illTyped : ∃ entry ∈ entries, IsIllTyped entry)
    (settings : Settings) : ∃ fault, entries.foldlM takeEntry settings = .error fault := by
  induction entries generalizing settings with
  | nil => simp at illTyped
  | cons entry rest inductionHypothesis =>
    rw [List.foldlM_cons]
    cases read : changeOf entry with
    | error fault => exact ⟨fault, by simp only [takeEntry, read]; rfl⟩
    | ok change =>
      have taken : takeEntry settings entry = .ok (settings.apply change) := by
        rw [takeEntry, read]
        rfl
      obtain ⟨bad, mem, fault, unread⟩ := illTyped
      rcases List.mem_cons.mp mem with rfl | later
      · rw [read] at unread
        cases unread
      · rw [taken]
        exact inductionHypothesis ⟨bad, later, fault, unread⟩ _

/-- Consistent entries without a fault make the same settings in any order. -/
theorem Consistent.foldl_apply_eq (consistent : Consistent entries)
    (wellTyped : ∀ entry ∈ entries, ¬IsIllTyped entry) (reordered : entries.Perm others)
    (settings : Settings) :
    entries.foldl (fun settings entry => settings.apply (requested entry)) settings =
      others.foldl (fun settings entry => settings.apply (requested entry)) settings := by
  apply reordered.foldl_eq'
  intro first firstMem second secondMem current
  have firstRead := changeOf_eq_ok_requested (wellTyped first firstMem)
  have secondRead := changeOf_eq_ok_requested (wellTyped second secondMem)
  apply apply_comm
  intro same
  by_cases known : requested first = .ignored
  · have absent : (requested second).key? = none := same ▸ Change.key?_eq_none_iff.mpr known
    rw [known, Change.key?_eq_none_iff.mp absent]
  · have keys := normalKey_eq_of_key?_eq same known firstRead secondRead
    have changes := consistent first firstMem second secondMem keys
    rw [firstRead, secondRead] at changes
    exact Except.ok.inj changes

/-- If the order does not matter, the settings show what each entry asks for, since each entry might
come last. -/
theorem OrderIndependent.apply_requested_eq (independent : OrderIndependent entries)
    (wellTyped : ∀ entry ∈ entries, ¬IsIllTyped entry) {settings : Settings}
    (loaded : ofEntries entries = .ok settings) (mem : entry ∈ entries) :
    settings.apply (requested entry) = settings := by
  obtain ⟨before, after, rfl⟩ := List.append_of_mem mem
  have moved : (before ++ entry :: after).Perm (before ++ after ++ [entry]) :=
    List.perm_middle.trans (List.perm_append_singleton _ _).symm
  have agree := independent _ moved
  have lastTaken : ofEntries (before ++ after ++ [entry]) =
      .ok (((before ++ after).foldl
        (fun (settings : Settings) entry => settings.apply (requested entry)) {}).apply
        (requested entry)) := by
    rw [ofEntries, foldlM_takeEntry_of_wellTyped
      fun other found => wellTyped other (moved.mem_iff.mpr found), List.foldl_append]
    rfl
  rw [loaded, lastTaken] at agree
  rw [show settings = _ from agree, apply_apply_self]

end Entries

/-- The order of entries does not matter exactly if one of them has a value of the wrong type, so
that every order is refused, or entries whose keys mean the same ask for the same change. -/
theorem orderIndependent_iff (entries : List (String × Toml.Value)) :
    OrderIndependent entries ↔
      (∃ entry ∈ entries, IsIllTyped entry) ∨ Consistent entries := by
  by_cases illTyped : ∃ entry ∈ entries, IsIllTyped entry
  · refine ⟨fun _ => Or.inl illTyped, fun _ others reordered => ?_⟩
    obtain ⟨fault, refused⟩ := exists_foldlM_takeEntry_error illTyped {}
    obtain ⟨entry, mem, bad⟩ := illTyped
    obtain ⟨other, otherRefused⟩ :=
      exists_foldlM_takeEntry_error ⟨entry, reordered.mem_iff.mp mem, bad⟩ {}
    rw [ofEntries, ofEntries, refused, otherRefused]
    trivial
  · have wellTyped : ∀ entry ∈ entries, ¬IsIllTyped entry :=
      fun entry mem bad => illTyped ⟨entry, mem, bad⟩
    have loaded : ofEntries entries = .ok _ := foldlM_takeEntry_of_wellTyped wellTyped {}
    constructor
    · intro independent
      refine Or.inr fun first firstMem second secondMem same => ?_
      have firstRead := changeOf_eq_ok_requested (wellTyped first firstMem)
      have secondRead := changeOf_eq_ok_requested (wellTyped second secondMem)
      have changes : requested first = requested second :=
        change_eq_of_apply_eq_self (independent.apply_requested_eq wellTyped loaded firstMem)
          (independent.apply_requested_eq wellTyped loaded secondMem)
          (key?_eq_of_normalKey_eq same firstRead secondRead)
      rw [firstRead, secondRead, changes]
    · rintro (bad | consistent) others reordered
      · exact absurd bad illTyped
      · have otherLoaded : ofEntries others = .ok _ := foldlM_takeEntry_of_wellTyped
          (fun entry mem => wellTyped entry (reordered.mem_iff.mpr mem)) {}
        rw [loaded, otherLoaded]
        exact consistent.foldl_apply_eq wellTyped reordered {}

/-- Every spelling of its key sets the least compiler version. -/
theorem takeEntry_minimumVersion {settings : Settings} {key text : String}
    (known : normalKey key = "min_compiler_version") :
    takeEntry settings (key, .string text) = .ok { settings with minimumVersion := text } := by
  simp [takeEntry, changeOf, known, textValue, Except.map, apply]

/-- Four spellings of one key are different keys of a table. With two values among them, the order
in which they come decides. -/
theorem not_orderIndependent_spellings :
    let entries : List (String × Toml.Value) := [("min-compiler-version", .string "0.4.0"),
      ("min-compiler_version", .string "0.6.0"), ("min_compiler-version", .string "0.6.0"),
      ("min_compiler_version", .string "0.6.0")]
    (entries.map Prod.fst).Nodup ∧ ofEntries entries = .ok { minimumVersion := "0.6.0" } ∧
      ofEntries entries.reverse = .ok { minimumVersion := "0.4.0" } ∧
      ¬OrderIndependent entries := by
  intro entries
  have known : normalKey "min-compiler-version" = "min_compiler_version" ∧
      normalKey "min-compiler_version" = "min_compiler_version" ∧
      normalKey "min_compiler-version" = "min_compiler_version" ∧
      normalKey "min_compiler_version" = "min_compiler_version" := by
    decide +kernel
  have forward : ofEntries entries = .ok { minimumVersion := "0.6.0" } := by
    simp only [entries, ofEntries, List.foldlM_cons, List.foldlM_nil, takeEntry_minimumVersion,
      known]
    rfl
  have backward : ofEntries entries.reverse = .ok { minimumVersion := "0.4.0" } := by
    simp only [entries, ofEntries, List.reverse_cons, List.reverse_nil, List.nil_append,
      List.cons_append, List.foldlM_cons, List.foldlM_nil, takeEntry_minimumVersion, known]
    rfl
  refine ⟨by decide, forward, backward, ?_⟩
  intro independent
  have agree := independent entries.reverse (List.reverse_perm entries).symm
  rw [forward, backward] at agree
  have versions : "0.6.0" = "0.4.0" := congrArg Settings.minimumVersion agree
  revert versions
  decide

end SourceTrace.Settings
