import SourceTrace.Proofs.Settings.Acceptance
import SourceTrace.Proofs.Settings.Fallback

/-!
# Precedence of settings

Arguments are laid over a settings file. `Reflects` says that settings hold what parts of the
arguments asked for and defaults for the rest; each part that is taken up keeps this. Laying such
settings over those of a file gives `Layered` settings: an option that the arguments give has its
value from them, and any other option falls back on the file. `arguments_over_file` states this of
all arguments that are accepted and all files that load.

Laying over compares with defaults, so an empty contract name and the default version count as not
given; `given_default_yields_to_file` is a case where the file wins over such a value.
-/

namespace SourceTrace

namespace Settings

section Overlay

variable {given file : Settings} {flag : Flag}

/-- An option that has its default has the value of the file below. -/
theorem valueOf?_overlay_of_default (default : given.valueOf? flag = ({} : Settings).valueOf? flag)
    (fileRoot : file.valueOf? (.valued .root) = ({} : Settings).valueOf? (.valued .root)) :
    (given.overlay file).valueOf? flag = file.valueOf? flag := by
  cases flag using Flag.casesByName <;>
    simp_all [valueOf?, overlay, ← UInt8.toNat_inj]

/-- An option that has another value than its default keeps it. -/
theorem valueOf?_overlay_of_ne (changed : given.valueOf? flag ≠ ({} : Settings).valueOf? flag) :
    (given.overlay file).valueOf? flag = given.valueOf? flag := by
  cases flag using Flag.casesByName <;>
    simp_all [valueOf?, overlay, ← UInt8.toNat_inj, Option.or_of_isSome,
      Option.isSome_iff_ne_none]

end Overlay

end Settings

namespace Arguments

/-- The option that a part of the arguments is about. -/
def Item.flag? : Item → Option Flag
  | .value option _ => some (.valued option)
  | .switch which => some (.switch which)
  | .verbose => some .verbose
  | .address _ => none

/-- The address that a part of the arguments is. -/
def Item.address? : Item → Option String
  | .address text => some text
  | _ => none

section Frames

variable {settings : Settings}

/-- An option that is set to a value has it, and all others stay as they are. -/
theorem valueOf?_setValue (text : String) (option : ValuedOption) (flag : Flag) :
    (setValue settings text option).valueOf? flag =
      if flag = .valued option then some (.string text) else settings.valueOf? flag := by
  cases option <;>
    cases flag using Flag.casesByName <;> rfl

/-- A switch that is set is on, and all other options stay as they are. -/
theorem valueOf?_setSwitch (which : Switch) (flag : Flag) :
    (setSwitch settings which).valueOf? flag =
      if flag = .switch which then some (.boolean true) else settings.valueOf? flag := by
  cases which <;>
    cases flag using Flag.casesByName <;> rfl

/-- Setting an option keeps the addresses. -/
theorem setValue_addresses (text : String) (option : ValuedOption) :
    (setValue settings text option).addresses = settings.addresses := by
  cases option <;> rfl

/-- Setting an option keeps the verbosity. -/
theorem setValue_verbose (text : String) (option : ValuedOption) :
    (setValue settings text option).verbose = settings.verbose := by
  cases option <;> rfl

/-- Setting a switch keeps the addresses. -/
theorem setSwitch_addresses (which : Switch) :
    (setSwitch settings which).addresses = settings.addresses := by
  cases which <;> rfl

/-- Setting a switch keeps the verbosity. -/
theorem setSwitch_verbose (which : Switch) :
    (setSwitch settings which).verbose = settings.verbose := by
  cases which <;> rfl

/-- A change of the verbosity keeps all other options. -/
theorem valueOf?_of_verbose_change (count : UInt8) {flag : Flag} (other : flag ≠ .verbose) :
    Settings.valueOf? { settings with verbose := count } flag = settings.valueOf? flag := by
  cases flag using Flag.casesByName <;>
    first | rfl | exact absurd rfl other

/-- The number of verbosity flags is never above its bound. -/
theorem toNat_eq_min (count : UInt8) : count.toNat = min count.toNat 255 := by
  have small := count.toNat_lt
  omega

/-- The number of verbosity flags stops at its bound. -/
theorem toNat_increase (count : UInt8) :
    (if count = 255 then 255 else count + 1).toNat = min (count.toNat + 1) 255 := by
  split
  · rename_i full
    rw [full]
    rfl
  · rename_i room
    have below : count.toNat ≠ 255 := fun full => room (UInt8.toNat_inj.mp full)
    have small := count.toNat_lt
    rw [UInt8.toNat_add]
    change (count.toNat + 1) % 256 = _
    omega

end Frames

/-- What taking up one part of the arguments does: an option has its value, everything else is as it
was, and an option that had a value is not given another. -/
structure Takes (arguments : Arguments) (item : Item) (next : Arguments) : Prop where
  addresses : next.settings.addresses = arguments.settings.addresses ++ item.address?.toList
  frame : ∀ flag, item.flag? ≠ some flag →
    next.settings.valueOf? flag = arguments.settings.valueOf? flag
  kept : arguments.values ⊆ next.values
  value : ∀ option text, item = .value option text →
    option ∉ arguments.values ∧ option ∈ next.values ∧
      next.settings.valueOf? (.valued option) = some (.string text)
  switch : ∀ which, item = .switch which →
    next.settings.valueOf? (.switch which) = some (.boolean true)
  verbose : next.settings.verbose.toNat =
    min (arguments.settings.verbose.toNat + [item].count .verbose) 255

section Takes

variable {arguments next : Arguments}

/-- What taking up an option with its value does. -/
theorem takes_value {option : ValuedOption} (text : String) (fresh : option ∉ arguments.values) :
    arguments.Takes (.value option text) { arguments with
      settings := setValue arguments.settings text option
      values := option :: arguments.values
      pending := none } where
  addresses := by simp [setValue_addresses, Item.address?]
  frame := by
    intro flag other
    rw [valueOf?_setValue]
    exact if_neg fun same => other (congrArg some same.symm)
  kept := List.subset_cons_self _ _
  value := by
    rintro _ _ ⟨⟩
    refine ⟨fresh, List.mem_cons_self, ?_⟩
    rw [valueOf?_setValue]
    exact if_pos rfl
  switch := by rintro _ ⟨⟩
  verbose := by
    rw [setValue_verbose]
    exact toNat_eq_min _

/-- What taking up a switch does. -/
theorem takes_switch (which : Switch) :
    arguments.Takes (.switch which) { arguments with
      settings := setSwitch arguments.settings which
      switches := which :: arguments.switches } where
  addresses := by simp [setSwitch_addresses, Item.address?]
  frame := by
    intro flag other
    rw [valueOf?_setSwitch]
    exact if_neg fun same => other (congrArg some same.symm)
  kept := List.Subset.refl _
  value := by rintro _ _ ⟨⟩
  switch := by
    rintro _ ⟨⟩
    rw [valueOf?_setSwitch]
    exact if_pos rfl
  verbose := by
    rw [setSwitch_verbose]
    exact toNat_eq_min _

/-- What taking up a verbosity flag does. -/
theorem takes_verbose (taken : arguments.takePlain .verbose = .ok next) :
    arguments.Takes .verbose next := by
  obtain rfl := Except.ok.inj taken
  exact {
    addresses := by simp [Item.address?]
    frame := fun flag other =>
      valueOf?_of_verbose_change _ fun same => other (congrArg some same.symm)
    kept := List.Subset.refl _
    value := by rintro _ _ ⟨⟩
    switch := by rintro _ ⟨⟩
    verbose := toNat_increase _ }

/-- What taking up an address does. -/
theorem takes_address (text : String) :
    arguments.Takes (.address text) { arguments with
      settings := { arguments.settings with
        addresses := arguments.settings.addresses ++ [text] } } where
  addresses := rfl
  frame := by
    intro flag _
    cases flag using Flag.casesByName <;> rfl
  kept := List.Subset.refl _
  value := by rintro _ _ ⟨⟩
  switch := by rintro _ ⟨⟩
  verbose := toNat_eq_min _

/-- Whatever part of the arguments is taken up does what it should. -/
theorem takes_of_takeItem {item : Item} (taken : arguments.takeItem item = .ok next) :
    arguments.Takes item next := by
  cases item with
  | value option text =>
    simp only [takeItem, takeValue] at taken
    split at taken
    · cases taken
    · rename_i fresh
      split at taken
      · cases taken
      · obtain rfl := Except.ok.inj taken
        exact takes_value text fun known => fresh (List.contains_iff_mem.mpr known)
  | switch which =>
    simp only [takeItem, takePlain] at taken
    split at taken
    · cases taken
    · obtain rfl := Except.ok.inj taken
      exact takes_switch which
  | verbose => exact takes_verbose taken
  | address text =>
    obtain rfl := Except.ok.inj taken
    exact takes_address text

end Takes

/-- Arguments hold what their parts asked for, and defaults for the rest. -/
structure Reflects (items : List Item) (arguments : Arguments) : Prop where
  addresses : arguments.settings.addresses = items.filterMap Item.address?
  values : ∀ option text, .value option text ∈ items →
    option ∈ arguments.values ∧
      arguments.settings.valueOf? (.valued option) = some (.string text)
  switches : ∀ which, .switch which ∈ items →
    arguments.settings.valueOf? (.switch which) = some (.boolean true)
  verbose : arguments.settings.verbose.toNat = min (items.count .verbose) 255
  others : ∀ flag, (∀ item ∈ items, item.flag? ≠ some flag) →
    arguments.settings.valueOf? flag = ({} : Settings).valueOf? flag

namespace Reflects

variable {items more : List Item} {arguments next : Arguments}

/-- What arguments hold is kept when one more part is taken up. -/
theorem step {item : Item} (reflects : Reflects items arguments)
    (takes : arguments.Takes item next) :
    Reflects (items ++ [item]) next where
  addresses := by
    rw [takes.addresses, reflects.addresses, List.filterMap_append]
    cases item <;> rfl
  values := by
    intro option text member
    obtain earlier | last := List.mem_append.mp member
    · obtain ⟨known, holds⟩ := reflects.values option text earlier
      -- A second value for an option would have been refused.
      have other : item.flag? ≠ some (.valued option) := by
        intro same
        cases item with
        | value again text =>
          cases same
          exact (takes.value _ _ rfl).1 known
        | _ => cases same
      exact ⟨takes.kept known, (takes.frame _ other).trans holds⟩
    · exact (takes.value option text (List.mem_singleton.mp last).symm).2
  switches := by
    intro which member
    by_cases own : item.flag? = some (.switch which)
    · cases item with
      | switch again =>
        cases own
        exact takes.switch which rfl
      | _ => cases own
    · rw [takes.frame _ own]
      obtain earlier | last := List.mem_append.mp member
      · exact reflects.switches which earlier
      · exact absurd (congrArg Item.flag? (List.mem_singleton.mp last).symm) own
  verbose := by
    have before := reflects.verbose
    rw [takes.verbose, before, List.count_append]
    omega
  others := by
    intro flag absent
    have other : item.flag? ≠ some flag := absent item (by simp)
    rw [takes.frame flag other]
    exact reflects.others flag fun item member => absent item (List.mem_append_left _ member)

/-- Before any part is taken up, everything has its default. -/
theorem start : Reflects [] {} where
  addresses := rfl
  values := fun _ _ member => absurd member List.not_mem_nil
  switches := fun _ member => absurd member List.not_mem_nil
  verbose := rfl
  others := fun _ _ => rfl

/-- What arguments hold is kept when more parts are taken up. -/
theorem run (reflects : Reflects items arguments)
    (taken : more.foldlM takeItem arguments = .ok next) :
    Reflects (items ++ more) next :=
  foldlM_invariant Reflects (fun _ _ _ _ holds first => holds.step (takes_of_takeItem first))
    items reflects taken

end Reflects

/-- A value counts as given unless it is one that stands for the lack of a value: an empty contract
name, or the version that is the default. -/
def CountsAsGiven : ValuedOption → String → Prop
  | .contract, text => text ≠ ""
  | .minimumVersion, text => text ≠ defaultMinimumVersion
  | _, _ => True

/-- A part of the arguments gives an option. -/
def Item.Gives (flag : Flag) : Item → Prop
  | .value option text => .valued option = flag ∧ CountsAsGiven option text
  | item => item.flag? = some flag

end Arguments

namespace Settings

open Arguments

/-- Settings in which what arguments ask for is laid over a table: each option that is given has its
value from the arguments, and each other option falls back on the table. -/
structure Layered (items : List Item) (table : List (String × Toml.Value)) (settings : Settings) :
    Prop where
  /-- The addresses are those of the arguments. -/
  addresses : settings.addresses = items.filterMap Item.address?
  /-- An option with a value that counts as given has that value. -/
  values : ∀ option text, .value option text ∈ items → CountsAsGiven option text →
    settings.valueOf? (.valued option) = some (.string text)
  /-- A switch that is given is on. -/
  switches : ∀ which, .switch which ∈ items →
    settings.valueOf? (.switch which) = some (.boolean true)
  /-- The verbosity flags that are given are counted, up to 255. -/
  verbose : .verbose ∈ items → settings.verbose.toNat = min (items.count .verbose) 255
  /-- An option that is not given falls back on the table. -/
  others : ∀ flag, (∀ item ∈ items, ¬item.Gives flag) → settings.FallsBack table flag

section Layers

variable {items : List Item} {arguments : Arguments} {file : Settings}

/-- An option that no part gives has its default. -/
theorem valueOf?_of_not_gives (reflects : Reflects items arguments) {flag : Flag}
    (absent : ∀ item ∈ items, ¬item.Gives flag) :
    arguments.settings.valueOf? flag = ({} : Settings).valueOf? flag := by
  by_cases mentioned : ∃ item ∈ items, item.flag? = some flag
  · obtain ⟨item, member, about⟩ := mentioned
    cases item with
    | value option text =>
      cases about
      have uncounted : ¬CountsAsGiven option text :=
        fun counts => absent _ member ⟨rfl, counts⟩
      rw [(reflects.values option text member).2]
      cases option with
      | contract | minimumVersion =>
        rw [not_not.mp uncounted]
        rfl
      | _ => exact absurd trivial uncounted
    | _ => exact absurd about (absent _ member)
  · exact reflects.others flag fun item member about => mentioned ⟨item, member, about⟩

/-- A table cannot set the root. -/
theorem valueOf?_root {table : List (String × Toml.Value)}
    (fallsBack : file.FallsBack table (.valued .root)) :
    file.valueOf? (.valued .root) = ({} : Settings).valueOf? (.valued .root) := by
  obtain ⟨entry, -, own, -⟩ | ⟨-, default⟩ := fallsBack
  · cases own
  · exact default

/-- A value that counts as given is the value after the overlay. -/
theorem valueOf?_overlay_of_counts {given : Settings} {option : ValuedOption} {text : String}
    (value : given.valueOf? (.valued option) = some (.string text))
    (counts : CountsAsGiven option text) :
    (given.overlay file).valueOf? (.valued option) = some (.string text) := by
  cases option with
  -- The root is never taken from the file, so its default needs no exception.
  | root => exact value
  | _ =>
    refine (valueOf?_overlay_of_ne ?_).trans value
    rw [value]
    simp_all [valueOf?, CountsAsGiven]

/-- Settings that hold what arguments asked for give layered settings when they are laid over a
file. -/
theorem layered_overlay {table : List (String × Toml.Value)} (reflects : Reflects items arguments)
    (present : arguments.settings.addresses ≠ [])
    (fallsBack : ∀ flag, file.FallsBack table flag) :
    Layered items table (arguments.settings.overlay file) where
  addresses := by
    rw [← reflects.addresses]
    exact if_neg (by simpa using present)
  values := fun option text member counts =>
    valueOf?_overlay_of_counts (reflects.values option text member).2 counts
  switches := by
    intro which member
    have on := reflects.switches which member
    refine (valueOf?_overlay_of_ne ?_).trans on
    rw [on]
    cases which <;> simp [valueOf?]
  verbose := by
    intro member
    have counted := reflects.verbose
    have positive : 0 < items.count .verbose := List.count_pos_iff.mpr member
    have some : arguments.settings.verbose ≠ 0 := by
      intro none
      rw [none] at counted
      change 0 = _ at counted
      omega
    exact (congrArg UInt8.toNat (if_neg some)).trans counted
  others := by
    intro flag absent
    have default := valueOf?_of_not_gives reflects absent
    have same := valueOf?_overlay_of_default default (valueOf?_root (fallsBack _))
    unfold FallsBack
    rw [same]
    exact fallsBack flag

end Layers

/-- Arguments are laid over the settings file. Whatever arguments are accepted and whatever file
loads, the settings are loaded, and an option that the arguments give has its value from them; any
other option has the value of the file, or its default if the file does not set it. -/
theorem arguments_over_file {texts : List String} {files : Files} {given file : Settings}
    {path : String} (accepted : Arguments.parse texts = .ok given)
    (named : given.filePath? files = some path) (loaded : ofFile files path = .ok file) :
    (∃ items, Reads texts items) ∧
      ∃ merged text root, given.withFile files = .ok merged ∧
      (files path).readText = .ok text ∧
        Toml.parse? text = some root ∧
        ∀ items, Reads texts items → Layered items (tableOf root) merged := by
  obtain ⟨readable, read⟩ := reads_of_parse accepted
  obtain ⟨text, root, content, parsed, fallsBack⟩ := fallsBack_of_ofFile loaded
  have merged : given.withFile files = .ok (given.overlay file) := by
    simp only [withFile, named, loaded]
  refine ⟨readable, given.overlay file, text, root, merged, content, parsed,
    fun items reads => ?_⟩
  obtain ⟨last, asked, rfl⟩ := read items reads
  have reflects : Reflects items last := Reflects.start.run asked
  exact layered_overlay reflects (run_of_parse accepted).2 fallsBack

/-- A directory with a settings file that sets the least compiler version. -/
def versionFiles : FileTree :=
  .ofList [("solmap.toml", Text.bytes "[global]\nmin-compiler-version = \"0.6.0\"\n")]

/-- Arguments that give the least compiler version as it is by default. -/
def versionArguments : List String :=
  ["10", "-o", "out.json", "-c", "A", "--min-compiler-version", "0.5.17"]

/-- What these arguments give. -/
def versionGiven : Settings where
  addresses := ["10"]
  compilerOutput := some "out.json"
  contract := "A"

/-- An outcome with a value is a success. -/
theorem ok_of_toOption {ε α : Type} {outcome : Except ε α} {value : α}
    (succeeds : outcome.toOption = some value) : outcome = .ok value := by
  cases outcome with
  | error error => cases succeeds
  | ok found => exact congrArg Except.ok (Option.some.inj succeeds)

/-- The arguments are accepted. -/
theorem parse_versionArguments :
    Arguments.parse versionArguments = .ok versionGiven :=
  ok_of_toOption (by decide +kernel)

/-- The settings file loads. -/
theorem ofFile_versionFiles :
    ofFile versionFiles.entry "./solmap.toml" = .ok { minimumVersion := "0.6.0" } :=
  ok_of_toOption (by decide +kernel)

/-- The arguments read as an address and three options. -/
theorem reads_versionArguments :
    Reads versionArguments [.address "10", .value .compilerOutput "out.json", .value .contract "A",
      .value .minimumVersion "0.5.17"] := by
  have output : Spells "-o" [] (some .compilerOutput) :=
    .letters (by simp) (.valued (by decide))
  have contract : Spells "-c" [] (some .contract) :=
    .letters (by simp) (.valued (by decide))
  have version : Spells ("--" ++ "min-compiler-version") [] (some .minimumVersion) :=
    .valued (by decide)
  refine .argument (.address (.inr (by decide))) ?_
  refine .withValue output (.inr (by decide)) ?_
  refine .withValue contract (.inr (by decide)) ?_
  exact .withValue version (.inr (by decide)) .nil

/-- A contract name is taken from the arguments, and a version that is the default is not. -/
theorem arguments_over_file_default_version :
    ∃ merged text root, Arguments.parse versionArguments = .ok versionGiven ∧
      versionGiven.withFile versionFiles.entry = .ok merged ∧
      (versionFiles.entry "./solmap.toml").readText = .ok text ∧ Toml.parse? text = some root ∧
      merged.valueOf? (.valued .contract) = some (.string "A") ∧
      merged.FallsBack (tableOf root) (.valued .minimumVersion) := by
  obtain ⟨-, merged, text, root, laid, content, parsed, layered⟩ :=
    arguments_over_file parse_versionArguments (by decide +kernel) ofFile_versionFiles
  have layered := layered _ reads_versionArguments
  refine ⟨merged, text, root, parse_versionArguments, laid, content, parsed, ?_, ?_⟩
  · exact layered.values .contract "A" (by simp) (by simp [CountsAsGiven])
  · refine layered.others _ fun item member gives => ?_
    simp only [List.mem_cons, List.not_mem_nil, or_false] at member
    obtain rfl | rfl | rfl | rfl := member
    · cases gives
    · cases gives.1
    · cases gives.1
    · exact gives.2 rfl

/-- A value that is given as it is by default does not stand against the file. -/
theorem given_default_yields_to_file :
    Reads versionArguments [.address "10", .value .compilerOutput "out.json", .value .contract "A",
        .value .minimumVersion "0.5.17"] ∧
      Arguments.parse versionArguments = .ok versionGiven ∧
      ∃ merged, versionGiven.withFile versionFiles.entry = .ok merged ∧
        merged.valueOf? (.valued .minimumVersion) = some (.string "0.6.0") := by
  refine ⟨reads_versionArguments, parse_versionArguments,
    { versionGiven with minimumVersion := "0.6.0" }, ?_, rfl⟩
  exact ok_of_toOption (by decide +kernel)

end Settings

end SourceTrace
