import SourceTrace.Proofs.Settings.Grammar

/-!
# Accepted arguments

Every list of arguments that is accepted can be read by the grammar: whatever is taken up without an
error is an address, a known option or a group of known letters, and an option that still waits for
its value lets nothing pass but that value. With what reading does, `reads_of_parse` ties the
settings that arguments give to what the arguments ask for.
-/

namespace SourceTrace.Arguments

section Acceptance

variable {arguments next : Arguments}

/-- The shapes that an argument may have. -/
theorem shape (argument : String) :
    argument = "--" ∨ IsPlain argument ∨
      (∃ chars, chars ≠ [] ∧ argument.toList = '-' :: '-' :: chars) ∨
      ∃ letter rest, letter ≠ '-' ∧ argument.toList = '-' :: letter :: rest := by
  by_cases plain : IsPlain argument
  · exact .inr (.inl plain)
  · obtain ⟨noDash, dash⟩ := not_or.mp plain
    obtain ⟨chars, spelled⟩ : ∃ chars, argument.toList = '-' :: chars :=
      List.head?_eq_some_iff.mp (not_not.mp dash)
    cases chars with
    | nil => exact absurd (String.toList_inj.mp spelled) noDash
    | cons letter rest =>
      by_cases second : letter = '-'
      · subst second
        cases rest with
        | nil => exact .inl (String.toList_inj.mp spelled)
        | cons first rest => exact .inr (.inr (.inl ⟨first :: rest, by simp, spelled⟩))
      · exact .inr (.inr (.inr ⟨letter, rest, second, spelled⟩))

/-- What is found under a key is an entry. -/
theorem mem_of_lookup {α : Type} [BEq α] [LawfulBEq α] {entries : List (α × Flag)} {key : α}
    {flag : Flag} (found : entries.lookup key = some flag) : (key, flag) ∈ entries := by
  obtain ⟨before, behind, rfl, -⟩ := List.lookup_eq_some_iff.mp found
  exact List.mem_append_right _ List.mem_cons_self

/-- Of the options without a value, those that are taken up ask for something. -/
theorem asks_of_takeOption {flag : Flag} (unvalued : ¬∃ option, flag = .valued option)
    (taken : arguments.takeOption flag none = .ok next) :
    ∃ item, Item.ofFlag? flag = some item := by
  cases flag with
  | valued option => exact absurd ⟨option, rfl⟩ unvalued
  | switch which => exact ⟨_, rfl⟩
  | verbose => exact ⟨_, rfl⟩
  | help | version =>
    obtain ⟨between, -, refused⟩ := exists_of_bind taken
    cases refused

/-- Letters that are accepted spell items. -/
theorem exists_letters {letters : List Char} (taken : arguments.takeLetters letters = .ok next) :
    ∃ items waiting, Letters letters items waiting := by
  induction letters generalizing arguments with
  | nil => exact ⟨[], none, .done⟩
  | cons letter letters inductionHypothesis =>
    cases found : Flag.letters.lookup letter with
    | none =>
      unfold takeLetters at taken
      rw [found] at taken
      cases taken
    | some flag =>
      have known := mem_of_lookup found
      obtain ⟨option, rfl⟩ | unvalued := Classical.em (∃ option, flag = .valued option)
      · cases letters with
        | nil => exact ⟨_, _, .valued known⟩
        | cons first rest =>
          by_cases sign : first = '='
          · subst sign
            exact ⟨_, _, .assigned known⟩
          · exact ⟨_, _, .attached known sign⟩
      · rw [takeLetters_unvalued known unvalued] at taken
        obtain ⟨between, first, rest⟩ := exists_of_bind taken
        obtain ⟨item, asks⟩ := asks_of_takeOption unvalued first
        obtain ⟨items, waiting, later⟩ := inductionHypothesis rest
        exact ⟨_, _, .plain known asks later⟩

/-- Characters are a name with what follows it. -/
theorem exists_name (chars : List Char) :
    ∃ name attached, '=' ∉ name.toList ∧
      chars = String.toList name ++ assignment attached := by
  induction chars with
  | nil => exact ⟨"", none, by simp, rfl⟩
  | cons first rest inductionHypothesis =>
    by_cases sign : first = '='
    · exact ⟨"", some (String.ofList rest), by simp, by simp [assignment, sign]⟩
    · obtain ⟨name, attached, noSign, rfl⟩ := inductionHypothesis
      refine ⟨String.ofList (first :: name.toList), attached, ?_, by simp⟩
      simpa [eq_comm] using ⟨sign, noSign⟩

/-- The name of an option that is accepted spells an item. -/
theorem exists_spells_of_name {name argument : String} {flag : Flag} {attached : Option String}
    (known : (name, flag) ∈ Flag.names)
    (spelled : argument.toList = '-' :: '-' :: (name.toList ++ assignment attached))
    (taken : arguments.takeOption flag attached = .ok next) :
    ∃ items waiting, Spells argument items waiting := by
  cases attached with
  | none =>
    have whole : argument = "--" ++ name := String.toList_inj.mp (by simp [spelled, assignment])
    rw [whole]
    obtain ⟨option, rfl⟩ | unvalued := Classical.em (∃ option, flag = .valued option)
    · exact ⟨_, _, .valued known⟩
    · obtain ⟨item, asks⟩ := asks_of_takeOption unvalued taken
      exact ⟨_, _, .plain known asks⟩
  | some text =>
    have whole : argument = "--" ++ name ++ "=" ++ text :=
      String.toList_inj.mp (by simp [spelled, assignment])
    rw [whole]
    cases flag with
    | valued option => exact ⟨_, _, .assigned known⟩
    | switch which | verbose | help | version => cases taken

/-- An argument that is accepted spells items, unless it is a double dash. -/
theorem exists_spells {argument : String} (before : arguments.onlyAddresses = false)
    (taken : arguments.take argument = .ok next) :
    argument = "--" ∨ ∃ items waiting, Spells argument items waiting := by
  obtain dashes | plain | ⟨chars, present, spelled⟩ | ⟨letter, rest, other, spelled⟩ :=
    shape argument
  · exact .inl dashes
  · exact .inr ⟨_, _, .address plain⟩
  · rw [take_of_long spelled present before] at taken
    obtain ⟨name, attached, noSign, rfl⟩ := exists_name chars
    cases found : Flag.names.lookup name with
    | none =>
      rw [takeLong_unknown noSign attached found] at taken
      cases taken
    | some flag =>
      rw [takeLong_known noSign attached found] at taken
      exact .inr (exists_spells_of_name (mem_of_lookup found) spelled taken)
  · rw [take_of_letters spelled other before] at taken
    obtain ⟨items, waiting, read⟩ := exists_letters taken
    have whole : argument = String.ofList ('-' :: letter :: rest) := by
      rw [← spelled, String.ofList_toList]
    rw [whole]
    exact .inr ⟨items, waiting, .letters (by simp) read⟩

section Waiting

variable {option : ValuedOption}

/-- An option that still waits for its value is refused. -/
theorem settle_of_waiting (waits : arguments.pending = some (option, none)) :
    arguments.settle = .error .invalidValue := by
  rw [settle, waits]

/-- An option cannot be the value of another. -/
theorem plain_of_take {argument : String} (waits : arguments.pending = some (option, none))
    (before : arguments.onlyAddresses = false) (taken : arguments.take argument = .ok next) :
    argument = "--" ∨ IsPlain argument := by
  obtain dashes | ⟨items, waiting, spells⟩ := exists_spells before taken
  · exact .inl dashes
  · by_contra! noValue
    rw [take_of_spells spells before (absurd · noValue.2), takeItems, settle_of_waiting waits]
      at taken
    cases taken

/-- Behind a double dash it is too late for a value. -/
theorem not_accepted_behind {texts : List String} (waits : arguments.pending = some (option, none))
    (behind : arguments.onlyAddresses = true) :
    (texts.foldlM take arguments).bind settle ≠ .ok next := by
  intro accepted
  have settled := settings_of_addresses texts behind
  rw [accepted, settle_of_waiting waits] at settled
  cases settled

end Waiting

/-- Behind one argument that asks for something, only the option that it leaves is pending. -/
theorem pending_of_take {argument : String} {items : List Item} {waiting : Option ValuedOption}
    (spells : Spells argument items waiting) (before : arguments.onlyAddresses = false)
    (free : arguments.IsFree) (taken : arguments.take argument = .ok next) :
    next.pending = waiting.map (fun option => (option, none)) ∧ next.onlyAddresses = false := by
  rw [take_of_spells spells before (fun _ => free)] at taken
  cases asked : arguments.takeItems items with
  | error error =>
    rw [asked] at taken
    cases taken
  | ok settled =>
    rw [asked] at taken
    obtain rfl := Except.ok.inj taken
    exact ⟨rfl, (pending_of_takeItems asked).2.trans before⟩

/-- Arguments that are accepted can be read. Where an option still waits for its value, that value
comes first. -/
theorem exists_reads_of_accepted {texts : List String} (before : arguments.onlyAddresses = false)
    (accepted : (texts.foldlM take arguments).bind settle = .ok next) :
    (arguments.IsFree → ∃ items, Reads texts items) ∧
      ∀ option, arguments.pending = some (option, none) →
        ∃ value rest items, texts = value :: rest ∧ IsPlain value ∧ Reads rest items := by
  induction texts generalizing arguments with
  | nil =>
    refine ⟨fun _ => ⟨[], .nil⟩, fun option waits => ?_⟩
    have stuck : arguments.settle = .ok next := accepted
    rw [settle_of_waiting waits] at stuck
    cases stuck
  | cons text texts inductionHypothesis =>
    obtain ⟨last, run, settled⟩ := exists_of_bind accepted
    obtain ⟨between, taken, later⟩ := exists_of_bind (List.foldlM_cons.symm.trans run)
    have acceptedLater : (texts.foldlM take between).bind settle = .ok next := by
      rw [later]
      exact settled
    constructor
    · intro free
      obtain rfl | ⟨items, waiting, spells⟩ := exists_spells before taken
      · exact ⟨_, .addresses texts⟩
      · obtain ⟨pending, mode⟩ := pending_of_take spells before free taken
        obtain ⟨readFree, readWaiting⟩ := inductionHypothesis mode acceptedLater
        cases waiting with
        | none =>
          obtain ⟨more, reads⟩ := readFree (isFree_of_settled pending)
          exact ⟨_, .argument spells reads⟩
        | some option =>
          obtain ⟨value, rest, more, rfl, plain, reads⟩ := readWaiting option pending
          exact ⟨_, .withValue spells plain reads⟩
    · intro option waits
      obtain rfl | plain := plain_of_take waits before taken
      · rw [take_dashes before] at taken
        obtain rfl := Except.ok.inj taken
        exact absurd acceptedLater (not_accepted_behind waits rfl)
      · rw [take_of_plain plain before, takePlainText, waits] at taken
        have met := Except.ok.inj taken
        have mode : between.onlyAddresses = false := met ▸ before
        have free : between.IsFree := met ▸ isFree_of_met rfl
        obtain ⟨items, reads⟩ := (inductionHypothesis mode acceptedLater).1 free
        exact ⟨text, texts, items, rfl, plain, reads⟩

end Acceptance

/-- Arguments that are accepted were all taken up, and there is an address among them. -/
theorem run_of_parse {texts : List String} {given : Settings} (accepted : parse texts = .ok given) :
    (∃ last, (texts.foldlM take {}).bind settle = .ok last ∧ last.settings = given) ∧
      given.addresses ≠ [] := by
  unfold parse at accepted
  split at accepted
  · cases accepted
  · rename_i last run
    split at accepted
    · cases accepted
    · rename_i present
      obtain rfl := Except.ok.inj accepted
      exact ⟨⟨last, run, rfl⟩, fun none => present (List.isEmpty_iff.mpr none)⟩

/-- Arguments that are accepted can be read, and however they are read, the settings are those that
what they ask for gives. -/
theorem reads_of_parse {texts : List String} {given : Settings}
    (accepted : parse texts = .ok given) :
    (∃ items, Reads texts items) ∧
      ∀ items, Reads texts items →
        ∃ last : Arguments, items.foldlM takeItem {} = .ok last ∧ last.settings = given := by
  obtain ⟨⟨last, run, rfl⟩, -⟩ := run_of_parse accepted
  have free : IsFree {} := isFree_of_settled rfl
  refine ⟨(exists_reads_of_accepted rfl run).1 free, fun items reads => ?_⟩
  have same := settings_of_reads reads rfl free
  rw [run, takeItems_of_settled rfl] at same
  cases asked : items.foldlM takeItem {} with
  | error error =>
    rw [asked] at same
    cases same
  | ok found =>
    rw [asked] at same
    exact ⟨found, rfl, (Except.ok.inj same).symm⟩

end SourceTrace.Arguments
