import Mathlib.Data.List.Basic
import SourceTrace.Settings.Arguments

/-!
# The grammar of arguments

Arguments are read one by one, and an option with a value is taken up late: when the next option or
address comes, or at the end. `Reads` says what a list of arguments asks for without following that
order: an argument is an address, an option under its long name or a group of letters, and it may
leave an option that has its value in the next argument. `settings_of_reads` shows that reading
takes up exactly that, part by part.
-/

namespace SourceTrace

section Outcomes

variable {ε α β : Type}

/-- If two steps in a row succeed, then so does each of them. -/
theorem exists_of_bind {outcome : Except ε α} {rest : α → Except ε β} {result : β}
    (succeeds : outcome.bind rest = .ok result) :
    ∃ value, outcome = .ok value ∧ rest value = .ok result := by
  cases outcome with
  | error error => cases succeeds
  | ok value => exact ⟨value, rfl, succeeds⟩

/-- A run without an error keeps what each of its steps keeps. -/
theorem foldlM_invariant {step : β → α → Except ε β} (Holds : List α → β → Prop)
    (kept : ∀ seen item state next, Holds seen state → step state item = .ok next →
      Holds (seen ++ [item]) next)
    (seen : List α) {items : List α} {state last : β} (holds : Holds seen state)
    (run : items.foldlM step state = .ok last) : Holds (seen ++ items) last := by
  induction items generalizing seen state with
  | nil =>
    cases run
    rwa [List.append_nil]
  | cons item items inductionHypothesis =>
    obtain ⟨next, first, rest⟩ := exists_of_bind (List.foldlM_cons.symm.trans run)
    have later := inductionHypothesis _ (kept seen item state next holds first) rest
    rwa [List.append_assoc] at later

end Outcomes

namespace Arguments

/-- What a part of the arguments asks for. -/
inductive Item where
  /-- An option is given a value. -/
  | value (option : ValuedOption) (text : String)
  /-- A switch is on. -/
  | switch (switch : Switch)
  /-- There is one verbosity flag more. -/
  | verbose
  /-- An address is to be looked up. -/
  | address (text : String)
  deriving DecidableEq, Repr

/-- What an option without a value asks for. Requests for the usage or the version are answered and
not taken up. -/
def Item.ofFlag? : Flag → Option Item
  | .switch which => some (.switch which)
  | .verbose => some .verbose
  | .valued _ | .help | .version => none

/-- An argument that is no option: it has no dash in front, or is but a dash. -/
def IsPlain (argument : String) : Prop :=
  argument = "-" ∨ argument.toList.head? ≠ some '-'

/-- Letters behind one dash, with what they ask for and the option that has its value in the next
argument. -/
inductive Letters : List Char → List Item → Option ValuedOption → Prop where
  | done : Letters [] [] none
  | plain {letter : Char} {flag : Flag} {item : Item} {letters : List Char} {items : List Item}
      {waiting : Option ValuedOption} (known : (letter, flag) ∈ Flag.letters)
      (asks : Item.ofFlag? flag = some item) (rest : Letters letters items waiting) :
      Letters (letter :: letters) (item :: items) waiting
  | valued {letter : Char} {option : ValuedOption}
      (known : (letter, Flag.valued option) ∈ Flag.letters) : Letters [letter] [] (some option)
  | attached {letter first : Char} {option : ValuedOption} {rest : List Char}
      (known : (letter, Flag.valued option) ∈ Flag.letters) (noSign : first ≠ '=') :
      Letters (letter :: first :: rest) [.value option (String.ofList (first :: rest))] none
  | assigned {letter : Char} {option : ValuedOption} {text : List Char}
      (known : (letter, Flag.valued option) ∈ Flag.letters) :
      Letters (letter :: '=' :: text) [.value option (String.ofList text)] none

/-- One argument in front of a double dash, with what it asks for and the option that has its value
in the next argument. -/
inductive Spells : String → List Item → Option ValuedOption → Prop where
  | address {text : String} (plain : IsPlain text) : Spells text [.address text] none
  | plain {name : String} {flag : Flag} {item : Item} (known : (name, flag) ∈ Flag.names)
      (asks : Item.ofFlag? flag = some item) : Spells ("--" ++ name) [item] none
  | valued {name : String} {option : ValuedOption}
      (known : (name, Flag.valued option) ∈ Flag.names) :
      Spells ("--" ++ name) [] (some option)
  | assigned {name text : String} {option : ValuedOption}
      (known : (name, Flag.valued option) ∈ Flag.names) :
      Spells ("--" ++ name ++ "=" ++ text) [.value option text] none
  | letters {letters : List Char} {items : List Item} {waiting : Option ValuedOption}
      (present : letters ≠ []) (read : Letters letters items waiting) :
      Spells (String.ofList ('-' :: letters)) items waiting

/-- All arguments with what they ask for. The value of an option is no option itself; behind a
double dash all arguments are addresses. -/
inductive Reads : List String → List Item → Prop where
  | nil : Reads [] []
  | addresses (texts : List String) : Reads ("--" :: texts) (texts.map .address)
  | argument {argument : String} {texts : List String} {items more : List Item}
      (spells : Spells argument items none) (later : Reads texts more) :
      Reads (argument :: texts) (items ++ more)
  | withValue {argument value : String} {texts : List String} {items more : List Item}
      {option : ValuedOption} (spells : Spells argument items (some option)) (plain : IsPlain value)
      (later : Reads texts more) :
      Reads (argument :: value :: texts) (items ++ .value option value :: more)

/-- Takes up what a part of the arguments asks for. -/
def takeItem (arguments : Arguments) : Item → Except ArgumentError Arguments
  | .value option text => arguments.takeValue option text
  | .switch switch => arguments.takePlain (.switch switch)
  | .verbose => arguments.takePlain .verbose
  | .address text => .ok { arguments with
      settings := { arguments.settings with addresses := arguments.settings.addresses ++ [text] } }

/-- Takes up what is pending, and then what parts of the arguments ask for. -/
def takeItems (arguments : Arguments) (items : List Item) : Except ArgumentError Arguments :=
  arguments.settle.bind fun settled => items.foldlM takeItem settled

/-- No option lacks a value that may be in the next argument. -/
def IsFree (arguments : Arguments) : Prop :=
  ∀ option, arguments.pending ≠ some (option, none)

/-- The same arguments with an option that has its value in the next one, if there is such an
option. -/
def await (arguments : Arguments) (waiting : Option ValuedOption) : Arguments :=
  { arguments with pending := waiting.map fun option => (option, none) }

section Steps

variable {arguments next : Arguments}

/-- Arguments that wait for nothing stay as they are. -/
theorem await_none (settled : arguments.pending = none) : arguments.await none = arguments := by
  obtain ⟨settings, values, switches, pending, onlyAddresses⟩ := arguments
  cases settled
  rfl

/-- Where no option is pending, no value is missing. -/
theorem isFree_of_settled (settled : arguments.pending = none) : arguments.IsFree := by
  intro option waits
  cases settled.symm.trans waits

/-- Where the pending option has met its value, no value is missing. -/
theorem isFree_of_met {option : ValuedOption} {text : String}
    (met : arguments.pending = some (option, some text)) : arguments.IsFree := by
  intro other waits
  cases met.symm.trans waits

/-- Where no option is pending, there is nothing to take up. -/
theorem settle_of_settled (settled : arguments.pending = none) :
    arguments.settle = .ok arguments := by
  rw [settle, settled]

/-- Where no option is pending, items are taken up one by one. -/
theorem takeItems_of_settled (settled : arguments.pending = none) (items : List Item) :
    arguments.takeItems items = items.foldlM takeItem arguments := by
  rw [takeItems, settle_of_settled settled]
  rfl

/-- Items are taken up in turn. -/
theorem takeItems_append (items more : List Item) :
    arguments.takeItems (items ++ more) =
      (arguments.takeItems items).bind (more.foldlM takeItem ·) := by
  unfold takeItems
  cases arguments.settle with
  | error error => rfl
  | ok settled => exact List.foldlM_append

/-- An item is taken up behind the pending option. -/
theorem takeItems_singleton (item : Item) :
    arguments.takeItems [item] = arguments.settle.bind (takeItem · item) := by
  simp only [takeItems, List.foldlM_cons, List.foldlM_nil, bind_pure]

/-- An option that was taken up with its value leaves none pending. -/
theorem pending_of_takeValue {option : ValuedOption} {text : String}
    (taken : arguments.takeValue option text = .ok next) :
    next.pending = none ∧ next.onlyAddresses = arguments.onlyAddresses := by
  rw [takeValue] at taken
  split at taken
  · cases taken
  · split at taken
    · cases taken
    · cases taken
      exact ⟨rfl, rfl⟩

/-- Taking up the pending option leaves none pending. -/
theorem pending_of_settle (settled : arguments.settle = .ok next) :
    next.pending = none ∧ next.onlyAddresses = arguments.onlyAddresses := by
  rw [settle] at settled
  split at settled
  · rename_i none
    cases settled
    exact ⟨none, rfl⟩
  · cases settled
  · exact pending_of_takeValue settled

/-- Taking up an item leaves no option pending. -/
theorem pending_of_takeItem {item : Item} (settled : arguments.pending = none)
    (taken : arguments.takeItem item = .ok next) :
    next.pending = none ∧ next.onlyAddresses = arguments.onlyAddresses := by
  cases item with
  | value option text => exact pending_of_takeValue taken
  | switch switch =>
    simp only [takeItem, takePlain] at taken
    split at taken
    · cases taken
    · cases taken
      exact ⟨settled, rfl⟩
  | verbose =>
    cases taken
    exact ⟨settled, rfl⟩
  | address text =>
    cases taken
    exact ⟨settled, rfl⟩

/-- Taking up items leaves no option pending. -/
theorem pending_of_foldlM_takeItem {items : List Item} (settled : arguments.pending = none)
    (taken : items.foldlM takeItem arguments = .ok next) :
    next.pending = none ∧ next.onlyAddresses = arguments.onlyAddresses := by
  let Holds (_ : List Item) (state : Arguments) : Prop :=
    state.pending = none ∧ state.onlyAddresses = arguments.onlyAddresses
  have start : Holds [] arguments := ⟨settled, rfl⟩
  refine foldlM_invariant Holds (fun seen item state next holds step => ?_) [] start taken
  obtain ⟨none, mode⟩ := pending_of_takeItem holds.1 step
  exact ⟨none, mode.trans holds.2⟩

/-- Once parts of the arguments are taken up, nothing is left pending. -/
theorem pending_of_takeItems {items : List Item} (taken : arguments.takeItems items = .ok next) :
    next.pending = none ∧ next.onlyAddresses = arguments.onlyAddresses := by
  obtain ⟨between, settled, rest⟩ := exists_of_bind taken
  obtain ⟨none, mode⟩ := pending_of_settle settled
  obtain ⟨last, lastMode⟩ := pending_of_foldlM_takeItem none rest
  exact ⟨last, lastMode.trans mode⟩

/-- Items that were taken up leave nothing to wait for. -/
theorem takeItems_map_await_none (items : List Item) :
    (arguments.takeItems items).map (·.await none) = arguments.takeItems items := by
  cases taken : arguments.takeItems items with
  | error error => rfl
  | ok next => exact congrArg Except.ok (await_none (pending_of_takeItems taken).1)

end Steps

section Spelling

variable {arguments : Arguments}

/-- What follows the long name of an option: nothing, or a value behind an equals sign. -/
def assignment : Option String → List Char
  | none => []
  | some text => '=' :: text.toList

/-- Every name stands for one option and has no equals sign. -/
theorem lookup_name {name : String} {flag : Flag} (known : (name, flag) ∈ Flag.names) :
    Flag.names.lookup name = some flag ∧ name.toList ≠ [] ∧ '=' ∉ name.toList := by
  have entries : ∀ entry ∈ Flag.names,
      Flag.names.lookup entry.1 = some entry.2 ∧ entry.1.toList ≠ [] ∧
        '=' ∉ entry.1.toList := by
    decide +kernel
  exact entries _ known

/-- Every letter stands for one option, and a dash for none. -/
theorem lookup_letter {letter : Char} {flag : Flag} (known : (letter, flag) ∈ Flag.letters) :
    Flag.letters.lookup letter = some flag ∧ letter ≠ '-' := by
  have entries : ∀ entry ∈ Flag.letters,
      Flag.letters.lookup entry.1 = some entry.2 ∧ entry.1 ≠ '-' := by
    decide
  exact entries _ known

/-- An option without its value takes up the pending one and waits itself. -/
theorem takeOption_valued (option : ValuedOption) :
    arguments.takeOption (.valued option) none =
      (arguments.takeItems []).map (·.await (some option)) := by
  unfold takeItems
  change arguments.settle.bind _ = _
  cases arguments.settle <;> rfl

/-- An option with its value attached is an item. -/
theorem takeOption_attached (option : ValuedOption) (text : String) :
    arguments.takeOption (.valued option) (some text) =
      arguments.takeItems [.value option text] := by
  rw [takeItems_singleton]
  rfl

/-- An option that takes no value is an item. -/
theorem takeOption_plain {flag : Flag} {item : Item} (asks : Item.ofFlag? flag = some item) :
    arguments.takeOption flag none = arguments.takeItems [item] := by
  rw [takeItems_singleton]
  cases flag with
  | switch switch | verbose =>
    cases asks
    rfl
  | valued option | help | version => cases asks

/-- An address is an item. -/
theorem takeAddress_eq_takeItems (text : String) :
    arguments.takeAddress text = arguments.takeItems [.address text] := by
  rw [takeItems_singleton, takeAddress]
  cases arguments.settle <;> rfl

/-- What follows the letter of an option with a value is that value. -/
theorem takeLetters_valued {letter : Char} {option : ValuedOption}
    (known : (letter, Flag.valued option) ∈ Flag.letters) (rest : List Char) :
    arguments.takeLetters (letter :: rest) = arguments.takeOption (.valued option)
      (match rest with
        | [] => none
        | '=' :: value => some (String.ofList value)
        | value => some (String.ofList value)) := by
  unfold takeLetters
  rewrite [(lookup_letter known).1]
  rfl

/-- What follows the letter of an option without a value are more letters. -/
theorem takeLetters_unvalued {letter : Char} {flag : Flag} (known : (letter, flag) ∈ Flag.letters)
    (unvalued : ¬∃ option, flag = .valued option) (rest : List Char) :
    arguments.takeLetters (letter :: rest) =
      (arguments.takeOption flag none).bind (takeLetters · rest) := by
  conv_lhs => unfold takeLetters
  rw [(lookup_letter known).1]
  split
  · rename_i absent
    cases absent
  · rename_i option same
    exact absurd ⟨option, Option.some.inj same⟩ unvalued
  · rename_i other _ same
    obtain rfl := Option.some.inj same
    cases arguments.takeOption flag none <;> rfl

/-- The letter of an option that takes no value is an item before more letters. -/
theorem takeLetters_plain {letter : Char} {flag : Flag} {item : Item}
    (known : (letter, flag) ∈ Flag.letters) (asks : Item.ofFlag? flag = some item)
    (rest : List Char) :
    arguments.takeLetters (letter :: rest) =
      (arguments.takeItems [item]).bind (takeLetters · rest) := by
  have unvalued : ¬∃ option, flag = .valued option := by
    rintro ⟨option, rfl⟩
    cases asks
  rw [takeLetters_unvalued known unvalued, takeOption_plain asks]

/-- What a group of letters does to arguments. -/
theorem takeLetters_of_letters {letters : List Char} {items : List Item}
    {waiting : Option ValuedOption} (read : Letters letters items waiting)
    (present : letters ≠ [] ∨ arguments.pending = none) :
    arguments.takeLetters letters = (arguments.takeItems items).map (·.await waiting) := by
  induction read generalizing arguments with
  | done =>
    have settled := present.resolve_left (absurd rfl)
    rw [takeItems_map_await_none, takeItems_of_settled settled]
    rfl
  | @plain letter flag item letters items waiting known asks rest inductionHypothesis =>
    have inTurn : arguments.takeItems (item :: items) = _ := takeItems_append [item] items
    rw [takeLetters_plain known asks, inTurn]
    cases taken : arguments.takeItems [item] with
    | error error => rfl
    | ok next =>
      have settled := (pending_of_takeItems taken).1
      have later := @inductionHypothesis next (.inr settled)
      rw [takeItems_of_settled settled] at later
      exact later
  | valued known => exact (takeLetters_valued known []).trans (takeOption_valued _)
  | @attached letter first option rest known noSign =>
    rw [takeLetters_valued known, takeItems_map_await_none, ← takeOption_attached]
    split
    · rename_i empty
      cases empty
    · rename_i value sign
      exact absurd (List.cons.inj sign).1 noSign
    · rfl
  | assigned known =>
    rw [takeItems_map_await_none]
    exact (takeLetters_valued known _).trans (takeOption_attached _ _)

/-- Letters of options do not begin with a dash. -/
theorem Letters.head {letters : List Char} {items : List Item} {waiting : Option ValuedOption}
    (read : Letters letters items waiting) (present : letters ≠ []) :
    ∃ letter rest, letters = letter :: rest ∧ letter ≠ '-' := by
  cases read with
  | done => exact absurd rfl present
  | plain known | valued known | attached known | assigned known =>
    exact ⟨_, _, rfl, (lookup_letter known).2⟩

/-- A name ends where what follows it begins. -/
theorem split_assignment {name : String} (noSign : '=' ∉ name.toList) (attached : Option String) :
    (name.toList ++ assignment attached).takeWhile (· != '=') = name.toList ∧
      (name.toList ++ assignment attached).dropWhile (· != '=') = assignment attached := by
  have inName : ∀ c ∈ name.toList, (c != '=') = true := fun c member =>
    bne_iff_ne.mpr fun same => noSign (same ▸ member)
  rw [List.takeWhile_append_of_pos inName, List.dropWhile_append_of_pos inName]
  cases attached <;> simp [assignment]

/-- A name that no option has is refused. -/
theorem takeLong_unknown {name : String} (noSign : '=' ∉ name.toList) (attached : Option String)
    (absent : Flag.names.lookup name = none) :
    arguments.takeLong (name.toList ++ assignment attached) = .error .unknownOption := by
  obtain ⟨inFront, -⟩ := split_assignment noSign attached
  unfold takeLong
  rewrite [inFront, String.ofList_toList]
  dsimp only
  rewrite [absent]
  rfl

/-- The name of an option is taken up with what follows the equals sign. -/
theorem takeLong_known {name : String} {flag : Flag} (noSign : '=' ∉ name.toList)
    (attached : Option String) (found : Flag.names.lookup name = some flag) :
    arguments.takeLong (name.toList ++ assignment attached) =
      arguments.takeOption flag attached := by
  obtain ⟨inFront, behind⟩ := split_assignment noSign attached
  unfold takeLong
  rewrite [inFront, behind, String.ofList_toList]
  dsimp only
  rewrite [found]
  cases attached with
  | none => rfl
  | some text =>
    exact congrArg (fun value => arguments.takeOption flag (some value)) String.ofList_toList

/-- A text that is no option is taken up as such. -/
theorem take_of_plain {text : String} (plain : IsPlain text)
    (before : arguments.onlyAddresses = false) :
    arguments.take text = arguments.takePlainText text := by
  unfold take
  rw [before]
  obtain rfl | noDash := plain
  · rfl
  · generalize text.toList = chars at noDash
    cases chars with
    | nil => rfl
    | cons first rest =>
      have other : first ≠ '-' := fun same => noDash (congrArg some same)
      simp [other]

/-- What follows two dashes is the name of an option. -/
theorem take_of_long {argument : String} {chars : List Char}
    (spelled : argument.toList = '-' :: '-' :: chars) (present : chars ≠ [])
    (before : arguments.onlyAddresses = false) :
    arguments.take argument = arguments.takeLong chars := by
  unfold take
  rw [before, spelled]
  cases chars with
  | nil => exact absurd rfl present
  | cons first rest => rfl

/-- What follows one dash are letters of options. -/
theorem take_of_letters {argument : String} {letter : Char} {rest : List Char}
    (spelled : argument.toList = '-' :: letter :: rest) (other : letter ≠ '-')
    (before : arguments.onlyAddresses = false) :
    arguments.take argument = arguments.takeLetters (letter :: rest) := by
  unfold take
  rw [before, spelled]
  simp [other]

/-- An argument with a long name takes up the option that it names. -/
theorem take_of_name {name argument : String} {flag : Flag} (known : (name, flag) ∈ Flag.names)
    (attached : Option String)
    (spelled : argument.toList = '-' :: '-' :: (name.toList ++ assignment attached))
    (before : arguments.onlyAddresses = false) :
    arguments.take argument = arguments.takeOption flag attached := by
  obtain ⟨found, present, noSign⟩ := lookup_name known
  rw [take_of_long spelled (List.append_ne_nil_of_left_ne_nil present _) before,
    takeLong_known noSign attached found]

/-- Where no value is missing, a text that is no option is an address. -/
theorem takePlainText_of_isFree (free : arguments.IsFree) (text : String) :
    arguments.takePlainText text = arguments.takeAddress text := by
  unfold takePlainText
  split
  · rename_i option waits
    exact absurd waits (free option)
  · rfl

/-- One argument takes up what is pending and what it asks for itself, unless it is the value of the
option in front of it. -/
theorem take_of_spells {argument : String} {items : List Item} {waiting : Option ValuedOption}
    (spells : Spells argument items waiting) (before : arguments.onlyAddresses = false)
    (free : IsPlain argument → arguments.IsFree) :
    arguments.take argument = (arguments.takeItems items).map (·.await waiting) := by
  cases spells with
  | address plain =>
    rw [takeItems_map_await_none, take_of_plain plain before,
      takePlainText_of_isFree (free plain)]
    exact takeAddress_eq_takeItems argument
  | plain known asks =>
    rw [takeItems_map_await_none, take_of_name known none (by simp [assignment]) before]
    exact takeOption_plain asks
  | valued known =>
    rw [take_of_name known none (by simp [assignment]) before]
    exact takeOption_valued _
  | @assigned name text option known =>
    rw [takeItems_map_await_none, take_of_name known (some text) (by simp [assignment]) before]
    exact takeOption_attached option text
  | letters present read =>
    obtain ⟨letter, rest, rfl, other⟩ := read.head present
    rw [take_of_letters String.toList_ofList other before]
    exact takeLetters_of_letters read (.inl present)

end Spelling

section Runs

variable {arguments : Arguments}

/-- Settings with more addresses. -/
def addAddresses (settings : Settings) (texts : List String) : Settings :=
  { settings with addresses := settings.addresses ++ texts }

/-- Behind a double dash all arguments are addresses. -/
theorem settings_of_addresses (texts : List String) (behind : arguments.onlyAddresses = true) :
    ((texts.foldlM take arguments).bind settle).map settings =
      (arguments.settle.map settings).map (addAddresses · texts) := by
  induction texts generalizing arguments with
  | nil =>
    change arguments.settle.map settings = _
    cases arguments.settle with
    | error error => rfl
    | ok next => simp [Except.map, addAddresses]
  | cons text texts inductionHypothesis =>
    have taken : arguments.take text = arguments.takeAddress text := by
      rw [take, if_pos behind]
    rw [List.foldlM_cons, taken, takeAddress]
    cases settled : arguments.settle with
    | error error => rfl
    | ok next =>
      obtain ⟨none, mode⟩ := pending_of_settle settled
      let added := { next with settings := addAddresses next.settings [text] }
      have later := @inductionHypothesis added (mode.trans behind)
      rw [settle_of_settled (show added.pending = Option.none from none)] at later
      refine later.trans ?_
      simp [Except.map, addAddresses, added]

/-- Taking up addresses adds them to the settings, and nothing else. -/
theorem settings_of_address_items (texts : List String) :
    ((texts.map Item.address).foldlM takeItem arguments).map settings =
      .ok (addAddresses arguments.settings texts) := by
  induction texts generalizing arguments with
  | nil => simp [addAddresses, Except.map, pure, Except.pure]
  | cons text texts inductionHypothesis =>
    let added := { arguments with settings := addAddresses arguments.settings [text] }
    refine (@inductionHypothesis added).trans ?_
    simp [addAddresses, added]

/-- A double dash changes nothing in what is pending. -/
theorem settle_closed :
    (settle { arguments with onlyAddresses := true }).map settings =
      arguments.settle.map settings := by
  obtain ⟨settings, values, switches, pending, onlyAddresses⟩ := arguments
  match pending with
  | none => rfl
  | some (option, none) => rfl
  | some (option, some text) =>
    simp only [settle, takeValue]
    split_ifs <;> rfl

/-- Behind a double dash there are only addresses. -/
theorem take_dashes (before : arguments.onlyAddresses = false) :
    arguments.take "--" = .ok { arguments with onlyAddresses := true } := by
  rw [take, before]
  rfl

/-- Reading all arguments takes up what they ask for in turn. -/
theorem settings_of_reads {texts : List String} {items : List Item} (reads : Reads texts items)
    (before : arguments.onlyAddresses = false) (free : arguments.IsFree) :
    ((texts.foldlM take arguments).bind settle).map settings =
      (arguments.takeItems items).map settings := by
  induction reads generalizing arguments with
  | nil =>
    change arguments.settle.map settings = _
    unfold takeItems
    cases arguments.settle <;> rfl
  | addresses texts =>
    rw [List.foldlM_cons, take_dashes before]
    refine (settings_of_addresses texts rfl).trans ?_
    rw [settle_closed]
    unfold takeItems
    cases arguments.settle with
    | error error => rfl
    | ok next => exact (settings_of_address_items texts).symm
  | @argument text texts items more spells later inductionHypothesis =>
    rw [List.foldlM_cons, take_of_spells spells before (fun _ => free), takeItems_map_await_none,
      takeItems_append]
    cases taken : arguments.takeItems items with
    | error error => rfl
    | ok next =>
      obtain ⟨settled, mode⟩ := pending_of_takeItems taken
      have rest := @inductionHypothesis next (mode.trans before) (isFree_of_settled settled)
      rw [takeItems_of_settled settled] at rest
      exact rest
  | @withValue text value texts items more option spells plain later inductionHypothesis =>
    rw [List.foldlM_cons, take_of_spells spells before (fun _ => free), takeItems_append]
    cases taken : arguments.takeItems items with
    | error error => rfl
    | ok next =>
      have mode : next.onlyAddresses = false := (pending_of_takeItems taken).2.trans before
      -- The value is pending while the rest is read, and settling takes it up.
      let met := { next with pending := some (option, some value) }
      have valueTaken : (next.await (some option)).take value = .ok met := take_of_plain plain mode
      have rest := @inductionHypothesis met mode (isFree_of_met rfl)
      refine Eq.trans ?_ rest
      change
        ((((next.await (some option)).take value).bind (texts.foldlM take ·)).bind settle).map _ = _
      rw [valueTaken]
      rfl

end Runs

end Arguments

end SourceTrace
