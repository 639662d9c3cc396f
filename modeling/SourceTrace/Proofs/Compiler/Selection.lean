import SourceTrace.Compiler.Output
import SourceTrace.Proofs.Json.Keys

/-!
# The key of a contract as its name

A contract is chosen by a name that stands, up to case, at the start of a key or right after a
separator in it. So a key chooses itself unless it stands in another key as well, say because the
name of one contract begins with that of another. `Compiler.Output.keyFor_own_key` says when a key
chooses itself and what is reported otherwise; `Compiler.Output.keyFor_of_longer_key` is a key that
does not.
-/

namespace SourceTrace.Compiler

/-- A name stands in a key: up to case, it is at the start of the key or right after a separator. -/
def StandsIn (name key : String) : Prop :=
  ∃ before occurrence after, key.toList = before ++ occurrence ++ after ∧
    Text.foldCase occurrence = Text.foldCase name.toList ∧
    (before = [] ∨ ∃ front separator, isSeparator separator = true ∧
      before = front ++ [separator])

/-- The tails of a key are what stands behind its separators. -/
theorem mem_afterSeparators_iff {tail chars : List Char} :
    tail ∈ afterSeparators chars ↔
      ∃ front separator, isSeparator separator = true ∧ chars = front ++ separator :: tail := by
  induction chars with
  | nil => simp [afterSeparators]
  | cons c rest inductionHypothesis =>
    constructor
    · intro mem
      simp only [afterSeparators] at mem
      split at mem
      · rename_i separates
        rcases List.mem_cons.mp mem with rfl | later
        · exact ⟨[], c, separates, rfl⟩
        · obtain ⟨front, separator, isOne, rfl⟩ := inductionHypothesis.mp later
          exact ⟨c :: front, separator, isOne, rfl⟩
      · obtain ⟨front, separator, isOne, rfl⟩ := inductionHypothesis.mp mem
        exact ⟨c :: front, separator, isOne, rfl⟩
    · rintro ⟨front, separator, isOne, split⟩
      cases front with
      | nil =>
        obtain ⟨rfl, rfl⟩ := List.cons.inj split
        simp [afterSeparators, isOne]
      | cons first front =>
        obtain ⟨rfl, rfl⟩ := List.cons.inj split
        have later : tail ∈ afterSeparators (front ++ separator :: tail) :=
          inductionHypothesis.mpr ⟨front, separator, isOne, rfl⟩
        simp only [afterSeparators]
        split
        · exact List.mem_cons_of_mem _ later
        · exact later

/-- A folded name is a prefix of a folded text exactly if the text starts with a spelling of it. -/
theorem isPrefixOf_foldCase_iff {name tail : List Char} :
    (Text.foldCase name).isPrefixOf (Text.foldCase tail) = true ↔
      ∃ occurrence after, tail = occurrence ++ after ∧
        Text.foldCase occurrence = Text.foldCase name := by
  rw [List.isPrefixOf_iff_prefix]
  constructor
  · rintro ⟨rest, split⟩
    obtain ⟨occurrence, after, rfl, folded, -⟩ := List.map_eq_append_iff.mp split.symm
    exact ⟨occurrence, after, rfl, folded⟩
  · rintro ⟨occurrence, after, rfl, folded⟩
    exact ⟨Text.foldCase after, by rw [Text.foldCase_append, folded]⟩

/-- A key matches a name exactly if the name stands in it. -/
theorem keyMatches_iff {name key : String} : keyMatches name key = true ↔ StandsIn name key := by
  simp only [keyMatches, List.any_eq_true, isPrefixOf_foldCase_iff, List.mem_cons,
    mem_afterSeparators_iff, StandsIn]
  constructor
  · rintro ⟨tail, rfl | ⟨front, separator, isOne, split⟩, occurrence, after, cut, folded⟩
    · exact ⟨[], occurrence, after, cut, folded, Or.inl rfl⟩
    · refine ⟨front ++ [separator], occurrence, after, ?_, folded,
        Or.inr ⟨front, separator, isOne, rfl⟩⟩
      rw [split, cut, List.append_assoc, List.append_assoc, List.singleton_append]
  · rintro ⟨before, occurrence, after, split, folded, rfl | ⟨front, separator, isOne, rfl⟩⟩
    · exact ⟨key.toList, Or.inl rfl, occurrence, after, split, folded⟩
    · refine ⟨occurrence ++ after, Or.inr ⟨front, separator, isOne, ?_⟩, occurrence, after,
        rfl, folded⟩
      rw [split, List.append_assoc, List.append_assoc, List.singleton_append]

/-- Every key stands in itself. -/
theorem standsIn_self (key : String) : StandsIn key key :=
  ⟨[], key.toList, [], by simp, rfl, Or.inl rfl⟩

namespace Output

variable {output : Output} {name key : String} {candidates : List String}

/-- The candidates for a name are the keys that it stands in. -/
theorem mem_candidates_iff :
    key ∈ output.candidates name ↔ key ∈ output.keys ∧ StandsIn name key := by
  rw [candidates, List.mem_filter, keyMatches_iff]

/-- A key is chosen exactly if it is the only candidate. -/
theorem keyFor_eq_ok_iff : output.keyFor name = .ok key ↔ output.candidates name = [key] := by
  simp only [keyFor]
  split
  · rename_i only found
    simp [found]
  · rename_i found
    simp [found]
  · rename_i several _
    simpa using several key

/-- A name is ambiguous exactly if it has several candidates, which are then reported. -/
theorem keyFor_eq_ambiguous_iff :
    output.keyFor name = .error (.ambiguousContract name candidates) ↔
      output.candidates name = candidates ∧ 1 < candidates.length := by
  simp only [keyFor]
  split
  · rename_i only found
    simp only [reduceCtorEq, found, false_iff, not_and]
    rintro rfl
    simp
  · rename_i found
    simp only [Except.error.injEq, reduceCtorEq, found, false_iff, not_and]
    rintro rfl
    simp
  · rename_i several none
    have many : 1 < (output.candidates name).length := by
      cases listed : output.candidates name with
      | nil => exact absurd listed none
      | cons first rest =>
        cases rest with
        | nil => exact absurd listed (several first)
        | cons second rest => simp
    simp only [Except.error.injEq, LoadError.ambiguousContract.injEq, true_and]
    exact ⟨fun same => ⟨same, same ▸ many⟩, And.left⟩

/-- No other key of an output has this one standing in it. -/
def StandsAlone (output : Output) (key : String) : Prop :=
  ∀ other ∈ output.keys, StandsIn key other → other = key

/-- The keys of an output that was read from a document with distinct keys are distinct. -/
theorem nodup_keys_of_ofJson {document : Json} (distinct : document.hasDistinctKeys = true)
    (read : ofJson document = .ok output) : output.keys.Nodup := by
  simp only [ofJson] at read
  split at read
  · cases read
  · split at read
    · cases read
    · rename_i contracts _ present
      cases read
      exact Json.nodup_members (Json.hasDistinctKeys_of_get? distinct present)
    · cases read

/-- A key that stands alone is its own only candidate. -/
theorem StandsAlone.candidates_eq (alone : output.StandsAlone key) (distinct : output.keys.Nodup)
    (mem : key ∈ output.keys) : output.candidates key = [key] := by
  have candidate : key ∈ output.candidates key :=
    mem_candidates_iff.mpr ⟨mem, standsIn_self key⟩
  have only : ∀ other ∈ output.candidates key, other = key := by
    intro other found
    obtain ⟨otherMem, stands⟩ := mem_candidates_iff.mp found
    exact alone other otherMem stands
  have once : (output.candidates key).Nodup := distinct.filter _
  cases listed : output.candidates key with
  | nil => simp [listed] at candidate
  | cons first rest =>
    rw [listed] at only once
    cases rest with
    | nil => rw [only first List.mem_cons_self]
    | cons second rest =>
      have same : first = second :=
        (only first (by simp)).trans (only second (by simp)).symm
      simp [same] at once

/-- A key that stands in another one has several candidates. -/
theorem one_lt_length_candidates {other : String} (mem : key ∈ output.keys)
    (otherMem : other ∈ output.keys) (differs : other ≠ key) (stands : StandsIn key other) :
    1 < (output.candidates key).length := by
  have candidate : key ∈ output.candidates key :=
    mem_candidates_iff.mpr ⟨mem, standsIn_self key⟩
  have otherCandidate : other ∈ output.candidates key :=
    mem_candidates_iff.mpr ⟨otherMem, stands⟩
  cases listed : output.candidates key with
  | nil => simp [listed] at candidate
  | cons first rest =>
    cases rest with
    | nil =>
      rw [listed, List.mem_singleton] at candidate otherCandidate
      exact absurd (otherCandidate.trans candidate.symm) differs
    | cons second rest => simp

/-- A key selects itself exactly if it stands in no other. -/
theorem keyFor_key_eq_ok_iff (distinct : output.keys.Nodup) (mem : key ∈ output.keys) :
    output.keyFor key = .ok key ↔ output.StandsAlone key := by
  rw [keyFor_eq_ok_iff]
  refine ⟨fun single other otherMem stands => ?_, fun alone => alone.candidates_eq distinct mem⟩
  have candidate : other ∈ output.candidates key := mem_candidates_iff.mpr ⟨otherMem, stands⟩
  rw [single] at candidate
  exact List.mem_singleton.mp candidate

/-- A key of an output chooses itself exactly if it stands alone. Else it is ambiguous, and the keys
that it stands in are reported in the order of the document, itself among them. The same holds of
each candidate that is reported for any name. -/
theorem keyFor_own_key {document : Json} (distinct : document.hasDistinctKeys = true)
    (read : ofJson document = .ok output) :
    (∀ key ∈ output.keys,
      (output.keyFor key = .ok key ↔ output.StandsAlone key) ∧
      (¬output.StandsAlone key → ∃ candidates,
        output.keyFor key = .error (.ambiguousContract key candidates) ∧
        candidates.Sublist output.keys ∧
        ∀ other, other ∈ candidates ↔ other ∈ output.keys ∧ StandsIn key other)) ∧
    (∀ name candidates, output.keyFor name = .error (.ambiguousContract name candidates) →
      ∀ candidate ∈ candidates,
        (output.keyFor candidate = .ok candidate ↔ output.StandsAlone candidate)) := by
  have distinctKeys := nodup_keys_of_ofJson distinct read
  constructor
  · intro key mem
    refine ⟨keyFor_key_eq_ok_iff distinctKeys mem, fun shared => ?_⟩
    obtain ⟨other, otherMem, stands, differs⟩ :
        ∃ other ∈ output.keys, StandsIn key other ∧ other ≠ key := by
      simpa [StandsAlone] using shared
    have several := one_lt_length_candidates mem otherMem differs stands
    exact ⟨output.candidates key, keyFor_eq_ambiguous_iff.mpr ⟨rfl, several⟩,
      List.filter_sublist, fun _ => mem_candidates_iff⟩
  · intro name candidates ambiguous candidate found
    obtain ⟨rfl, -⟩ := keyFor_eq_ambiguous_iff.mp ambiguous
    exact keyFor_key_eq_ok_iff distinctKeys (mem_candidates_iff.mp found).1

/-- A file with two contracts, of which the name of one begins with the name of the other. -/
def twoContracts : Json :=
  .obj [("contracts", .obj [
    ("a.sol:Bar", .obj [("bin-runtime", .str "00"), ("srcmap-runtime", .str "0:1:0")]),
    ("a.sol:BarBase", .obj [("bin-runtime", .str "00"), ("srcmap-runtime", .str "0:1:0")])])]

/-- The longer key stands alone and chooses itself. -/
theorem keyFor_own_key_longer : ∃ output, ofJson twoContracts = .ok output ∧
    "a.sol:BarBase" ∈ output.keys ∧ output.StandsAlone "a.sol:BarBase" ∧
    output.keyFor "a.sol:BarBase" = .ok "a.sol:BarBase" := by
  have distinct : twoContracts.hasDistinctKeys = true := by decide
  obtain ⟨output, read⟩ : ∃ output, ofJson twoContracts = .ok output := ⟨_, rfl⟩
  have keys : output.keys = ["a.sol:Bar", "a.sol:BarBase"] := by
    cases read
    rfl
  have mem : "a.sol:BarBase" ∈ output.keys := by simp [keys]
  have alone : output.StandsAlone "a.sol:BarBase" := by
    intro other otherMem stands
    rw [keys] at otherMem
    have matching := keyMatches_iff.mpr stands
    rcases List.mem_cons.mp otherMem with rfl | last
    · revert matching
      decide
    · exact List.mem_singleton.mp last
  exact ⟨output, read, mem, alone, (((keyFor_own_key distinct read).1 _ mem).1).mpr alone⟩

/-- The shorter key stands in the longer one, so it does not choose itself, although it is reported
as a candidate. -/
theorem keyFor_of_longer_key : ∃ output, ofJson twoContracts = .ok output ∧
    "a.sol:Bar" ∈ output.keys ∧
    output.keyFor "a.sol:Bar" =
      .error (.ambiguousContract "a.sol:Bar" ["a.sol:Bar", "a.sol:BarBase"]) :=
  ⟨_, rfl, by decide, by rfl⟩

end Output

end SourceTrace.Compiler
