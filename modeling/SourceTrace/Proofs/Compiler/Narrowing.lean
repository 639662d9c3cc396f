import Mathlib.Data.List.Basic
import SourceTrace.Proofs.Compiler.Selection

/-!
# Longer and respelled names of contracts

A name is looked for at the starts of the components of a key, up to case. So spelling a name in
another case changes nothing, and making it longer only drops keys: a name that has found its only
key finds this key or none when it is made longer, and never becomes ambiguous.
`Compiler.Output.keyFor_narrows` says so, and that what is answered depends on the number of keys in
which the name stands.
-/

namespace SourceTrace.Compiler

/-- Whether a name stands in a key can be decided. -/
instance (name key : String) : Decidable (StandsIn name key) :=
  decidable_of_iff _ keyMatches_iff

/-- Where a name stands, every name that it begins with up to case stands as well. -/
theorem StandsIn.shorten {shorter name key : String}
    (start : Text.foldCase shorter.toList <+: Text.foldCase name.toList)
    (stands : StandsIn name key) :
    StandsIn shorter key := by
  obtain ⟨before, occurrence, after, split, folded, place⟩ := stands
  obtain ⟨rest, begins⟩ := start
  -- The occurrence of the name is cut where the shorter name ends.
  obtain ⟨front, back, rfl, frontFolded, -⟩ :=
    List.map_eq_append_iff.mp (folded.trans begins.symm)
  exact ⟨before, front, back ++ after, by simpa using split, frontFolded, place⟩

/-- Names that are equal up to case stand in the same keys. -/
theorem standsIn_congr {first second key : String}
    (same : Text.foldCase first.toList = Text.foldCase second.toList) :
    StandsIn first key ↔ StandsIn second key :=
  ⟨.shorten (same ▸ List.prefix_rfl), .shorten (same ▸ List.prefix_rfl)⟩

namespace Output

variable {output : Output} {name key : String}

/-- The keys in which a name stands, in document order. -/
def keysWith (output : Output) (name : String) : List String :=
  output.keys.filter fun key => StandsIn name key

/-- The candidates for a name are the keys that it stands in. -/
theorem candidates_eq_keysWith (output : Output) (name : String) :
    output.candidates name = output.keysWith name := by
  refine List.filter_congr fun key _ => ?_
  rw [Bool.eq_iff_iff, keyMatches_iff, decide_eq_true_iff]

/-- A name selects a key exactly if it stands in no other. -/
theorem keyFor_eq_ok_iff_keysWith :
    output.keyFor name = .ok key ↔ output.keysWith name = [key] := by
  rw [keyFor_eq_ok_iff, candidates_eq_keysWith]

/-- A look-up fails if the name stands in no key, and then all keys are reported, or in several,
which are then reported. -/
theorem keyFor_eq_error_iff {error : LoadError} :
    output.keyFor name = .error error ↔
      output.keysWith name = [] ∧ error = .contractNotFound name output.keys ∨
      1 < (output.keysWith name).length ∧
        error = .ambiguousContract name (output.keysWith name) := by
  rw [keyFor, candidates_eq_keysWith]
  cases output.keysWith name with
  | nil => simp [eq_comm]
  | cons first rest => cases rest <;> simp [eq_comm]

/-- Names that are equal up to case stand in the same keys of an output. -/
theorem keysWith_congr {first second : String}
    (same : Text.foldCase first.toList = Text.foldCase second.toList) :
    output.keysWith first = output.keysWith second :=
  List.filter_congr fun _ _ => decide_eq_decide.mpr (standsIn_congr same)

/-- The keys in which a longer name stands are some of those in which the name stands. -/
theorem keysWith_sublist {longer : String}
    (start : Text.foldCase name.toList <+: Text.foldCase longer.toList) :
    (output.keysWith longer).Sublist (output.keysWith name) := by
  refine List.monotone_filter_right _ fun key stands => ?_
  rw [decide_eq_true_iff] at stands ⊢
  exact stands.shorten start

/-- Names that are equal up to case have the same candidates, and the candidates of a longer name
are candidates of the name. So if a name chooses a key, a longer name chooses it as well or is not
found. A key is chosen exactly if the name stands in this key only. The name is not found, and all
keys are reported, exactly if it stands in none, and it is ambiguous exactly if it stands in
several, which are reported in document order. -/
theorem keyFor_narrows (output : Output) :
    (∀ first second : String, Text.foldCase first.toList = Text.foldCase second.toList →
      output.candidates first = output.candidates second) ∧
    (∀ name longer : String, name.toList <+: longer.toList →
      (∀ key ∈ output.candidates longer, key ∈ output.candidates name) ∧
      ∀ key, output.keyFor name = .ok key →
        output.keyFor longer = .ok key ∨
          output.keyFor longer = .error (.contractNotFound longer output.keys)) ∧
    ∀ name : String,
      (∀ key, output.keyFor name = .ok key ↔ output.keysWith name = [key]) ∧
      ∀ error, output.keyFor name = .error error ↔
        output.keysWith name = [] ∧ error = .contractNotFound name output.keys ∨
        1 < (output.keysWith name).length ∧
          error = .ambiguousContract name (output.keysWith name) := by
  simp only [candidates_eq_keysWith]
  refine ⟨fun first second same => ?_, fun name longer begins => ?_, fun name => ?_⟩
  · exact keysWith_congr same
  · have fewer : (output.keysWith longer).Sublist (output.keysWith name) :=
      keysWith_sublist (begins.map Text.foldChar)
    refine ⟨fun key mem => fewer.subset mem, fun key chosen => ?_⟩
    rw [keyFor_eq_ok_iff_keysWith.mp chosen, List.sublist_singleton] at fewer
    exact fewer.symm.imp keyFor_eq_ok_iff_keysWith.mpr fun none =>
      keyFor_eq_error_iff.mpr (.inl ⟨none, rfl⟩)
  · exact ⟨fun key => keyFor_eq_ok_iff_keysWith, fun error => keyFor_eq_error_iff⟩

/-- The Kelvin sign and the long s are spellings of their letters, a name goes on across a line
feed, and what has a meaning in patterns stands for itself. -/
theorem keyFor_narrows_respelled :
    let output : Output :=
      ⟨.combined, [("a/Kis\n.s[ol]", .null), ("a\\Bar.sol", .null)], [], [], none⟩
    output.candidates "\u212Ai\u017F" = output.candidates "kis" ∧
    output.keyFor "kis" = .ok "a/Kis\n.s[ol]" ∧
    (output.keyFor "kis\n.S[" = .ok "a/Kis\n.s[ol]" ∨
      output.keyFor "kis\n.S[" = .error (.contractNotFound "kis\n.S[" output.keys)) := by
  intro output
  have chosen : output.keyFor "kis" = .ok "a/Kis\n.s[ol]" := by rfl
  exact ⟨(keyFor_narrows output).1 _ _ (by decide), chosen,
    ((keyFor_narrows output).2.1 "kis" "kis\n.S[" (by decide)).2 _ chosen⟩

end Output

end SourceTrace.Compiler
