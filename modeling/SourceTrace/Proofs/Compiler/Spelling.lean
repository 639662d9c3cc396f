import SourceTrace.Compiler.Artifact
import SourceTrace.Proofs.Compiler.Narrowing

/-!
# Spellings of a contract's name

A contract is looked up in two stages. The file is found by a name in any case, but among several
contracts of the file the name has to be spelled as there. So of two spellings of a name both find
the same file, and the artifact is the same where the file holds a single contract, but else one
spelling may name a contract and the other one none.
`Compiler.Output.hasArtifact_iff_iff_of_equalUpToCase` says exactly when the spellings succeed
together, and `Compiler.Output.artifact_lost_in_lower_case` is a contract that is lost.
-/

namespace SourceTrace

namespace Text

/-- A character that is no capital letter of ASCII stays as it is. -/
theorem toLower_eq_self {c : Char} (other : ¬(c.val ≥ 'A'.val ∧ c.val ≤ 'Z'.val)) :
    c.toLower = c :=
  dif_neg other

/-- The lower case of a character is the character itself, or both are ASCII letters. -/
theorem toLower_eq_self_or_ascii (c : Char) :
    c.toLower = c ∨ c.toNat < 0x80 ∧ c.toLower.toNat < 0x80 ∧
      c.toLower.toLower = c.toLower := by
  by_cases upper : c.val ≥ 'A'.val ∧ c.val ≤ 'Z'.val
  · have bounds : 65 ≤ c.toNat ∧ c.toNat ≤ 90 := by
      simpa [UInt32.le_iff_toNat_le] using upper
    have lowered : c.toLower.toNat = c.toNat + 32 := by
      have added : c.toLower.val = c.val + 32 := congrArg Char.val (dif_pos upper)
      rw [← Char.toNat_val, added, UInt32.toNat_add, Char.toNat_val]
      exact Nat.mod_eq_of_lt (by simp; omega)
    refine .inr ⟨by omega, by omega, toLower_eq_self ?_⟩
    simp [UInt32.le_iff_toNat_le]
    omega
  · exact .inl (toLower_eq_self upper)

/-- Folding does not tell a character from its lower case. -/
theorem foldChar_toLower (c : Char) : foldChar c.toLower = foldChar c := by
  obtain same | ⟨ascii, loweredAscii, lowered⟩ := toLower_eq_self_or_ascii c
  · rw [same]
  · rw [foldChar, if_pos loweredAscii, lowered, foldChar, if_pos ascii]

/-- Texts that differ only in the case of ASCII letters are equal up to case. -/
theorem foldCase_eq_of_toLower_eq {first second : List Char}
    (same : first.map Char.toLower = second.map Char.toLower) :
    foldCase first = foldCase second := by
  have lowered (chars : List Char) : foldCase (chars.map Char.toLower) = foldCase chars := by
    simp [foldCase, foldChar_toLower]
  rw [← lowered first, same, lowered]

end Text

namespace Compiler

/-- Two names differ at most in the case of their ASCII letters. -/
def EqualUpToCase (first second : String) : Prop :=
  first.toList.map Char.toLower = second.toList.map Char.toLower

/-- Whether texts are equal up to case can be decided. -/
instance (first second : String) : Decidable (EqualUpToCase first second) :=
  inferInstanceAs (Decidable (_ = _))

/-- A contract has all the parts that a lookup cannot do without. -/
def IsComplete (format : Format) (contract : Json) : Prop :=
  ∀ part, (textAt? contract (format.pathTo part)).isSome = true

/-- The contract of a file that a name names, by itself or as a file name without extension. -/
def named? (file : Json) (name : String) : Option Json :=
  (file.get? name).or (file.get? ((Path.fileStem? name).getD name))

/-- A name names a contract of a file, and the contract is complete. -/
def NamesComplete (file : Json) (name : String) : Prop :=
  ∃ contract, named? file name = some contract ∧ IsComplete .standard contract

/-- A key is listed exactly if there is a value under it. -/
theorem mem_map_fst_iff {members : List (String × Json)} {key : String} :
    key ∈ members.map Prod.fst ↔ ∃ value, members.lookup key = some value := by
  rw [← Option.isSome_iff_exists, List.lookup_isSome_iff, List.mem_map]
  refine exists_congr fun member => and_congr_right fun _ => ?_
  rw [beq_iff_eq, eq_comm]

/-- There is a contract under a name that is listed. -/
theorem get?_of_contains {file : Json} {name : String}
    (listed : (file.members.map Prod.fst).contains name = true) :
    ∃ contract, file.get? name = some contract :=
  mem_map_fst_iff.mp (List.contains_iff_mem.mp listed)

/-- There is nothing under a name that is not listed. -/
theorem get?_of_not_contains {file : Json} {name : String}
    (unlisted : ¬(file.members.map Prod.fst).contains name = true) : file.get? name = none :=
  Json.lookup_eq_none_of_notMem fun mem => unlisted (List.contains_iff_mem.mpr mem)

/-- Where a file holds several contracts or none, the contract that is named is selected, and none
if there is no such contract. -/
theorem selectName_of_several {file : Json} (name key : String)
    (several : file.members.length ≠ 1) :
    (∃ selected contract, selectName file.members name key = .ok selected ∧
      file.get? selected = some contract ∧ named? file name = some contract) ∨
    (∃ error, selectName file.members name key = .error error) ∧ named? file name = none := by
  simp only [selectName, named?]
  split
  case isTrue listed =>
    obtain ⟨contract, held⟩ := get?_of_contains listed
    exact .inl ⟨name, contract, rfl, held, by rw [held, Option.some_or]⟩
  case isFalse unlisted =>
    rw [get?_of_not_contains unlisted, Option.none_or]
    split
    case isTrue listed =>
      obtain ⟨contract, held⟩ := get?_of_contains listed
      exact .inl ⟨_, contract, rfl, held, held⟩
    case isFalse unlisted =>
      split
      case h_1 only sole => simp [← List.length_map Prod.fst, sole] at several
      case h_2 => exact .inr ⟨⟨_, rfl⟩, get?_of_not_contains unlisted⟩

/-- A contract that is alone in its file is selected under every name. -/
theorem selectName_of_sole (only : String) (contract : Json) (name key : String) :
    selectName [(only, contract)] name key = .ok only := by
  simp only [selectName, List.map_cons, List.map_nil, List.contains_cons, List.contains_nil,
    Bool.or_false, beq_iff_eq]
  split
  · rename_i same
    rw [same]
  · split
    · rename_i same
      rw [same]
    · rfl

namespace Output

variable {output : Output} {name key : String} {file : Json}

/-- A name finds a file of an output. -/
def Finds (output : Output) (name : String) (file : Json) : Prop :=
  ∃ key, output.keyFor name = .ok key ∧ output.contracts.lookup key = some file

/-- There is an artifact for a name. -/
def HasArtifact (output : Output) (name : String) : Prop :=
  ∃ artifact, (output.artifact name).2 = .ok artifact

/-- A contract has an artifact exactly if it is complete. -/
theorem exists_artifactOf_iff {contractName : String} {contract : Json} :
    (∃ artifact, (output.artifactOf key contractName contract).2 = .ok artifact) ↔
      IsComplete output.format contract := by
  have complete : IsComplete output.format contract ↔
      (textAt? contract (output.format.pathTo .bytecode)).isSome = true ∧
        (textAt? contract (output.format.pathTo .sourceMap)).isSome = true := by
    refine ⟨fun all => ⟨all .bytecode, all .sourceMap⟩, fun both part => ?_⟩
    cases part with
    | bytecode => exact both.1
    | sourceMap => exact both.2
  rw [complete, artifactOf]
  split
  · rename_i absent
    simp [absent]
  · rename_i absent
    simp [absent]
  · rename_i bytecode sourceMap
    simp [bytecode, sourceMap]

/-- There is an entry under a key that was selected. -/
theorem exists_lookup_of_keyFor (chosen : output.keyFor name = .ok key) :
    ∃ file, output.contracts.lookup key = some file := by
  have candidate : key ∈ output.candidates name := by
    rw [keyFor_eq_ok_iff.mp chosen]
    exact List.mem_singleton_self key
  exact mem_map_fst_iff.mp (mem_candidates_iff.mp candidate).1

/-- The contract behind a key of the standard layout is the one that is selected in its file. -/
theorem contractAt_of_standard (standard : output.format = .standard)
    (listed : output.contracts.lookup key = some file) :
    output.contractAt name key = (selectName file.members name key).map fun selected =>
      (selected, (file.get? selected).getD .null) := by
  rw [contractAt, listed]
  simp only [standard]
  cases selectName file.members name key <;> rfl

/-- In a file with several contracts, a name has an artifact just if it names a complete
contract. -/
theorem hasArtifact_iff_of_several (standard : output.format = .standard)
    (finds : output.Finds name file) (several : file.members.length ≠ 1) :
    output.HasArtifact name ↔ NamesComplete file name := by
  obtain ⟨key, chosen, listed⟩ := finds
  rw [HasArtifact, artifact_snd, chosen, Except.bind, contractAt_of_standard standard listed,
    NamesComplete]
  obtain ⟨selected, contract, found, held, named⟩ | ⟨⟨error, failed⟩, unnamed⟩ :=
    selectName_of_several name key several
  · simp only [found, Except.map, Except.bind, held, Option.getD_some, named]
    rw [exists_artifactOf_iff, standard]
    simp
  · simp [failed, Except.map, Except.bind, unnamed]

/-- In a file with a single contract, the name is not looked at. -/
theorem artifact_of_sole (standard : output.format = .standard)
    (chosen : output.keyFor name = .ok key) (listed : output.contracts.lookup key = some file)
    {only : String} {contract : Json} (sole : file.members = [(only, contract)]) :
    (output.artifact name).2 = (output.artifactOf key only contract).2 := by
  have held : file.get? only = some contract := by simp [Json.get?, sole]
  rw [artifact_snd, chosen, Except.bind, contractAt_of_standard standard listed, sole,
    selectName_of_sole]
  simp [Except.bind, Except.map, held]

/-- A name with an artifact finds an entry. -/
theorem HasArtifact.exists_finds (found : output.HasArtifact name) :
    ∃ file, output.Finds name file := by
  obtain ⟨artifact, made⟩ := found
  rw [artifact_snd] at made
  cases chosen : output.keyFor name with
  | error error => simp [chosen, Except.bind] at made
  | ok key =>
    obtain ⟨file, listed⟩ := exists_lookup_of_keyFor chosen
    exact ⟨file, key, chosen, listed⟩

/-- Two spellings of a name find the same file of an output in the standard layout. If the file
holds a single contract, they have the same artifact, or the same fault. They succeed together
exactly if, in a file with several contracts, both name a complete contract or neither does. -/
theorem hasArtifact_iff_iff_of_equalUpToCase {first second : String}
    (standard : output.format = .standard) (same : EqualUpToCase first second) :
    (∀ key, output.keyFor first = .ok key ↔ output.keyFor second = .ok key) ∧
    (∀ file, output.Finds first file → file.members.length = 1 →
      (output.artifact first).2 = (output.artifact second).2) ∧
    ((output.HasArtifact first ↔ output.HasArtifact second) ↔
      ∀ file, output.Finds first file → file.members.length ≠ 1 →
        (NamesComplete file first ↔ NamesComplete file second)) := by
  have keys (key : String) : output.keyFor first = .ok key ↔ output.keyFor second = .ok key := by
    rw [keyFor_eq_ok_iff_keysWith, keyFor_eq_ok_iff_keysWith,
      keysWith_congr (Text.foldCase_eq_of_toLower_eq same)]
  have files (file : Json) : output.Finds first file ↔ output.Finds second file := by
    simp only [Finds, keys]
  have sole (file : Json) (found : output.Finds first file) (single : file.members.length = 1) :
      (output.artifact first).2 = (output.artifact second).2 := by
    obtain ⟨key, chosen, listed⟩ := found
    obtain ⟨⟨only, contract⟩, members⟩ := List.length_eq_one_iff.mp single
    rw [artifact_of_sole standard chosen listed members,
      artifact_of_sole standard ((keys key).mp chosen) listed members]
  refine ⟨keys, sole, fun together file found several => ?_, fun named => ?_⟩
  · rwa [hasArtifact_iff_of_several standard found several,
      hasArtifact_iff_of_several standard ((files file).mp found) several] at together
  · by_cases finding : ∃ file, output.Finds first file
    · obtain ⟨file, found⟩ := finding
      by_cases single : file.members.length = 1
      · rw [HasArtifact, HasArtifact, sole file found single]
      · rw [hasArtifact_iff_of_several standard found single,
          hasArtifact_iff_of_several standard ((files file).mp found) single]
        exact named file found single
    · refine iff_of_false (fun has => finding has.exists_finds) fun has => finding ?_
      obtain ⟨file, found⟩ := has.exists_finds
      exact ⟨file, (files file).mpr found⟩

section Documents

/-- A contract with the parts it needs. -/
def smallContract : Json :=
  .obj [("evm", .obj [("deployedBytecode",
    .obj [("object", .str "00"), ("sourceMap", .str "0:1:0")])])]

/-- A file with one contract and a file with two. -/
def twoFiles : Json :=
  .obj [("contracts", .obj [("Bar.sol", .obj [("Bar", smallContract)]),
    ("Math.sol", .obj [("Math", smallContract), ("MathHelper", smallContract)])])]

/-- A contract that is alone in its file is found under every spelling of the file. -/
theorem hasArtifact_iff_iff_of_equalUpToCase_sole :
    ∃ output, ofJson twoFiles = .ok output ∧ output.format = .standard ∧
      EqualUpToCase "Bar" "bAR" ∧ output.HasArtifact "Bar" ∧
      (output.artifact "Bar").2 = (output.artifact "bAR").2 := by
  refine ⟨_, rfl, rfl, by decide, ⟨_, by rfl⟩, ?_⟩
  exact (hasArtifact_iff_iff_of_equalUpToCase rfl (by decide)).2.1 (.obj [("Bar", smallContract)])
    ⟨"Bar.sol", by rfl, by rfl⟩ (by rfl)

/-- Where a file holds two contracts, a contract is lost if its name is spelled in lower case,
though the file is found. -/
theorem artifact_lost_in_lower_case :
    ∃ output, ofJson twoFiles = .ok output ∧ output.format = .standard ∧
      EqualUpToCase "Math" "math" ∧ output.keyFor "math" = .ok "Math.sol" ∧
      (output.artifact "Math").2 = .ok ⟨"Math.sol", "Math", "00", "0:1:0", none, none⟩ ∧
      (output.artifact "math").2 =
        .error (.contractNotFound "math" ["Math.sol:Math", "Math.sol:MathHelper"]) :=
  ⟨_, rfl, rfl, by decide, by rfl, by rfl, by rfl⟩

end Documents

end Output

end Compiler

end SourceTrace
