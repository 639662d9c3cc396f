import SourceTrace.Compiler.Artifact
import SourceTrace.Proofs.Json.Keys
import SourceTrace.Proofs.Source.Sets

/-!
# Numbers of sources

A source has a number of its own or falls back to one of its positions, and of two sources with one
number the later one counts. So a number of its own is no safe place: a source without one that
comes later may fall back to it. `Compiler.Output.path?_own_id_iff` says that nothing else can take
the place, and `Compiler.Output.path?_own_id_taken` is a source that loses it.
-/

namespace SourceTrace

/-- A path is found for a number from the end of a list exactly if it stands somewhere with the
number and the number does not occur behind it. -/
theorem lookup_reverse_eq_some_iff {pairs : List (Int64 × String)} {id : Int64} {path : String} :
    pairs.reverse.lookup id = some path ↔
      ∃ position : Nat, pairs[position]? = some (id, path) ∧
        ∀ (later : Nat) (other : String), position < later →
          pairs[later]? ≠ some (id, other) := by
  constructor
  · intro found
    obtain ⟨behind, before, reversed, clear⟩ := List.lookup_eq_some_iff.mp found
    have split : pairs = before.reverse ++ (id, path) :: behind.reverse := by
      simpa using congrArg List.reverse reversed
    refine ⟨before.length, by simp [split], ?_⟩
    intro later other after present
    obtain ⟨offset, rfl⟩ := Nat.exists_eq_add_of_lt after
    have found : behind.reverse[offset]? = some (id, other) := by
      rw [split, List.getElem?_append_right (by simp; omega)] at present
      simpa [Nat.add_assoc] using present
    have mem : (id, other) ∈ behind := List.mem_reverse.mp (List.mem_of_getElem? found)
    simpa using clear (id, other) mem
  · rintro ⟨position, present, clear⟩
    have split : pairs = pairs.take position ++ (id, path) :: pairs.drop (position + 1) := by
      obtain ⟨bound, equal⟩ := List.getElem?_eq_some_iff.mp present
      rw [← equal, ← List.drop_eq_getElem_cons bound, List.take_append_drop]
    refine List.lookup_eq_some_iff.mpr ⟨(pairs.drop (position + 1)).reverse,
      (pairs.take position).reverse, ?_, ?_⟩
    · simpa using congrArg List.reverse split
    · rintro ⟨number, other⟩ mem
      obtain ⟨offset, found⟩ := List.mem_iff_getElem?.mp (List.mem_reverse.mp mem)
      rw [List.getElem?_drop] at found
      simp only [bne_iff_ne, ne_eq]
      rintro rfl
      exact clear (position + 1 + offset) other (by omega) found

namespace Compiler

/-- The number that a source has of its own. -/
def ownId? (source : Json) : Option Int64 :=
  (source.get? "id").bind Json.int64?

namespace Output

variable {output : Output} {metadata : Option Metadata}

/-- The number that a source without one of its own falls back to. -/
def fallbackId (output : Output) (metadata : Option Metadata) (position : Nat) (path : String) :
    Int64 :=
  let listed := (output.listPosition? path).orElse fun _ => metadata.bind (·.position? path)
  Int64.ofNat (listed.getD position)

/-- A source has its own number, or else the one that it falls back to. -/
theorem sourceId_eq (position : Nat) (path : String) (source : Json) :
    output.sourceId metadata position path source =
      (ownId? source).getD (output.fallbackId metadata position path) := by
  simp only [sourceId, ownId?, fallbackId]
  cases (source.get? "id").bind Json.int64? <;> rfl

/-- The numbers and paths of sources stand where the sources do. -/
theorem getElem?_sourceIds (present : output.sources ≠ []) (position : Nat) :
    (output.sourceIds metadata)[position]? = output.sources[position]?.map fun source =>
      (output.sourceId metadata position source.1 source.2, source.1) := by
  have nonempty : (!output.sources.isEmpty) = true := by simpa using present
  rw [sourceIds, if_pos nonempty, List.getElem?_map, List.getElem?_zipIdx, Option.map_map]
  simp [Function.comp_def]

/-- The path of a number is the last one that has it. -/
theorem path?_sourceSet (artifact : Artifact) (files : Files) (directory : Option String)
    (id : Int64) :
    (output.sourceSet artifact files directory).2.path? id =
      (output.sourceIds artifact.metadata).reverse.lookup id := by
  simp only [sourceSet, SourceSet.path?, SourceSet.get?_ofList, List.map_map, ← List.map_reverse]
  induction (output.sourceIds artifact.metadata).reverse with
  | nil => rfl
  | cons source rest inductionHypothesis =>
    obtain ⟨number, path⟩ := source
    simp only [List.map_cons, Function.comp_apply, List.lookup_cons]
    split
    · rfl
    · exact inductionHypothesis

/-- The paths of an output that was read from a document with distinct keys are distinct. -/
theorem nodup_paths_of_ofJson {document : Json} (distinct : document.hasDistinctKeys = true)
    (read : ofJson document = .ok output) : (output.sources.map Prod.fst).Nodup := by
  simp only [ofJson] at read
  split at read
  · cases read
  · split at read
    · cases read
    · cases read
      cases present : document.get? "sources" with
      | none => exact List.nodup_nil
      | some sources => exact Json.nodup_members (Json.hasDistinctKeys_of_get? distinct present)
    · cases read

/-- A path stands at one position only. -/
theorem position_eq_of_path_eq (distinct : (output.sources.map Prod.fst).Nodup)
    {first second : Nat} {path : String} {source entry : Json}
    (firstAt : output.sources[first]? = some (path, source))
    (secondAt : output.sources[second]? = some (path, entry)) : first = second := by
  have firstPath : (output.sources.map Prod.fst)[first]? = some path := by simp [firstAt]
  have secondPath : (output.sources.map Prod.fst)[second]? = some path := by simp [secondAt]
  obtain ⟨bound, -⟩ := List.getElem?_eq_some_iff.mp firstPath
  exact (List.getElem?_inj bound distinct).mp (firstPath.trans secondPath.symm)

/-- A number that a source has of its own is no other source's own number. -/
theorem ownId?_ne_of_lt (distinct : (output.sources.filterMap fun source => ownId? source.2).Nodup)
    {first second : Nat} {firstSource secondSource : String × Json} {id : Int64}
    (before : first < second) (firstAt : output.sources[first]? = some firstSource)
    (secondAt : output.sources[second]? = some secondSource)
    (own : ownId? firstSource.2 = some id) :
    ownId? secondSource.2 ≠ some id := by
  intro sameOwn
  obtain ⟨firstBound, rfl⟩ := List.getElem?_eq_some_iff.mp firstAt
  obtain ⟨secondBound, rfl⟩ := List.getElem?_eq_some_iff.mp secondAt
  have apart := List.pairwise_iff_getElem.mp (List.pairwise_filterMap.mp distinct)
    first second firstBound secondBound before
  exact apart id own id sameOwn rfl

/-- A source with a number of its own is found under it exactly if no later source that has none
falls back to this number. The numbers that sources have of their own are taken to be distinct. -/
theorem path?_own_id_iff {document : Json} (distinct : document.hasDistinctKeys = true)
    (read : ofJson document = .ok output)
    (ownIds : (output.sources.filterMap fun source => ownId? source.2).Nodup)
    (artifact : Artifact) (files : Files) (directory : Option String)
    {position : Nat} {path : String} {source : Json} {id : Int64}
    (present : output.sources[position]? = some (path, source)) (own : ownId? source = some id) :
    (output.sourceSet artifact files directory).2.path? id = some path ↔
      ∀ later other entry, position < later → output.sources[later]? = some (other, entry) →
        ownId? entry = none → output.fallbackId artifact.metadata later other ≠ id := by
  have nonempty : output.sources ≠ [] := List.ne_nil_of_mem (List.mem_of_getElem? present)
  rw [path?_sourceSet, lookup_reverse_eq_some_iff]
  constructor
  · rintro ⟨place, placed, clear⟩ later other entry after laterAt unnumbered fallsBack
    rw [getElem?_sourceIds nonempty] at placed
    obtain ⟨⟨found, foundSource⟩, placeAt, numbered⟩ := Option.map_eq_some_iff.mp placed
    obtain ⟨-, rfl⟩ := Prod.mk.inj numbered
    obtain rfl : position = place :=
      position_eq_of_path_eq (nodup_paths_of_ofJson distinct read) present placeAt
    apply clear later other after
    rw [getElem?_sourceIds nonempty, laterAt, Option.map_some, sourceId_eq, unnumbered,
      Option.getD_none, fallsBack]
  · intro untaken
    refine ⟨position, ?_, ?_⟩
    · rw [getElem?_sourceIds nonempty, present, Option.map_some, sourceId_eq, own,
        Option.getD_some]
    · intro later other after placed
      rw [getElem?_sourceIds nonempty] at placed
      obtain ⟨⟨found, entry⟩, laterAt, numbered⟩ := Option.map_eq_some_iff.mp placed
      obtain ⟨number, rfl⟩ := Prod.mk.inj numbered
      rw [sourceId_eq] at number
      cases itsOwn : ownId? entry with
      | none =>
        rw [itsOwn, Option.getD_none] at number
        exact untaken later found entry after laterAt itsOwn number
      | some other =>
        rw [itsOwn, Option.getD_some] at number
        exact ownId?_ne_of_lt ownIds after present laterAt own (number ▸ itsOwn)

section Documents

/-- A compiler output of one contract with these sources. -/
def documentOf (sources : List (String × Json)) : Json :=
  .obj [("contracts", .obj [("a.sol", .obj [("A", .obj [("evm", .obj [("deployedBytecode",
    .obj [("object", .str "00"), ("sourceMap", .str "0:1:1")])])])])]), ("sources", .obj sources)]

/-- The contract of this output. -/
def artifactA : Artifact :=
  ⟨"a.sol", "A", "00", "0:1:1", none, none⟩

/-- A source keeps its number where the sources around it fall back to other ones. -/
theorem path?_own_id_kept :
    let sources : List (String × Json) :=
      [("b.sol", .obj []), ("a.sol", .obj [("id", .num (.int 1))]), ("c.sol", .obj [])]
    (documentOf sources).hasDistinctKeys = true ∧
      ∃ output, ofJson (documentOf sources) = .ok output ∧
      (output.artifact "A").2 = .ok artifactA ∧
        (output.sources.filterMap fun source => ownId? source.2).Nodup ∧
        ∀ files directory, (output.sourceSet artifactA files directory).2.path? 1 =
          some "a.sol" := by
  intro sources
  have distinct : (documentOf sources).hasDistinctKeys = true := by decide
  refine ⟨distinct, _, rfl, by rfl, by decide, fun files directory => ?_⟩
  refine (path?_own_id_iff distinct rfl (by decide) artifactA files directory
    (show sources[1]? = some ("a.sol", .obj [("id", .num (.int 1))]) from rfl) rfl).mpr ?_
  intro later other entry after laterAt unnumbered
  have isLast : later = 2 := by
    obtain ⟨bound, -⟩ := List.getElem?_eq_some_iff.mp laterAt
    exact Nat.le_antisymm (Nat.le_of_lt_succ bound) after
  subst isLast
  cases laterAt
  decide

/-- A source that falls back to the number of another one takes its place, though both numbers come
from the same document and no number is given twice. -/
theorem path?_own_id_taken :
    let sources : List (String × Json) :=
      [("a.sol", .obj [("id", .num (.int 1))]), ("b.sol", .obj [])]
    (documentOf sources).hasDistinctKeys = true ∧
      ∃ output, ofJson (documentOf sources) = .ok output ∧ output.sources = sources ∧
        (output.artifact "A").2 = .ok artifactA ∧
        (output.sources.filterMap fun source => ownId? source.2) = [1] ∧
        ∀ files directory, (output.sourceSet artifactA files directory).2.path? 1 =
          some "b.sol" := by
  intro sources
  refine ⟨by decide, _, rfl, rfl, by rfl, by rfl, fun files directory => ?_⟩
  rw [path?_sourceSet]
  rfl

end Documents

end Output

end Compiler

end SourceTrace
