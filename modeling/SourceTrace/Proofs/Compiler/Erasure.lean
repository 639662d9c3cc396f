import Mathlib.Data.List.Forall2
import SourceTrace.Proofs.Compiler.Numbering

/-!
# Compiler output without metadata

What a contract is mapped with does not depend on its metadata, be they valid, malformed or missing:
taking an artifact out of an output without metadata gives the same artifact without metadata, or
the same fault (`Compiler.Output.artifact_withoutMetadata`). So documents that are equal but for
metadata give artifacts with the same code, and if their sources are numbered otherwise, the same
numbers and paths, with texts that differ only where metadata embed one:
`Compiler.Output.artifact_of_withoutMetadata_eq`.
-/

namespace SourceTrace

namespace Json

/-- Changes the values of the members of an object. -/
def mapMembers (change : String → Json → Json) : Json → Json
  | obj members => obj (members.map fun member => (member.1, change member.1 member.2))
  | value => value

variable {change : String → Json → Json} {value : Json} {key : String}

/-- The members of an object are changed one by one. -/
theorem members_mapMembers :
    (value.mapMembers change).members =
      value.members.map fun member => (member.1, change member.1 member.2) := by
  cases value <;> rfl

/-- What stands under a key is changed. -/
theorem get?_mapMembers :
    (value.mapMembers change).get? key = (value.get? key).map (change key) := by
  rw [get?, get?, members_mapMembers]
  induction value.members with
  | nil => rfl
  | cons member rest inductionHypothesis =>
    obtain ⟨other, held⟩ := member
    rw [List.map_cons, List.lookup_cons, List.lookup_cons, inductionHypothesis]
    by_cases same : key = other
    · simp [same]
    · simp [beq_eq_false_iff_ne.mpr same]

/-- Changing members keeps what kind of value it is. -/
theorem isObject_mapMembers : (value.mapMembers change).isObject = value.isObject := by
  cases value <;> rfl

end Json

namespace Compiler

/-- Two results are the same fault, or values that are related. -/
inductive SameOutcome {ε α β : Type} (Related : α → β → Prop) :
    Except ε α → Except ε β → Prop where
  | error (fault : ε) : SameOutcome Related (.error fault) (.error fault)
  | ok {first : α} {second : β} (related : Related first second) :
      SameOutcome Related (.ok first) (.ok second)

namespace SameOutcome

variable {ε α β γ : Type} {Related : α → β → Prop} {first : Except ε α}
  {second : Except ε β}

/-- Two successes have the same outcome exactly if their values are related. -/
theorem ok_iff {value : α} {other : β} :
    SameOutcome Related (.ok value : Except ε α) (.ok other) ↔ Related value other :=
  ⟨fun | .ok related => related, .ok⟩

/-- Results that become the same when their values are changed have the same outcome. -/
theorem of_map_eq {change : α → γ} {otherChange : β → γ}
    (same : first.map change = second.map otherChange)
    (related : ∀ value other, change value = otherChange other → Related value other) :
    SameOutcome Related first second := by
  cases first with
  | error fault =>
    cases second with
    | error other =>
      cases same
      exact .error fault
    | ok other => cases same
  | ok value =>
    cases second with
    | error other => cases same
    | ok other => exact .ok (related value other (Except.ok.inj same))

end SameOutcome

/-- A contract without its metadata. -/
def contractWithoutMetadata : Json → Json
  | .obj members => .obj (members.filter fun member => member.1 ≠ "metadata")
  | contract => contract

/-- An entry among the contracts without metadata: a contract, or a file of contracts. -/
def Format.entryWithoutMetadata : Format → Json → Json
  | .combined, contract => contractWithoutMetadata contract
  | .standard, file => file.mapMembers fun _ contract => contractWithoutMetadata contract

/-- A document of the compiler without the metadata of its contracts. -/
def documentWithoutMetadata (document : Json) : Json :=
  document.mapMembers fun key value =>
    if key = "contracts" then
      value.mapMembers fun _ entry => (formatOf document value.members).entryWithoutMetadata entry
    else value

/-- An output without the metadata of its contracts. -/
def Output.withoutMetadata (output : Output) : Output :=
  { output with
    contracts := output.contracts.map fun entry =>
      (entry.1, output.format.entryWithoutMetadata entry.2) }

/-- An artifact without its metadata, of a compiler whose version may be known otherwise. -/
def Artifact.withoutMetadata (version : Option String) (artifact : Artifact) : Artifact :=
  { artifact with compilerVersion := version, metadata := none }

section Reading

variable {key : String}

/-- A contract loses its metadata, and nothing else. -/
theorem get?_contractWithoutMetadata (contract : Json) (key : String) :
    (contractWithoutMetadata contract).get? key =
      if key = "metadata" then none else contract.get? key := by
  cases contract with
  | obj members => exact lookup_filter_ne "metadata" key members
  | _ =>
    change none = _
    split <;> rfl

/-- An entry keeps all its members but the metadata. -/
theorem isSome_get?_entryWithoutMetadata (format : Format) (entry : Json)
    (other : key ≠ "metadata") :
    ((format.entryWithoutMetadata entry).get? key).isSome = (entry.get? key).isSome := by
  cases format with
  | combined => rw [Format.entryWithoutMetadata, get?_contractWithoutMetadata, if_neg other]
  | standard => rw [Format.entryWithoutMetadata, Json.get?_mapMembers, Option.isSome_map]

/-- A document keeps all that is not among its contracts. -/
theorem get?_documentWithoutMetadata (document : Json) (other : key ≠ "contracts") :
    (documentWithoutMetadata document).get? key = document.get? key := by
  rw [documentWithoutMetadata, Json.get?_mapMembers]
  simp [other]

/-- Metadata do not matter to the layout of a document. -/
theorem formatOf_withoutMetadata (format : Format) (document : Json)
    (contracts : List (String × Json)) :
    formatOf (documentWithoutMetadata document)
        (contracts.map fun entry => (entry.1, format.entryWithoutMetadata entry.2)) =
      formatOf document contracts := by
  simp only [formatOf, List.any_map, Function.comp_def]
  rw [get?_documentWithoutMetadata document (by decide)]
  simp only [
    isSome_get?_entryWithoutMetadata format _ (show "bin-runtime" ≠ "metadata" by decide),
    isSome_get?_entryWithoutMetadata format _ (show "srcmap-runtime" ≠ "metadata" by decide)]

/-- Reading a document without metadata gives the output without metadata. -/
theorem ofJson_documentWithoutMetadata (document : Json) :
    Output.ofJson (documentWithoutMetadata document) =
      (Output.ofJson document).map Output.withoutMetadata := by
  have contracts : (documentWithoutMetadata document).get? "contracts" =
      (document.get? "contracts").map fun value => value.mapMembers fun _ entry =>
        (formatOf document value.members).entryWithoutMetadata entry := by
    rw [documentWithoutMetadata, Json.get?_mapMembers]
    rfl
  have isObject : (documentWithoutMetadata document).isObject = document.isObject :=
    Json.isObject_mapMembers
  rw [Output.ofJson, Output.ofJson, isObject, contracts]
  split
  · rfl
  · cases document.get? "contracts" with
    | none => rfl
    | some value =>
      cases value with
      | obj members =>
        cases members with
        | nil => rfl
        | cons entry rest =>
          have layout :=
            formatOf_withoutMetadata (formatOf document (entry :: rest)) document (entry :: rest)
          rw [List.map_cons] at layout
          simp only [Option.map_some, Json.mapMembers, Json.members, List.map_cons, Except.map,
            Output.withoutMetadata, layout,
            get?_documentWithoutMetadata document (show "sources" ≠ "contracts" by decide),
            get?_documentWithoutMetadata document (show "sourceList" ≠ "contracts" by decide),
            get?_documentWithoutMetadata document (show "version" ≠ "contracts" by decide)]
      | _ => rfl

end Reading

namespace Output

variable {output : Output} {name key : String}

/-- Contracts keep their keys. -/
theorem keys_withoutMetadata (output : Output) : output.withoutMetadata.keys = output.keys := by
  simp [keys, withoutMetadata, Function.comp_def]

/-- A name selects the same key. -/
theorem keyFor_withoutMetadata (output : Output) (name : String) :
    output.withoutMetadata.keyFor name = output.keyFor name := by
  simp only [keyFor, candidates, keys_withoutMetadata]

/-- What stands under a key loses its metadata. -/
theorem lookup_withoutMetadata (output : Output) (key : String) :
    output.withoutMetadata.contracts.lookup key =
      (output.contracts.lookup key).map output.format.entryWithoutMetadata :=
  @Json.get?_mapMembers (fun _ entry => output.format.entryWithoutMetadata entry)
    (.obj output.contracts) key

/-- The contract behind a key is the same without metadata. -/
theorem contractAt_withoutMetadata (output : Output) (name key : String) :
    output.withoutMetadata.contractAt name key =
      (output.contractAt name key).map fun found => (found.1, contractWithoutMetadata found.2) := by
  have layout : output.withoutMetadata.format = output.format := rfl
  rw [contractAt, contractAt, lookup_withoutMetadata, keys_withoutMetadata, layout]
  cases output.contracts.lookup key with
  | none => rfl
  | some entry =>
    cases output.format with
    | combined => rfl
    | standard =>
      have selection : selectName (Format.standard.entryWithoutMetadata entry).members name key =
          selectName entry.members name key := by
        rw [Format.entryWithoutMetadata, Json.members_mapMembers]
        simp only [selectName, List.map_map, Function.comp_def]
      simp only [Option.map_some, selection]
      cases selectName entry.members name key with
      | error error => rfl
      | ok selected =>
        simp only [Except.map, Format.entryWithoutMetadata, Json.get?_mapMembers]
        cases entry.get? selected <;> rfl

/-- The parts that every contract must have are not in its metadata. -/
theorem textAt?_withoutMetadata (format : Format) (part : RequiredPart) (contract : Json) :
    textAt? (contractWithoutMetadata contract) (format.pathTo part) =
      textAt? contract (format.pathTo part) := by
  have kept {first : String} {rest : List String} (other : first ≠ "metadata") :
      textAt? (contractWithoutMetadata contract) (first :: rest) =
        textAt? contract (first :: rest) := by
    rw [textAt?, textAt?, List.foldlM_cons, List.foldlM_cons, get?_contractWithoutMetadata,
      if_neg other]
  cases format <;> cases part <;> exact kept (by decide)

/-- The artifact of a contract without metadata is its artifact with nothing from metadata. -/
theorem artifactOf_withoutMetadata (output : Output) (key contractName : String) (contract : Json) :
    (output.withoutMetadata.artifactOf key contractName (contractWithoutMetadata contract)).2 =
      (output.artifactOf key contractName contract).2.map
        (Artifact.withoutMetadata output.version) := by
  have layout : output.withoutMetadata.format = output.format := rfl
  have unknown : metadataOf key (contractWithoutMetadata contract) = ([], none) := by
    rw [metadataOf, get?_contractWithoutMetadata, if_pos rfl]
    rfl
  rw [artifactOf, artifactOf, layout, textAt?_withoutMetadata, textAt?_withoutMetadata]
  split <;> simp only [unknown] <;> rfl

/-- Without metadata, an output has the same artifacts without metadata, or the same fault. -/
theorem artifact_withoutMetadata (output : Output) (name : String) :
    (output.withoutMetadata.artifact name).2 =
      (output.artifact name).2.map (Artifact.withoutMetadata output.version) := by
  rw [artifact_snd, artifact_snd, keyFor_withoutMetadata]
  cases output.keyFor name with
  | error error => rfl
  | ok key =>
    simp only [Except.bind, contractAt_withoutMetadata]
    cases output.contractAt name key with
    | error error => rfl
    | ok found => exact artifactOf_withoutMetadata output key found.1 found.2

/-- Every source of an output has a number of its own or stands in the list of sources. -/
def NumbersSources (output : Output) : Prop :=
  ∀ source ∈ output.sources, (ownId? source.2).isSome = true ∨ source.1 ∈ output.sourceList

/-- Sources that are numbered otherwise do not get their numbers from metadata. -/
theorem NumbersSources.sourceIds_eq (numbered : output.NumbersSources)
    (present : output.sources ≠ [])
    (metadata other : Option Metadata) : output.sourceIds metadata = output.sourceIds other := by
  apply List.ext_getElem?
  intro position
  rw [getElem?_sourceIds present, getElem?_sourceIds present]
  cases held : output.sources[position]? with
  | none => rfl
  | some source =>
    rw [Option.map_some, Option.map_some, sourceId_eq, sourceId_eq]
    rcases numbered source (List.mem_of_getElem? held) with own | listed
    · obtain ⟨id, own⟩ := Option.isSome_iff_exists.mp own
      rw [own, Option.getD_some, Option.getD_some]
    · obtain ⟨place, found⟩ : ∃ place, output.listPosition? source.1 = some place := by
        rw [← Option.isSome_iff_exists, listPosition?, List.findIdx?_isSome]
        simpa using listed
      simp [fallbackId, found]

end Output

/-- Metadata embed the text of a source. -/
def Embeds (metadata : Option Metadata) (path : String) : Prop :=
  (metadata.bind (·.content? path)).isSome = true

/-- Two files have the same number and path, and the same content unless one of the metadata embeds
it. -/
structure SameButEmbedded (metadata other : Option Metadata) (first second : Numbered) : Prop where
  number : first.1 = second.1
  path : first.2.path = second.2.path
  content : first.2.content = second.2.content ∨ Embeds metadata first.2.path ∨
    Embeds other first.2.path

/-- Metadata change the content of a source only if they embed one. -/
theorem sourceContent_eq_or_embeds (files : Files) (metadata other : Option Metadata)
    (directory : Option String) (path : String) :
    (sourceContent files metadata directory path).2 =
      (sourceContent files other directory path).2 ∨
      Embeds metadata path ∨ Embeds other path := by
  simp only [Embeds, sourceContent]
  cases metadata.bind (·.content? path) with
  | some content => exact .inr (.inl rfl)
  | none =>
    cases other.bind (·.content? path) with
    | some content => exact .inr (.inr rfl)
    | none => exact .inl rfl

namespace Output

variable {output other : Output}

/-- Artifacts for which sources have the same numbers and paths have the same source files but for
embedded texts. -/
theorem forall₂_files_sourceSet {artifact otherArtifact : Artifact}
    (ids : output.sourceIds artifact.metadata = other.sourceIds otherArtifact.metadata)
    (files : Files) (directory : Option String) :
    List.Forall₂ (SameButEmbedded artifact.metadata otherArtifact.metadata)
      (output.sourceSet artifact files directory).2.files
      (other.sourceSet otherArtifact files directory).2.files := by
  apply SourceSet.forall₂_ofList fun _ _ same => same.number
  rw [ids, List.map_map, List.map_map, List.forall₂_map_left_iff, List.forall₂_map_right_iff,
    List.forall₂_same]
  intro source _
  exact ⟨rfl, rfl, sourceContent_eq_or_embeds files _ _ directory source.2⟩

/-- Documents that are equal but for the metadata of their contracts are refused for the same fault
or are read as outputs in which every name has the same fault or artifacts with the same key, name,
bytecode and source map. If every one of their sources is numbered otherwise, both artifacts have
source files with the same numbers and paths, and with the same contents except where one of their
metadata embeds a content. -/
theorem artifact_of_withoutMetadata_eq {first second : Json}
    (same : documentWithoutMetadata first = documentWithoutMetadata second) :
    SameOutcome (fun output other => ∀ name,
        SameOutcome (fun artifact otherArtifact =>
            artifact.key = otherArtifact.key ∧ artifact.name = otherArtifact.name ∧
            artifact.bytecode = otherArtifact.bytecode ∧
            artifact.sourceMap = otherArtifact.sourceMap ∧
            (output.sources ≠ [] → output.NumbersSources → ∀ files directory,
              List.Forall₂ (SameButEmbedded artifact.metadata otherArtifact.metadata)
                (output.sourceSet artifact files directory).2.files
                (other.sourceSet otherArtifact files directory).2.files))
          (output.artifact name).2 (other.artifact name).2)
      (ofJson first) (ofJson second) := by
  have read : (ofJson first).map withoutMetadata = (ofJson second).map withoutMetadata := by
    rw [← ofJson_documentWithoutMetadata, same, ofJson_documentWithoutMetadata]
  refine .of_map_eq read fun output other outputs name => ?_
  have artifacts : (output.artifact name).2.map (Artifact.withoutMetadata output.version) =
      (other.artifact name).2.map (Artifact.withoutMetadata other.version) := by
    rw [← artifact_withoutMetadata, outputs, artifact_withoutMetadata]
  refine .of_map_eq artifacts fun artifact otherArtifact found => ?_
  obtain ⟨key, name, bytecode, sourceMap, -⟩ := Artifact.mk.inj found
  refine ⟨key, name, bytecode, sourceMap, fun present numbered files directory => ?_⟩
  apply forall₂_files_sourceSet
  calc output.sourceIds artifact.metadata
      = output.sourceIds otherArtifact.metadata := numbered.sourceIds_eq present _ _
    _ = output.withoutMetadata.sourceIds otherArtifact.metadata := rfl
    _ = other.sourceIds otherArtifact.metadata := by rw [outputs]; rfl

section Documents

/-- A compiler output of one contract with these metadata and of two sources. -/
def annotated (metadata : Json) : Json :=
  .obj [("contracts", .obj [("a.sol", .obj [("A", .obj [("metadata", metadata),
      ("evm", .obj [("deployedBytecode",
        .obj [("object", .str "00"), ("sourceMap", .str "0:1:1")])])])])]),
    ("sources", .obj [("a.sol", .obj [("id", .num (.int 1))]),
      ("b.sol", .obj [("id", .num (.int 0))])])]

/-- Metadata that embed the text of a source. -/
def embedding : Json :=
  .obj [("sources", .obj [("a.sol", .obj [("content", .str "using L for A;")])])]

/-- Malformed metadata lose an embedded text, but neither a number nor a path of a source. -/
theorem artifact_of_withoutMetadata_eq_broken :
    documentWithoutMetadata (annotated embedding) =
      documentWithoutMetadata (annotated (.str "broken")) ∧
    ∃ output other artifact otherArtifact,
      ofJson (annotated embedding) = .ok output ∧
      ofJson (annotated (.str "broken")) = .ok other ∧
      (output.artifact "A").2 = .ok artifact ∧ (other.artifact "A").2 = .ok otherArtifact ∧
      artifact.metadata = some ⟨"", [("a.sol", some "using L for A;")]⟩ ∧
      otherArtifact.metadata = none ∧
      output.sources ≠ [] ∧ output.NumbersSources ∧ ∀ files directory,
        List.Forall₂ (SameButEmbedded artifact.metadata otherArtifact.metadata)
          (output.sourceSet artifact files directory).2.files
          (other.sourceSet otherArtifact files directory).2.files := by
  have same : documentWithoutMetadata (annotated embedding) =
      documentWithoutMetadata (annotated (.str "broken")) := rfl
  have outcome := artifact_of_withoutMetadata_eq same
  obtain ⟨output, read⟩ : ∃ output, ofJson (annotated embedding) = .ok output := ⟨_, rfl⟩
  obtain ⟨other, otherRead⟩ : ∃ other, ofJson (annotated (.str "broken")) = .ok other :=
    ⟨_, rfl⟩
  have found : (output.artifact "A").2 =
      .ok ⟨"a.sol", "A", "00", "0:1:1", none,
        some ⟨"", [("a.sol", some "using L for A;")]⟩⟩ := by
    cases read
    rfl
  have otherFound : (other.artifact "A").2 = .ok ⟨"a.sol", "A", "00", "0:1:1", none, none⟩ := by
    cases otherRead
    decide +kernel
  have sources : output.sources =
      [("a.sol", .obj [("id", .num (.int 1))]), ("b.sol", .obj [("id", .num (.int 0))])] := by
    cases read
    rfl
  have present : output.sources ≠ [] := by simp [sources]
  have numbered : output.NumbersSources := by
    intro source mem
    rw [sources] at mem
    simp only [List.mem_cons, List.not_mem_nil, or_false] at mem
    rcases mem with rfl | rfl <;> exact .inl rfl
  rw [read, otherRead, SameOutcome.ok_iff] at outcome
  have artifacts := outcome "A"
  rw [found, otherFound, SameOutcome.ok_iff] at artifacts
  exact ⟨same, output, other, _, _, read, otherRead, found, otherFound, rfl, rfl, present,
    numbered, artifacts.2.2.2.2 present numbered⟩

end Documents

end Output

end Compiler

end SourceTrace
