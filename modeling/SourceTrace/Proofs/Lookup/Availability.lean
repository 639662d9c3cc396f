import Mathlib.Logic.ExistsUnique
import SourceTrace.Proofs.Lookup.Reference

/-!
# Available texts

Programs may differ in which source texts are at hand and whether code may be cut out of them. A
lookup asks for texts only after the covering node is found, so two such programs agree up to there.
`Program.locate_of_sharesButTexts` says how their outcomes compare: both have a location, which
shows the code in different ways at most; both fail for one reason; or one shows literal text where
the other has none and the node has no text either.

More text is not always better. A content takes the place of the fallback text for its file, even if
it is too short for the range. The code is then put together from the node, and is missing if the
node has no text, as `Program.locate_lost_to_short_content` shows. Apart from this case, adding
texts keeps every location.
-/

namespace SourceTrace

/-- The numbers of the files of a set with their paths. -/
def SourceSet.paths (set : SourceSet) : List (Int64 × String) :=
  set.files.map fun (id, file) => (id, file.path)

/-- The path of a file depends on numbers and paths alone. -/
theorem SourceSet.path?_eq_lookup_paths (set : SourceSet) (id : Int64) :
    set.path? id = set.paths.lookup id := by
  obtain ⟨files, ascending⟩ := set
  simp only [path?, get?, paths]
  clear ascending
  induction files with
  | nil => rfl
  | cons head rest inductionHypothesis =>
    obtain ⟨other, file⟩ := head
    simp only [List.map_cons, List.lookup_cons]
    split
    · rfl
    · exact inductionHypothesis

/-- Two locations differ at most in how the code is shown. -/
structure Location.SameButShown (first second : Location) : Prop where
  file : first.file = second.file
  pc : first.pc = second.pc
  instructionIndex : first.instructionIndex = second.instructionIndex
  entry : first.entry = second.entry
  /-- Code that was made from the syntax tree is the same, and has no line. -/
  code : first.reconstructed = true → second.reconstructed = true →
    first.code = second.code ∧ first.line = 0 ∧ second.line = 0

/-- How the outcomes of two lookups compare. -/
inductive Comparison where
  /-- Both have a location. -/
  | located
  /-- Both failed. -/
  | failed
  /-- One has a location, the other misses the text for it. -/
  | missing
  deriving DecidableEq, Repr

/-- Two outcomes compare in a way. -/
def Comparison.Holds :
    Comparison → Except LookupError Location → Except LookupError Location → Prop
  | .located, .ok first, .ok second => first.SameButShown second
  | .failed, .error first, .error second => first = second
  | .missing, .ok location, .error error =>
    location.reconstructed = false ∧ error = .missingLiteralSource location.entry.fileId
  | .missing, .error error, .ok location =>
    location.reconstructed = false ∧ error = .missingLiteralSource location.entry.fileId
  | _, _, _ => False

/-- The only way in which two outcomes may compare. -/
def Comparison.ofOutcomes :
    Except LookupError Location → Except LookupError Location → Comparison
  | .ok _, .ok _ => .located
  | .error _, .error _ => .failed
  | .ok _, .error _ | .error _, .ok _ => .missing

/-- Two outcomes compare in no other way than their kinds allow. -/
theorem Comparison.Holds.eq_ofOutcomes {comparison : Comparison}
    {first second : Except LookupError Location} (holds : comparison.Holds first second) :
    comparison = ofOutcomes first second := by
  unfold Holds at holds
  split at holds
  · rfl
  · rfl
  · rfl
  · rfl
  · exact holds.elim

namespace Program

/-- Two programs share all but the contents of their files, their fallback texts and whether code
may be cut out of texts. -/
structure SharesButTexts (first second : Program) : Prop where
  bytecode : first.bytecode = second.bytecode
  sourceMap : first.sourceMap = second.sourceMap
  tree : first.tree = second.tree
  paths : first.sources.paths = second.sources.paths

/-- A program has all texts of another one, and may have more. -/
structure AddsTexts (first second : Program) : Prop where
  literal : first.literal = true → second.literal = true
  fallback : ∀ text, first.fallback = some text → second.fallback = some text
  content : ∀ fileId text, first.sources.content? fileId = some text →
    second.sources.content? fileId = some text

/-- The file of an entry gets a content in place of the fallback text, and that content ends before
what the entry points at. -/
structure CutsOff (first second : Program) (entry : SourceMap.Entry) : Prop where
  fallback : first.sources.content? entry.fileId = none ∧ first.fallback ≠ none
  short : ∃ content, second.sources.content? entry.fileId = some content ∧
    (Text.bytes content).length < entry.start + entry.extent

/-- A program has no literal text for an entry, so that its code is what a node has to say. -/
structure FallsBackTo (program : Program) (pc index : Nat) (entry : SourceMap.Entry)
    (node : Ast.Node) : Prop where
  /-- The node is the one that the program counter leads to. -/
  reaches : program.Reaches pc index entry entry.span node
  /-- Neither a content nor the fallback text is there to cut the code out of. -/
  unavailable : ¬∃ text, program.HasLiteral entry text
  /-- Where the node has a text, the location shows it. -/
  written : node.relevantCode ≠ "" →
    ∃ location, program.locate pc = .ok location ∧ ShowsNode location node
  /-- Where the node has no text, the lookup says so. -/
  missing : node.relevantCode = "" →
    program.locate pc = .error (.missingLiteralSource entry.fileId)

section Texts

variable {program first second : Program} {pc index : Nat} {entry : SourceMap.Entry}
  {range : SourceRange} {node : Ast.Node}

/-- File names do not depend on texts. -/
theorem SharesButTexts.fileName_eq (shares : first.SharesButTexts second) (fileId : Int64) :
    first.fileName fileId = second.fileName fileId := by
  simp only [fileName, SourceSet.path?_eq_lookup_paths, shares.paths, shares.tree]

/-- Programs that share all but texts know the same entries. -/
theorem SharesButTexts.enters (shares : first.SharesButTexts second)
    (enters : first.Enters pc index entry) : second.Enters pc index entry := by
  obtain ⟨owned, present, resolved⟩ := enters
  rw [shares.bytecode] at owned present
  rw [shares.sourceMap] at resolved
  exact ⟨owned, present, resolved⟩

/-- Programs that share all but texts reach the same nodes. -/
theorem SharesButTexts.reaches (shares : first.SharesButTexts second)
    (reaches : first.Reaches pc index entry range node) :
    second.Reaches pc index entry range node := by
  obtain ⟨enters, ranged, covered⟩ := reaches
  rw [shares.tree] at covered
  exact ⟨shares.enters enters, ranged, covered⟩

/-- Lookups in programs that share all but texts are related if what they end with at a node is,
because without a node they fail alike. -/
theorem SharesButTexts.locate_related (shares : first.SharesButTexts second)
    (Related : Except LookupError Location → Except LookupError Location → Prop)
    (alike : ∀ error, Related (.error error) (.error error))
    (code : ∀ index entry range node, first.Reaches pc index entry range node →
      Related (first.traceCode pc index entry range node).2
        (second.traceCode pc index entry range node).2) :
    Related (first.locate pc) (second.locate pc) := by
  have reached {index : Nat} {entry : SourceMap.Entry} {range : SourceRange} {node : Ast.Node}
      (reaches : first.Reaches pc index entry range node) :
      Related (first.locate pc) (second.locate pc) := by
    rw [reaches.locate_eq, (shares.reaches reaches).locate_eq]
    exact code index entry range node reaches
  have unreached {stages : List Stage} {error : LookupError}
      (located : first.locate pc = .error error) (traces : second.Traces pc stages (.error error)) :
      Related (first.locate pc) (second.locate pc) := by
    rw [located, traces.locate_eq]
    exact alike error
  obtain ⟨stages, traces⟩ := first.exists_traces_locate pc
  obtain ⟨outcome, located⟩ : ∃ outcome, first.locate pc = outcome := ⟨_, rfl⟩
  rw [located] at traces
  cases traces with
  | outside failed => exact unreached located (.outside (shares.bytecode ▸ failed))
  | padding owned absent =>
    rw [shares.bytecode] at located owned absent
    exact unreached located (.padding owned absent)
  | unresolved owned present failed =>
    rw [shares.bytecode] at owned present
    exact unreached located (.unresolved owned present (shares.sourceMap ▸ failed))
  | negative enters failed => exact unreached located (.negative (shares.enters enters) failed)
  | generated enters ranged => exact unreached located (.generated (shares.enters enters) ranged)
  | uncovered enters ranged failed =>
    exact unreached located (.uncovered (shares.enters enters) ranged (shares.tree ▸ failed))
  | literal reaches cut => exact reached reaches
  | missing reaches uncut empty => exact reached reaches
  | reconstructed reaches uncut written => exact reached reaches

/-- The code that two programs show for one node compares in some way. -/
theorem SharesButTexts.exists_comparison_traceCode (shares : first.SharesButTexts second)
    (sameFile : range.fileId = entry.fileId) :
    ∃ comparison : Comparison, comparison.Holds (first.traceCode pc index entry range node).2
      (second.traceCode pc index entry range node).2 := by
  have names := shares.fileName_eq range.fileId
  by_cases written : node.relevantCode = ""
  · cases cut : first.cut? range with
    | some snippet =>
      rw [traceCode_of_cut cut]
      cases otherCut : second.cut? range with
      | some other =>
        rw [traceCode_of_cut otherCut]
        exact ⟨.located, names, rfl, rfl, rfl, fun impossible => by cases impossible⟩
      | none =>
        rw [traceCode_of_missing otherCut written]
        exact ⟨.missing, rfl, congrArg _ sameFile⟩
    | none =>
      rw [traceCode_of_missing cut written]
      cases otherCut : second.cut? range with
      | some other =>
        rw [traceCode_of_cut otherCut]
        exact ⟨.missing, rfl, congrArg _ sameFile⟩
      | none =>
        rw [traceCode_of_missing otherCut written]
        exact ⟨.failed, rfl⟩
  · cases cut : first.cut? range with
    | some snippet =>
      rw [traceCode_of_cut cut]
      cases otherCut : second.cut? range with
      | some other =>
        rw [traceCode_of_cut otherCut]
        exact ⟨.located, names, rfl, rfl, rfl, fun impossible => by cases impossible⟩
      | none =>
        rw [traceCode_of_uncut otherCut written]
        exact ⟨.located, names, rfl, rfl, rfl, fun impossible => by cases impossible⟩
    | none =>
      rw [traceCode_of_uncut cut written]
      cases otherCut : second.cut? range with
      | some other =>
        rw [traceCode_of_cut otherCut]
        exact ⟨.located, names, rfl, rfl, rfl, fun _ impossible => by cases impossible⟩
      | none =>
        rw [traceCode_of_uncut otherCut written]
        exact ⟨.located, names, rfl, rfl, rfl, fun _ _ => ⟨rfl, rfl, rfl⟩⟩

/-- Unless the fallback text is cut off, a program with more texts has a text for an entry wherever
the other one has. -/
theorem AddsTexts.exists_hasLiteral (adds : first.AddsTexts second)
    (kept : ¬first.CutsOff second entry) {text : String} (literal : first.HasLiteral entry text) :
    ∃ other, second.HasLiteral entry other := by
  have allowed := adds.literal literal.allowed
  have chosen := literal.chosen
  rw [literalText?] at chosen
  cases content : first.sources.content? entry.fileId with
  | some own =>
    rw [content, Option.some_or, Option.some.injEq] at chosen
    have present := adds.content entry.fileId own content
    refine ⟨own, allowed, ?_, chosen ▸ literal.long⟩
    rw [literalText?, present, Option.some_or]
  | none =>
    rw [content, Option.none_or] at chosen
    cases replaced : second.sources.content? entry.fileId with
    | none =>
      refine ⟨text, allowed, ?_, literal.long⟩
      rw [literalText?, replaced, Option.none_or, adds.fallback text chosen]
    | some own =>
      refine ⟨own, allowed, by rw [literalText?, replaced, Option.some_or], Nat.le_of_not_lt ?_⟩
      intro short
      exact kept ⟨⟨content, by simp [chosen]⟩, own, replaced, short⟩

/-- Unless the fallback text is cut off, what a program shows for a node is not lost by adding
texts. -/
theorem AddsTexts.exists_traceCode_ok (adds : first.AddsTexts second)
    (ranged : entry.range index = .ok (some range)) {location : Location}
    (shown : (first.traceCode pc index entry range node).2 = .ok location)
    (kept : ¬first.CutsOff second location.entry) :
    ∃ other, (second.traceCode pc index entry range node).2 = .ok other := by
  obtain ⟨real, rfl⟩ := (entry.range_eq_ok_some_iff index range).mp ranged
  cases otherCut : second.cut? entry.span with
  | some snippet => exact ⟨_, traceCode_of_cut otherCut⟩
  | none =>
    have noLiteral := (second.cut?_span_eq_none_iff real).mp otherCut
    cases cut : first.cut? entry.span with
    | some snippet =>
      rw [traceCode_of_cut cut] at shown
      cases shown
      obtain ⟨text, literal, -⟩ := (first.cut?_span_eq_some_iff real snippet).mp cut
      exact absurd (adds.exists_hasLiteral kept literal) noLiteral
    | none =>
      by_cases empty : node.relevantCode = ""
      · rw [traceCode_of_missing cut empty] at shown
        cases shown
      · exact ⟨_, traceCode_of_uncut otherCut empty⟩

/-- A lookup with a location reached a node for a real entry. -/
theorem exists_reaches_of_locate {location : Location}
    (located : program.locate pc = .ok location) :
    location.entry.IsReal ∧ ∃ node, program.Reaches pc location.instructionIndex location.entry
      location.entry.span node := by
  obtain ⟨stages, traces⟩ := program.exists_traces_locate pc
  rw [located] at traces
  cases traces with
  | literal reaches cut =>
    obtain ⟨real, rfl⟩ := (SourceMap.Entry.range_eq_ok_some_iff _ _ _).mp reaches.ranged
    exact ⟨real, _, reaches⟩
  | reconstructed reaches uncut written =>
    obtain ⟨real, rfl⟩ := (SourceMap.Entry.range_eq_ok_some_iff _ _ _).mp reaches.ranged
    exact ⟨real, _, reaches⟩

/-- A node that is reached is what a lookup falls back to if there is no literal text. -/
theorem Reaches.fallsBackTo (reaches : program.Reaches pc index entry entry.span node)
    (real : entry.IsReal) (unavailable : ¬∃ text, program.HasLiteral entry text) :
    program.FallsBackTo pc index entry node := by
  have uncut := (program.cut?_span_eq_none_iff real).mpr unavailable
  constructor
  case reaches => exact reaches
  case unavailable => exact unavailable
  case written =>
    intro written
    exact ⟨_, reaches.locate_eq.trans (traceCode_of_uncut uncut written), written,
      rfl, rfl, rfl⟩
  case missing =>
    intro empty
    exact reaches.locate_eq.trans (traceCode_of_missing uncut empty)

/-- A content that is too short leaves no literal text: it takes precedence over the fallback
text. -/
theorem CutsOff.unavailable (cutsOff : first.CutsOff second entry) :
    ¬∃ text, second.HasLiteral entry text := by
  rintro ⟨text, literal⟩
  obtain ⟨content, present, short⟩ := cutsOff.short
  have chosen := literal.chosen
  rw [literalText?, present, Option.some_or, Option.some.injEq] at chosen
  subst chosen
  exact Nat.not_le_of_gt short literal.long

/-- Where the fallback text is cut off, the code is what the node has to say. -/
theorem SharesButTexts.exists_fallsBackTo (shares : first.SharesButTexts second)
    {location : Location} (located : first.locate pc = .ok location)
    (cutsOff : first.CutsOff second location.entry) :
    ∃ node, second.FallsBackTo pc location.instructionIndex location.entry node := by
  obtain ⟨real, node, reaches⟩ := exists_reaches_of_locate located
  exact ⟨node, (shares.reaches reaches).fallsBackTo real cutsOff.unavailable⟩

/-- The outcomes of two programs that share all but texts compare in some way. -/
theorem SharesButTexts.exists_comparison (shares : first.SharesButTexts second) (pc : Nat) :
    ∃ comparison : Comparison, comparison.Holds (first.locate pc) (second.locate pc) := by
  apply shares.locate_related fun first second =>
    ∃ comparison : Comparison, comparison.Holds first second
  · intro error
    exact ⟨.failed, rfl⟩
  · intro index entry range node reaches
    obtain ⟨-, rfl⟩ := (entry.range_eq_ok_some_iff index range).mp reaches.ranged
    exact shares.exists_comparison_traceCode rfl

/-- Unless the fallback text is cut off, a location is not lost by adding texts. -/
theorem SharesButTexts.exists_locate_ok (shares : first.SharesButTexts second)
    (adds : first.AddsTexts second) {location : Location} (located : first.locate pc = .ok location)
    (kept : ¬first.CutsOff second location.entry) : ∃ other, second.locate pc = .ok other := by
  have preserved : first.locate pc = .ok location → ∃ other, second.locate pc = .ok other := by
    apply shares.locate_related fun before after =>
      before = .ok location → ∃ other, after = .ok other
    · intro error impossible
      cases impossible
    · intro index entry range node reaches shown
      exact adds.exists_traceCode_ok reaches.ranged shown kept
  exact preserved located

end Texts

/-- Programs that share all but texts have outcomes that compare in exactly one way. A location
stays when texts are added, unless they cut off the fallback text that it was taken from; the code
is then what the node has to say, and the location is lost just where that is nothing. -/
theorem locate_of_sharesButTexts {first second : Program} (shares : first.SharesButTexts second)
    (pc : Nat) :
    (∃! comparison : Comparison, comparison.Holds (first.locate pc) (second.locate pc)) ∧
    (first.AddsTexts second → ∀ location, first.locate pc = .ok location →
      ¬first.CutsOff second location.entry → ∃ other, second.locate pc = .ok other) ∧
    (∀ location, first.locate pc = .ok location → first.CutsOff second location.entry →
      ∃ node, second.FallsBackTo pc location.instructionIndex location.entry node) := by
  refine ⟨?_, ?_, ?_⟩
  · obtain ⟨comparison, holds⟩ := shares.exists_comparison pc
    exact ⟨comparison, holds,
      fun other also => also.eq_ofOutcomes.trans holds.eq_ofOutcomes.symm⟩
  · intro adds location located kept
    exact shares.exists_locate_ok adds located kept
  · intro location located cutsOff
    exact shares.exists_fallsBackTo located cutsOff

section EmptyUnit

/-- A source unit without anything in it. -/
def emptyUnit : Ast.Node :=
  ⟨[("nodeType", .str "SourceUnit"), ("src", .str "0:5:0"), ("nodes", .arr [])]⟩

/-- A program of one instruction that points at an empty source unit. Its file may have a content,
and there is a fallback text. -/
def ofEmptyUnit (content : Option String) : Program where
  bytecode := ⟨[0x00], by simp⟩
  sourceMap := ⟨["0:5:0"]⟩
  tree := emptyUnit.toJson
  sources := .ofList [(0, ⟨"a.sol", content⟩)]
  fallback := some "hello"

/-- The source map entry of the instruction. -/
def emptyUnitEntry : SourceMap.Entry :=
  ⟨0, 5, 0, none, none⟩

/-- The instruction leads to the empty source unit, whatever texts there are. -/
theorem ofEmptyUnit_reaches (content : Option String) :
    (ofEmptyUnit content).Reaches 0 0 emptyUnitEntry ⟨0, 5, 0⟩ emptyUnit := by
  have present : 0 < (ofEmptyUnit content).bytecode.length := Nat.zero_lt_one
  refine ⟨⟨Evm.Bytecode.instructionIndex_of_lt_length present, present, rfl⟩, rfl, ?_⟩
  rw [Ast.smallestContaining, Ast.visit_eq_foldl, Ast.flatMap_family_heldNodes]
  rfl

/-- The programs share all but the content of the file. -/
theorem ofEmptyUnit_sharesButTexts (content other : Option String) :
    (ofEmptyUnit content).SharesButTexts (ofEmptyUnit other) :=
  ⟨rfl, rfl, rfl, rfl⟩

/-- A content adds a text. -/
theorem ofEmptyUnit_addsTexts (content : String) :
    (ofEmptyUnit none).AddsTexts (ofEmptyUnit (some content)) := by
  refine ⟨fun allowed => allowed, fun text present => present, ?_⟩
  intro fileId text present
  simp only [ofEmptyUnit, SourceSet.content?, SourceSet.get?, SourceSet.ofList, List.foldl_cons,
    List.foldl_nil, SourceSet.insert, SourceSet.empty, placeFile, List.lookup_cons,
    List.lookup_nil] at present
  split at present <;> cases present

/-- Without a content the file is shown from the fallback text. -/
theorem locate_ofEmptyUnit_none :
    (ofEmptyUnit none).locate 0 = .ok ⟨"a.sol", "hello", 1, 0, 0, emptyUnitEntry, false⟩ := by
  have cut : (ofEmptyUnit none).cut? ⟨0, 5, 0⟩ = some ⟨"hello", 1⟩ := by decide
  exact (Traces.literal (ofEmptyUnit_reaches none) cut).locate_eq

/-- A content that is longer than the fallback text takes its place, and so does one that is
shorter: then the code is what the node has to say. -/
theorem locate_of_sharesButTexts_two_contents :
    (ofEmptyUnit none).SharesButTexts (ofEmptyUnit (some "hi\n you")) ∧
      (ofEmptyUnit none).AddsTexts (ofEmptyUnit (some "hi\n you")) ∧
      (ofEmptyUnit none).locate 0 = .ok ⟨"a.sol", "hello", 1, 0, 0, emptyUnitEntry, false⟩ ∧
      ¬(ofEmptyUnit none).CutsOff (ofEmptyUnit (some "hi\n you")) emptyUnitEntry ∧
      (∃! comparison : Comparison, comparison.Holds ((ofEmptyUnit none).locate 0)
        ((ofEmptyUnit (some "hi\n you")).locate 0)) ∧
      (∃ other, (ofEmptyUnit (some "hi\n you")).locate 0 = .ok other) ∧
      (ofEmptyUnit none).SharesButTexts (ofEmptyUnit (some "hi")) ∧
      (ofEmptyUnit none).CutsOff (ofEmptyUnit (some "hi")) emptyUnitEntry ∧
      ∃ node, (ofEmptyUnit (some "hi")).FallsBackTo 0 0 emptyUnitEntry node := by
  have shares := ofEmptyUnit_sharesButTexts none (some "hi\n you")
  have adds := ofEmptyUnit_addsTexts "hi\n you"
  have kept : ¬(ofEmptyUnit none).CutsOff (ofEmptyUnit (some "hi\n you")) emptyUnitEntry := by
    rintro ⟨-, content, present, short⟩
    have given : (ofEmptyUnit (some "hi\n you")).sources.content? 0 = some "hi\n you" := rfl
    obtain rfl : "hi\n you" = content := Option.some.inj (given.symm.trans present)
    revert short
    decide
  have sharesShort := ofEmptyUnit_sharesButTexts none (some "hi")
  have cutsOff : (ofEmptyUnit none).CutsOff (ofEmptyUnit (some "hi")) emptyUnitEntry :=
    ⟨⟨rfl, Option.some_ne_none _⟩, "hi", rfl, by decide⟩
  obtain ⟨compares, preserves, -⟩ := locate_of_sharesButTexts shares 0
  obtain ⟨-, -, fallsBack⟩ := locate_of_sharesButTexts sharesShort 0
  exact ⟨shares, adds, locate_ofEmptyUnit_none, kept, compares,
    preserves adds _ locate_ofEmptyUnit_none kept, sharesShort, cutsOff,
    fallsBack _ locate_ofEmptyUnit_none cutsOff⟩

/-- Adding a text can lose a location: a content that is too short takes the place of the fallback
text all the same. -/
theorem locate_lost_to_short_content :
    (ofEmptyUnit none).SharesButTexts (ofEmptyUnit (some "hi")) ∧
      (ofEmptyUnit none).AddsTexts (ofEmptyUnit (some "hi")) ∧
      (ofEmptyUnit none).locate 0 = .ok ⟨"a.sol", "hello", 1, 0, 0, emptyUnitEntry, false⟩ ∧
      (ofEmptyUnit (some "hi")).locate 0 = .error (.missingLiteralSource 0) := by
  have uncut : (ofEmptyUnit (some "hi")).cut? ⟨0, 5, 0⟩ = none := by decide
  have empty : emptyUnit.relevantCode = "" := rfl
  have missing := Traces.missing (ofEmptyUnit_reaches (some "hi")) uncut empty
  exact ⟨ofEmptyUnit_sharesButTexts _ _, ofEmptyUnit_addsTexts "hi", locate_ofEmptyUnit_none,
    missing.locate_eq⟩

end EmptyUnit

end Program

end SourceTrace
