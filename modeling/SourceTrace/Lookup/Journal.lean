import SourceTrace.Text.Blank
import SourceTrace.Text.Lines

/-!
# Lookup journals

A journal records the stages that a lookup went through. The stages are always kept; the lines that
explain them only if explanations are wanted.
-/

namespace SourceTrace

/-- A stage of a lookup. -/
inductive Stage where
  /-- The address was given. -/
  | start
  /-- The instruction was found. -/
  | bytecodeResolved
  /-- The source map entry was found. -/
  | sourceMapResolved
  /-- The syntax tree node was found. -/
  | nodeResolved
  /-- The literal source text was found. -/
  | literalExtracted
  /-- The source text was made from the syntax tree. -/
  | reconstructed
  /-- The lookup succeeded. -/
  | done
  /-- The lookup failed. -/
  | failed
  deriving DecidableEq, Repr

/-- The name of a stage. -/
def Stage.name : Stage → String
  | .start => "Start"
  | .bytecodeResolved => "BytecodeResolved"
  | .sourceMapResolved => "SourceMapResolved"
  | .nodeResolved => "AstNodeResolved"
  | .literalExtracted => "LiteralExtracted"
  | .reconstructed => "Reconstructed"
  | .done => "Done"
  | .failed => "Failed"

/-- All stages. -/
def Stage.all : List Stage :=
  [.start, .bytecodeResolved, .sourceMapResolved, .nodeResolved, .literalExtracted, .reconstructed,
    .done, .failed]

/-- A stage with what is to be said about it. -/
structure Step where
  /-- The stage that was reached. -/
  stage : Stage
  /-- What was found there. -/
  detail : String
  deriving DecidableEq, Repr

/-- The line that explains a step. -/
def Step.line (step : Step) : String :=
  Text.padEnd 18 step.stage.name ++ " " ++ step.detail

/-- The record of a lookup. -/
structure Journal where
  /-- Whether explanations are wanted. -/
  enabled : Bool
  /-- Explanations, each ended by a line feed. -/
  content : String := ""
  /-- Stages in the order in which they were reached. -/
  stages : List Stage := []
  deriving DecidableEq, Repr

namespace Journal

/-- Adds a line of explanation, if explanations are wanted. -/
def note (journal : Journal) (line : String) : Journal :=
  if journal.enabled then { journal with content := journal.content ++ line ++ "\n" } else journal

/-- Records a step. -/
def record (journal : Journal) (step : Step) : Journal :=
  { journal with stages := journal.stages ++ [step.stage] }.note step.line

/-- Records steps in turn. -/
def recordAll (journal : Journal) (steps : List Step) : Journal :=
  steps.foldl record journal

/-- The stage reached last; before anything happened that is the start. -/
def stage (journal : Journal) : Stage :=
  journal.stages.getLast?.getD .start

/-- What is printed when a lookup is over: the explanations, indented, or nothing. -/
def closing (journal : Journal) : String :=
  if journal.enabled && !journal.content.isEmpty then
    Text.indent 2 (Text.trimEnd journal.content) ++ "\n"
  else ""

/-- Recording a step adds its stage at the end. -/
theorem stages_record (journal : Journal) (step : Step) :
    (journal.record step).stages = journal.stages ++ [step.stage] := by
  simp only [record, note]
  split <;> rfl

/-- Recording steps adds their stages at the end. -/
theorem stages_recordAll (journal : Journal) (steps : List Step) :
    (journal.recordAll steps).stages = journal.stages ++ steps.map Step.stage := by
  induction steps generalizing journal with
  | nil => simp [recordAll]
  | cons step rest inductionHypothesis =>
    have split := inductionHypothesis (journal.record step)
    simp only [recordAll, List.foldl_cons] at split ⊢
    simp [split, stages_record]

end Journal

end SourceTrace
