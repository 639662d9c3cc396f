import SourceTrace.Json.Printer
import SourceTrace.Proofs.Text.Joining
import SourceTrace.Proofs.Text.Numerals

/-!
# Documents on one line

A compact document has no line feed, whatever texts it holds, because a line feed in a text is
written as an escape. So documents can be told apart when each of them is printed on a line of its
own. `Json.newline_not_mem_render` says so for documents whose numbers are integers.
-/

namespace SourceTrace.Json

/-- Whether a number is an integer. -/
def Number.isInteger : Number → Bool
  | .int _ => true
  | .float _ => false

mutual

/-- Whether all numbers in a value pass a test. -/
def allNumbers (test : Number → Bool) : Json → Bool
  | .num number => test number
  | .arr items => allNumbersOfItems test items
  | .obj members => allNumbersOfMembers test members
  | _ => true

/-- Whether all numbers in the items of an array pass a test. -/
def allNumbersOfItems (test : Number → Bool) : List Json → Bool
  | [] => true
  | item :: rest => allNumbers test item && allNumbersOfItems test rest

/-- Whether all numbers in the values of members pass a test. -/
def allNumbersOfMembers (test : Number → Bool) : List (String × Json) → Bool
  | [] => true
  | (_, value) :: rest => allNumbers test value && allNumbersOfMembers test rest

end

/-- A numeral of fixed width holds no line feed. -/
theorem newline_not_mem_fixedDigits (width value : Nat) :
    '\n' ∉ Text.fixedDigits 16 width value := by
  have digit : ∀ rest < 16, Nat.digitChar rest ≠ '\n' := by decide
  induction width generalizing value with
  | zero => exact List.not_mem_nil
  | succ width inductionHypothesis =>
    intro mem
    rcases List.mem_append.mp mem with high | low
    · exact inductionHypothesis _ high
    · exact digit (value % 16) (Nat.mod_lt _ (by decide)) (List.mem_singleton.mp low).symm

/-- No escape holds a line feed, and a line feed is escaped. -/
theorem newline_not_mem_escapeChar (c : Char) : '\n' ∉ escapeChar c := by
  by_cases newline : c = '\n'
  · subst newline
    decide
  · have digits := newline_not_mem_fixedDigits 4 c.toNat
    unfold escapeChar
    grind

/-- A text is written without line feeds, whatever it holds. -/
theorem newline_not_mem_renderText (text : String) : '\n' ∉ (renderText text).toList := by
  intro mem
  simp only [renderText, String.toList_append, String.toList_ofList, List.mem_append,
    List.mem_flatMap] at mem
  rcases mem with (quote | ⟨c, -, escaped⟩) | quote
  · revert quote
    decide
  · exact newline_not_mem_escapeChar c escaped
  · revert quote
    decide

/-- A numeral holds no line feed. -/
theorem newline_not_mem_signedDecimal (value : Int) :
    '\n' ∉ (Text.signedDecimal value).toList := by
  intro mem
  rcases Text.isDigit_or_eq_of_mem_signedDecimal mem with digit | sign
  · revert digit
    decide
  · revert sign
    decide

/-- Pieces without a line feed have none when they are joined by commas between brackets. -/
theorem newline_not_mem_bracketed {opening closing : String} {pieces : List String}
    (opens : '\n' ∉ opening.toList) (closes : '\n' ∉ closing.toList)
    (clear : ∀ piece ∈ pieces, '\n' ∉ piece.toList) :
    '\n' ∉ (opening ++ ",".intercalate pieces ++ closing).toList := by
  intro mem
  simp only [String.toList_append, List.mem_append] at mem
  rcases mem with (first | inner) | last
  · exact opens first
  · rcases Text.mem_intercalate inner with comma | ⟨piece, member, here⟩
    · revert comma
      decide
    · exact clear piece member here
  · exact closes last

mutual

/-- A compact document has no line feed. -/
theorem newline_not_mem_render :
    ∀ value : Json, value.allNumbers Number.isInteger = true → '\n' ∉ value.render.toList
  | .null, _ | .bool true, _ | .bool false, _ => by decide
  | .num (.int value), _ => newline_not_mem_signedDecimal value
  | .str text, _ => newline_not_mem_renderText text
  | .arr items, integral =>
    newline_not_mem_bracketed (by decide) (by decide) (newline_not_mem_renderItems items integral)
  | .obj members, integral =>
    newline_not_mem_bracketed (by decide) (by decide)
      (newline_not_mem_renderMembers members integral)

/-- Items are written without line feeds. -/
theorem newline_not_mem_renderItems :
    ∀ items : List Json, allNumbersOfItems Number.isInteger items = true →
      ∀ piece ∈ renderItems items, '\n' ∉ piece.toList
  | [], _ => by simp [renderItems]
  | item :: rest, integral => by
    simp only [allNumbersOfItems, Bool.and_eq_true] at integral
    intro piece mem
    rcases List.mem_cons.mp mem with rfl | later
    · exact newline_not_mem_render item integral.1
    · exact newline_not_mem_renderItems rest integral.2 piece later

/-- Members are written without line feeds. -/
theorem newline_not_mem_renderMembers :
    ∀ members : List (String × Json), allNumbersOfMembers Number.isInteger members = true →
      ∀ piece ∈ renderMembers members, '\n' ∉ piece.toList
  | [], _ => by simp [renderMembers]
  | (key, value) :: rest, integral => by
    simp only [allNumbersOfMembers, Bool.and_eq_true] at integral
    intro piece mem
    rcases List.mem_cons.mp mem with rfl | later
    · have keyClear := newline_not_mem_renderText key
      have valueClear := newline_not_mem_render value integral.1
      simp [keyClear, valueClear]
    · exact newline_not_mem_renderMembers rest integral.2 piece later

end

end SourceTrace.Json
