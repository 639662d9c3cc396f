import SourceTrace.Ast.Rendered
import SourceTrace.Json.Number
import SourceTrace.Proofs.Text.Nesting
import SourceTrace.Proofs.Text.Numerals

/-!
# Balanced attributes

A rendered value is balanced if the texts in it have no brackets and all its source text is nested.
This is what the rules of rendering may rely on: whatever they read from balanced attributes is a
text without brackets or a nested text. Numbers never bring brackets with them.
-/

namespace SourceTrace.Text

section Numbers

variable {c : Char} {digits : List Char}

/-- A digit is no bracket. -/
theorem isBracket_of_isDigit (digit : c.isDigit = true) : isBracket c = false := by
  have undigital : ['(', ')', '[', ']', '\x7b', '\x7d'].all (fun c => !c.isDigit) = true := by
    decide
  rw [Bool.eq_false_iff]
  intro bracket
  have undigit := List.all_eq_true.mp undigital c (mem_brackets_of_isBracket bracket)
  simp [digit] at undigit

/-- A numeral has no brackets. -/
theorem isBracket_of_mem_toDigits {value : Nat} (mem : c ∈ Nat.toDigits 10 value) :
    isBracket c = false :=
  isBracket_of_isDigit (isDigit_of_mem_toDigits mem)

/-- A decimal point among digits adds no brackets. -/
theorem isBracket_of_mem_placePoint (plain : ∀ c ∈ digits, isBracket c = false) (whole : Int) :
    ∀ c ∈ Decimal.placePoint digits whole, isBracket c = false := by
  intro c mem
  have zero : isBracket '0' = false := by decide
  have point : isBracket '.' = false := by decide
  have zeros {count : Nat} (mem : c ∈ List.replicate count '0') : isBracket c = false := by
    rwa [List.eq_of_mem_replicate mem]
  unfold Decimal.placePoint at mem
  grind

/-- An exponent behind digits adds no brackets. -/
theorem isBracket_of_mem_placeExponent {plus : String}
    (plain : ∀ c ∈ digits, isBracket c = false)
    (plusPlain : isPlain plus = true) (exponent : Int) :
    ∀ c ∈ Decimal.placeExponent plus digits exponent, isBracket c = false := by
  intro c mem
  simp only [Decimal.placeExponent, List.mem_append, List.mem_cons] at mem
  rcases mem with mantissa | rfl | sign | digit
  · split at mantissa
    · rename_i first second rest
      rcases List.mem_cons.mp mantissa with rfl | later
      · exact plain c List.mem_cons_self
      · rcases List.mem_cons.mp later with rfl | digit
        · decide
        · exact plain c (List.mem_cons_of_mem first digit)
    · exact plain c mantissa
  · decide
  · split at sign
    · exact isPlain_iff.mp (by decide) c sign
    · exact isPlain_iff.mp plusPlain c sign
  · exact isBracket_of_mem_toDigits digit

/-- A floating point number has no brackets, however it is laid out. -/
theorem isPlain_render_layout {layout : Decimal.Layout} (plus : isPlain layout.plus = true)
    (number : Float) : isPlain (layout.render number) = true := by
  have scaled (decimal : Decimal.Scaled) :
      ∀ c ∈ layout.scaled decimal, isBracket c = false := by
    have digits : ∀ c ∈ Nat.toDigits 10 decimal.digits, isBracket c = false :=
      fun c mem => isBracket_of_mem_toDigits mem
    simp only [Decimal.Layout.scaled]
    split
    · exact isBracket_of_mem_placePoint digits _
    · exact isBracket_of_mem_placeExponent digits plus _
  have minus : isBracket '-' = false := by decide
  have infinite := isPlain_iff.mp (by decide : isPlain "inf" = true)
  have zero := isPlain_iff.mp (by decide : isPlain "0.0" = true)
  simp only [Decimal.Layout.render]
  split
  · decide
  · rw [isPlain_iff, String.toList_ofList]
    grind

/-- A JSON number has no brackets. -/
theorem isPlain_render_number (number : Json.Number) : isPlain number.render = true := by
  cases number with
  | int value =>
    rw [isPlain_iff]
    intro c mem
    rcases isDigit_or_eq_of_mem_signedDecimal mem with digit | rfl
    · exact isBracket_of_isDigit digit
    · decide
  | float value => exact isPlain_render_layout (by decide) value

end Numbers

end SourceTrace.Text

namespace SourceTrace.Ast

open Text (IsNested isPlain isNested_of_isPlain isNested_empty)

/-- A rendered value in which texts have no brackets and all source text is nested. -/
inductive Rendered.Balanced : Rendered → Prop where
  | null : Balanced .null
  | bool (value : Bool) : Balanced (.bool value)
  | num (value : Json.Number) : Balanced (.num value)
  | str {text : String} (plain : isPlain text = true) : Balanced (.str text)
  | list {items : List Rendered} {code : String} (parts : ∀ item ∈ items, Balanced item)
      (nested : IsNested code) : Balanced (.list items code)
  | node {members : List (String × Rendered)} {code : String}
      (parts : ∀ member ∈ members, Balanced member.2) (nested : IsNested code) :
      Balanced (.node members code)

/-- Attributes of which each is balanced. -/
def Attributes.Balanced (attributes : Attributes) : Prop :=
  ∀ member ∈ attributes.members, member.2.Balanced

namespace Rendered.Balanced

variable {value inner : Rendered} {key : String}

/-- The source text of a balanced value is nested. -/
theorem code (balanced : value.Balanced) : IsNested value.code := by
  cases balanced with
  | list parts nested => exact nested
  | node parts nested => exact nested
  | _ => exact isNested_empty

/-- The text that a balanced value is has no brackets. -/
theorem text? {text : String} (balanced : value.Balanced) (found : value.text? = some text) :
    isPlain text = true := by
  cases balanced with
  | str plain =>
    cases found
    exact plain
  | _ => cases found

/-- The attributes of a balanced node are balanced. -/
theorem attributes (balanced : value.Balanced) : value.attributes.Balanced := by
  cases balanced with
  | node parts nested => exact parts
  | _ => exact fun member mem => by cases mem

/-- What stands under a key among balanced members is balanced. -/
theorem of_lookup {members : List (String × Rendered)}
    (parts : ∀ member ∈ members, member.2.Balanced) (found : members.lookup key = some inner) :
    inner.Balanced := by
  obtain ⟨before, after, split, -⟩ := List.lookup_eq_some_iff.mp found
  exact parts (key, inner) (split ▸ List.mem_append_right before List.mem_cons_self)

/-- A member of a balanced value is balanced. -/
theorem member? (balanced : value.Balanced) (found : value.member? key = some inner) :
    inner.Balanced := by
  cases balanced with
  | node parts nested => exact of_lookup parts found
  | _ => cases found

end Rendered.Balanced

namespace Attributes.Balanced

variable {attributes : Attributes} {value : Rendered}

/-- A value among balanced attributes is balanced. -/
theorem value? (balanced : attributes.Balanced) {key : String}
    (found : attributes.value? key = some value) : value.Balanced :=
  Rendered.Balanced.of_lookup balanced (Option.filter_eq_some_iff.mp found).1

/-- The source text of an attribute is nested. -/
theorem code (balanced : attributes.Balanced) (key : String) : IsNested (attributes.code key) := by
  rw [Attributes.code]
  cases found : attributes.value? key with
  | none => exact isNested_empty
  | some value => exact (balanced.value? found).code

/-- The source text of a child is nested. -/
theorem childCode? (balanced : attributes.Balanced) {key code : String}
    (found : attributes.childCode? key = some code) : IsNested code := by
  obtain ⟨value, present, rfl⟩ := Option.map_eq_some_iff.mp found
  exact (balanced.value? (Option.filter_eq_some_iff.mp present).1).code

/-- A text among the attributes has no brackets. -/
theorem text (balanced : attributes.Balanced) (key : String) :
    isPlain (attributes.text key) = true := by
  rw [Attributes.text]
  cases found : (attributes.value? key).bind Rendered.text? with
  | none => decide
  | some text =>
    obtain ⟨value, present, read⟩ := Option.bind_eq_some_iff.mp found
    exact (balanced.value? present).text? read

/-- A text attribute is nested, for it has no brackets at all. -/
theorem word (balanced : attributes.Balanced) (key : String) : IsNested (attributes.text key) :=
  isNested_of_isPlain (balanced.text key)

/-- The items of a list attribute are balanced. -/
theorem items (balanced : attributes.Balanced) {key : String} :
    ∀ item ∈ attributes.items key, item.Balanced := by
  intro item mem
  rw [Attributes.items] at mem
  split at mem
  · rename_i found
    cases balanced.value? found with
    | list parts nested => exact parts item mem
  · cases mem

/-- The children in a list attribute are balanced. -/
theorem children (balanced : attributes.Balanced) {key : String} :
    ∀ child ∈ attributes.children key, child.Balanced :=
  fun child mem => balanced.items child (List.mem_filter.mp mem).1

/-- The source texts of the children in a list attribute are nested. -/
theorem childCodes (balanced : attributes.Balanced) {key : String} :
    ∀ code ∈ attributes.childCodes key, IsNested code := by
  intro code mem
  obtain ⟨child, member, rfl⟩ := List.mem_map.mp mem
  exact (balanced.children child member).code

/-- The source texts of the slots of a list attribute are nested. -/
theorem slots (balanced : attributes.Balanced) {key : String} :
    ∀ code ∈ attributes.slots key, IsNested code := by
  intro code mem
  obtain ⟨item, member, rfl⟩ := List.mem_map.mp mem
  exact (balanced.items item member).code

/-- The texts in a list attribute have no brackets. -/
theorem texts (balanced : attributes.Balanced) {key : String} :
    ∀ text ∈ attributes.texts key, isPlain text = true := by
  intro text mem
  obtain ⟨item, member, read⟩ := List.mem_filterMap.mp mem
  exact (balanced.items item member).text? read

end Attributes.Balanced

end SourceTrace.Ast
