/-!
# Blank characters

The characters with the Unicode property White_Space, and the removal of blank margins.
-/

namespace SourceTrace.Text

/-- A blank is a character with the property White_Space. -/
def isBlank (c : Char) : Bool :=
  let code := c.toNat
  (0x09 ≤ code && code ≤ 0x0D) || code == 0x20 || code == 0x85 || code == 0xA0 ||
  code == 0x1680 || (0x2000 ≤ code && code ≤ 0x200A) || code == 0x2028 || code == 0x2029 ||
  code == 0x202F || code == 0x205F || code == 0x3000

/-- Characters without the blanks at their start. -/
def dropBlanks (chars : List Char) : List Char :=
  chars.dropWhile isBlank

/-- Characters without the blanks at their end. -/
def dropBlanksEnd (chars : List Char) : List Char :=
  (dropBlanks chars.reverse).reverse

/-- Text without the blanks at its end. -/
def trimEnd (text : String) : String :=
  String.ofList (dropBlanksEnd text.toList)

/-- Text without the blanks at either end. -/
def trim (text : String) : String :=
  String.ofList (dropBlanksEnd (dropBlanks text.toList))

/-- What remains after dropping leading blanks does not start with one. -/
theorem head?_dropBlanks (chars : List Char) :
    (dropBlanks chars).head?.all (fun c => !isBlank c) = true := by
  induction chars with
  | nil => rfl
  | cons c rest ih =>
    by_cases blank : isBlank c = true
    · simpa [dropBlanks, List.dropWhile_cons, blank] using ih
    · simp [dropBlanks, blank]

/-- Text without blanks has no margins to remove. -/
theorem trim_eq_self {text : String} (unblank : ∀ c ∈ text.toList, isBlank c = false) :
    trim text = text := by
  have kept {chars : List Char} (clear : ∀ c ∈ chars, isBlank c = false) :
      dropBlanks chars = chars := by
    cases chars with
    | nil => rfl
    | cons c rest => simp [dropBlanks, clear c List.mem_cons_self]
  have keptEnd : dropBlanks text.toList.reverse = text.toList.reverse :=
    kept fun c mem => unblank c (List.mem_reverse.mp mem)
  rw [trim, kept unblank, dropBlanksEnd, keptEnd, List.reverse_reverse, String.ofList_toList]

end SourceTrace.Text
