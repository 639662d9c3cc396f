/-!
# Brackets

Text between a pair of brackets, and lists of words.
-/

namespace SourceTrace.Text

/-- Text between round brackets. -/
def parens (text : String) : String := "(" ++ text ++ ")"

/-- Text between square brackets. -/
def squares (text : String) : String := "[" ++ text ++ "]"

/-- Text between curly brackets. -/
def braces (text : String) : String := "\x7b" ++ text ++ "\x7d"

/-- Text between double quotes, taken as it is. -/
def doubleQuotes (text : String) : String := "\"" ++ text ++ "\""

/-- Texts with a comma and a space between them. -/
def commas (texts : List String) : String := ", ".intercalate texts

/-- Texts with a space between them. -/
def spaced (texts : List String) : String := " ".intercalate texts

/-- Those of the texts that are not empty. -/
def nonempty (texts : List String) : List String := texts.filter fun text => !text.isEmpty

/-- The texts that are not empty, with a space between them. -/
def words (texts : List String) : String := spaced (nonempty texts)

end SourceTrace.Text
