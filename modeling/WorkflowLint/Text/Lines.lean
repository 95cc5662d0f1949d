/-!
# Lines of a text

A line ends at a line feed; a carriage return in front of that line feed belongs to the line end.
What stands behind the last line feed is a line unless it is empty.
-/

set_option autoImplicit false

namespace WorkflowLint.Text

/-- A line given backwards without the carriage return at its end. -/
def closeLine : List Char → List Char
  | '\r' :: line => line.reverse
  | line => line.reverse

/-- The lines of a text when the characters `line` precede it, the last of them first. -/
def linesFrom (line : List Char) : List Char → List (List Char)
  | [] => if line.isEmpty then [] else [line.reverse]
  | c :: rest =>
    if c = '\n' then closeLine line :: linesFrom [] rest else linesFrom (c :: line) rest

/-- The lines of a text, without their ends. -/
def lines (text : String) : List String := (linesFrom [] text.toList).map String.ofList

end WorkflowLint.Text
