/-!
# Text in markup

A text is first encoded, so that the characters to which markup gives a meaning stand as entities,
and then its line feeds become line breaks. Both steps treat every character by itself, so nothing
that the text spells out is mistaken for an entity: its ampersand is encoded too.
-/

set_option autoImplicit false

namespace WorkflowLint.Markup

/-- The entity of a character to which markup gives a meaning. -/
def encodeChar (c : Char) : List Char :=
  if c = '&' then ['&', 'a', 'm', 'p', ';']
  else if c = '<' then ['&', 'l', 't', ';']
  else if c = '>' then ['&', 'g', 't', ';']
  else [c]

/-- The line break that stands for a line feed. -/
def breakChar (c : Char) : List Char :=
  if c = '\n' then ['<', 'b', 'r', ' ', '/', '>'] else [c]

/-- The text as markup shows it. -/
def escape (text : String) : String :=
  String.ofList ((text.toList.flatMap encodeChar).flatMap breakChar)

/-- What stands for a character in the end. -/
def escapeChar (c : Char) : List Char := (encodeChar c).flatMap breakChar

theorem toList_escape (text : String) : (escape text).toList = text.toList.flatMap escapeChar := by
  simp only [escape, String.toList_ofList, List.flatMap_assoc]
  rfl

end WorkflowLint.Markup
