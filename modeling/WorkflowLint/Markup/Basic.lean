/-!
# Markup

Markup is written a line at a time. A `Step` writes a line, opens an element that nests the lines
behind it, or closes the innermost open element; `layout` turns steps into lines, each with two
blanks for every element open around it. What is still open at the end is closed there, the
innermost element first, so every opened element is closed by a line at its own depth.
-/

set_option autoImplicit false

namespace WorkflowLint.Markup

inductive Step where
  | line (text : String)
  | opening (tag attributes : String)
  | closing
  /-- An element on one line. -/
  | element (tag attributes text : String)
  deriving DecidableEq

def openingTag (tag attributes : String) : String :=
  if attributes.isEmpty then "<" ++ tag ++ ">" else "<" ++ tag ++ " " ++ attributes ++ ">"

def closingTag (tag : String) : String := "</" ++ tag ++ ">"

/-- A line inside `depth` open elements. -/
def indent (depth : Nat) (text : String) : String :=
  String.ofList (List.replicate (2 * depth) ' ') ++ text

/-- The closing tags of open elements, the innermost given first. -/
def closeAll : List String → List String
  | [] => []
  | tag :: outer => indent outer.length (closingTag tag) :: closeAll outer

/-- The lines that the steps write inside open elements, the innermost given first. Closing where
nothing is open writes nothing. -/
def layout : List String → List Step → List String
  | tags, [] => closeAll tags
  | tags, .line text :: rest => indent tags.length text :: layout tags rest
  | tags, .opening tag attributes :: rest =>
    indent tags.length (openingTag tag attributes) :: layout (tag :: tags) rest
  | tag :: tags, .closing :: rest => indent tags.length (closingTag tag) :: layout tags rest
  | [], .closing :: rest => layout [] rest
  | tags, .element tag attributes text :: rest =>
    indent tags.length (openingTag tag attributes ++ text ++ closingTag tag) :: layout tags rest

/-- The text of the lines. -/
def ofLines (lines : List String) : String := String.join (lines.map fun line => line ++ "\n")

/-- The markup that the steps write. -/
def render (steps : List Step) : String := ofLines (layout [] steps)

end WorkflowLint.Markup
