import WorkflowLint.Proofs.Markup.Decoding
import WorkflowLint.Proofs.Markup.Entries
import WorkflowLint.Proofs.Report.Tags

/-!
# The message of a failure

A failure is shown as one message in fixed markup. Whatever the message spells out, it adds nothing to
the tags but its line breaks, and it can be read back from the markup (`escape_read_back`).
-/

set_option autoImplicit false

namespace WorkflowLint

open Markup

namespace Failure

/-- What is shown in front of a message. -/
def leadIn : String := "Error analyzing workflow: "

/-- The message that the markup of a failure shows. -/
def messageIn (markup : String) : String :=
  let shown := shownIn (openingTag "span" "class=\"message-text\"") (closingTag "span") markup
  String.ofList (shown.toList.drop leadIn.length)

/-- The markup in front of what is shown. -/
def front : String :=
  ofLines [indent 0 (openingTag "div" "class=\"message message-error\""),
    indent 1 (openingTag "i" "class=\"fas fa-exclamation-circle\"" ++ "" ++ closingTag "i")] ++
  indent 1 (openingTag "span" "class=\"message-text\"")

/-- The markup behind the closing tag of what is shown. -/
def back : String := "\n" ++ ofLines [indent 0 (closingTag "div")]

theorem html_eq (f : Failure) :
    f.html = front ++ (escape (leadIn ++ f.message) ++ (closingTag "span" ++ back)) := by
  have lines : f.html = ofLines ([indent 0 (openingTag "div" "class=\"message message-error\""),
      indent 1 (openingTag "i" "class=\"fas fa-exclamation-circle\"" ++ "" ++ closingTag "i")] ++
      ([indent 1 (openingTag "span" "class=\"message-text\"" ++ escape (leadIn ++ f.message) ++
        closingTag "span")] ++ [indent 0 (closingTag "div")])) := rfl
  have line (text : String) : ofLines [text] = text ++ "\n" := by simp [ofLines]
  have indented (a b : String) : indent 1 (a ++ b) = indent 1 a ++ b := String.append_assoc.symm
  rw [lines, ofLines_append, ofLines_append, line, front, back]
  simp only [indented, String.append_assoc]

/-- The markup of a failure with all its tags written out. -/
theorem html_eq_written (f : Failure) : f.html =
    "<div class=\"message message-error\">\n  <i class=\"fas fa-exclamation-circle\"></i>\n" ++
      "  <span class=\"message-text\">" ++ escape ("Error analyzing workflow: " ++ f.message) ++
      "</span>\n</div>\n" := by
  have written : front =
      "<div class=\"message message-error\">\n  <i class=\"fas fa-exclamation-circle\"></i>\n" ++
        "  <span class=\"message-text\">" := by decide
  have closed : closingTag "span" ++ back = "</span>\n</div>\n" := by decide
  rw [html_eq, written, closed, leadIn]
  exact String.append_assoc.symm

/-- The message is the only thing in the markup of a failure that is not the same for all. -/
theorem pieces_html (f : Failure) : pieces f.html = pieces front ++
    ((leadIn ++ f.message).toList.flatMap piecesOf ++ .tag (closingTag "span") :: pieces back) := by
  have last : front.toList.getLast? = some '>' := by simp [front, openingTag, indent]
  have body : Plain "/span".toList := by decide
  have close : (closingTag "span").toList = '<' :: "/span".toList ++ ['>'] := by decide
  rw [pieces, html_eq, String.toList_append, String.toList_append, String.toList_append,
    piecesFrom_append last, piecesFrom_escape, piecesFrom_tag body close, pieces, pieces]

theorem messageIn_html (f : Failure) : messageIn f.html = f.message := by
  have before : (pieces front).dropWhile
      (fun p => p != .tag (openingTag "span" "class=\"message-text\"")) =
        [.tag (openingTag "span" "class=\"message-text\"")] := rfl
  have shown := shownIn_eq f.pieces_html before (by decide)
  rw [messageIn, shown, String.toList_append, List.drop_left' String.length_toList,
    String.ofList_toList]

theorem newlines_leadIn (message : String) : newlines (leadIn ++ message) = newlines message := by
  rw [newlines, String.toList_append, List.count_append]
  exact Nat.zero_add _

end Failure

/-- **An escaped text can be read back.** It stands on one line, its only tags are line breaks, one
for each line feed of the text, and its ampersands begin entities; to put the line feeds back and to
decode the entities once gives the text. So the message of a failure adds nothing but line breaks to
the tags of its markup, and it is read back from there. -/
theorem escape_read_back (text : String) (f : Failure) :
    (OneLine (escape text) ∧ tags (escape text) = breaks (newlines text) ∧
      Plain (outside (escape text)) ∧ Begins '&' entities (escape text).toList ∧
      unescape (escape text) = text) ∧
    tags f.html = failureTags (newlines f.message) ∧ (outline [] (tags f.html)).isSome ∧
      Plain (outside f.html) ∧ Failure.messageIn f.html = f.message := by
  have escaped := fragment_escape text [] [] [] Finishes.nil
  rw [List.append_nil, List.append_nil] at escaped
  have failure := f.finishes_html
  have lines : newlines ("Error analyzing workflow: " ++ f.message) = newlines f.message :=
    Failure.newlines_leadIn f.message
  rw [lines] at failure
  have read : tags f.html = failureTags (newlines f.message) := failure.tags
  refine ⟨⟨oneLine_escape text, escaped.tags, escaped.outside, begins_escape text,
    unescape_escape text⟩, read, ?_, failure.outside, f.messageIn_html⟩
  rw [read]
  exact failure.outline

example : escape "&lt;<br />\n" = "&amp;lt;&lt;br /&gt;<br />" := by decide

end WorkflowLint
