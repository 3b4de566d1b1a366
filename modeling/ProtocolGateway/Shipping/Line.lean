import ProtocolGateway.Text.Blank
import ProtocolGateway.Text.Utf8

/-!
# Shipped lines

What is written of one event becomes one line without white space at its end, and several lines
become one document with a line break after each.
-/

namespace ProtocolGateway.Shipping

/-- The line of what was written of an event; if nothing was written, there is none. -/
def lineOf? (written : Bytes) : Option (List Char) :=
  if written.isEmpty then none else some (Text.trimEnd (Utf8.decodeLossy written))

/-- The document of some lines. -/
def document (lines : List (List Char)) : List Char := lines.flatMap (· ++ ['\n'])

/-- The lines of a document, in which each line has a line break after it. -/
def documentLines (text : List Char) : List (List Char) := (Text.splitOn '\n' text).dropLast

/-- A document has the lines of which it was made, if there is no line break within them. -/
theorem documentLines_document {lines : List (List Char)} (h : ∀ line ∈ lines, '\n' ∉ line) :
    documentLines (document lines) = lines := by
  have hsplit : Text.splitOn '\n' (document lines) = lines ++ [[]] := by
    induction lines with
    | nil => rfl
    | cons line lines ih =>
      obtain ⟨hline, hlines⟩ := List.forall_mem_cons.1 h
      have hcons : document (line :: lines) = line ++ '\n' :: document lines := by
        simp [document]
      rw [hcons, Text.splitOn_append, Text.splitOn_of_notMem hline, ih hlines]
      rfl
  rw [documentLines, hsplit, List.dropLast_concat]

example : documentLines (document ["a".toList, [], "b c".toList]) =
    ["a".toList, [], "b c".toList] := by decide +kernel

end ProtocolGateway.Shipping
