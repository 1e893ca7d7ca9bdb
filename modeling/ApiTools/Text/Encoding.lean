set_option autoImplicit false

/-!
# Text files

A text file holds UTF-8. Its lines may end in any of the usual ways, and each end is read as a
single line feed.
-/

namespace ApiTools.Text

/-- A text in which every end of a line is a line feed. -/
def plainLines : List Char → List Char
  | '\r' :: '\n' :: rest => '\n' :: plainLines rest
  | '\r' :: rest => '\n' :: plainLines rest
  | c :: rest => c :: plainLines rest
  | [] => []

/-- The text of a file; none if the file is not in UTF-8. -/
def ofFile? (content : ByteArray) : Option String :=
  (String.fromUTF8? content).map fun s => String.ofList (plainLines s.toList)

end ApiTools.Text
