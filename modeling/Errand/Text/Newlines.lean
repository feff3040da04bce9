/-! # Line ends

A text captured from a process may end its lines with a line feed, a carriage return or both.
`unifyNewlines` writes every one of them as a line feed. -/

namespace Errand.Text

/-- One character of a text whose line ends are unified: whether the last one was a carriage
return, and the text so far, the last character first. -/
def unifyStep : Bool × List Char → Char → Bool × List Char
  | (_, out), '\r' => (true, '\n' :: out)
  | (true, out), '\n' => (false, out)
  | (_, out), c => (false, c :: out)

/-- The text with a line feed for every carriage return, line feed or pair of the two. -/
def unifyNewlines (s : String) : String :=
  .ofList (s.toList.foldl unifyStep (false, [])).2.reverse

example : unifyNewlines "a\r\r\nb\n\rc" = "a\n\nb\n\nc" := by decide +kernel

end Errand.Text
