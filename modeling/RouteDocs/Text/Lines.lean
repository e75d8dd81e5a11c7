/-!
Lines of a text, under two rules. A source file numbers its lines by line feeds and carriage returns only; a text
that is taken apart for reading also ends its lines at form feeds, vertical tabs and the separators of Unicode.
-/

namespace RouteDocs.Text

/-- what ends a line of a text: besides line feed and carriage return the vertical tab, the form feed, the three
separators U+001C to U+001E, the next-line control and the line and paragraph separators -/
def endsTextLine (c : Char) : Bool :=
  let n := c.toNat
  (10 ≤ n && n ≤ 13) || (28 ≤ n && n ≤ 30) || n == 0x85 || n == 0x2028 || n == 0x2029

/-- the lines of a text, without their ends. A line feed, a carriage return, both in this order, and any character in
`ends` terminate a line; a last line need not be ended. -/
def linesBy (ends : Char → Bool) : List Char → List (List Char)
  | [] => []
  | '\r' :: '\n' :: rest => [] :: linesBy ends rest
  | c :: rest =>
    if c == '\n' || c == '\r' || ends c then [] :: linesBy ends rest
    else match linesBy ends rest with
      | [] => [[c]]
      | line :: others => (c :: line) :: others

def lines (s : List Char) : List (List Char) := linesBy endsTextLine s

/-- the lines of a source file, as its line numbers count them -/
def sourceLines (s : List Char) : List (List Char) := linesBy (fun _ => false) s

/-- every line ended by a line feed alone -/
def unifyNewlines : List Char → List Char
  | [] => []
  | '\r' :: '\n' :: rest => '\n' :: unifyNewlines rest
  | '\r' :: rest => '\n' :: unifyNewlines rest
  | c :: rest => c :: unifyNewlines rest

end RouteDocs.Text
