/-! # Lines — how captured text is cut into lines

    A line ends with a line feed, before which one carriage return is part of the
    ending.  The last line may lack its ending, and then keeps a carriage return
    that closes it.  No line follows the last ending, so the empty text has no
    lines. -/

namespace SourceBundle

/-- The lines of a list of characters, without their endings. -/
def linesOf : List Char → List (List Char)
  | [] => []
  | '\n' :: rest => [] :: linesOf rest
  | '\r' :: '\n' :: rest => [] :: linesOf rest
  | c :: rest =>
      match linesOf rest with
      | [] => [[c]]
      | line :: lines => (c :: line) :: lines

/-- The lines of a text, without their endings. -/
def lines (text : String) : List String :=
  (linesOf text.toList).map String.ofList

end SourceBundle
