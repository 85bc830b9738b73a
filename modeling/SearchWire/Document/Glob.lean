/-!
# Path patterns

A star stands for any run of characters without a line feed; every other
character stands for itself, and a pattern covers the whole name.

The match is computed backwards over the pattern: for what is left of it, a
table says of every end of the text whether it matches, the whole text
first and the empty end last.
-/

namespace SearchWire.Glob

/-- A character and the rest of the pattern, given the table of the rest. -/
def character (p : Char) : List Char → List Bool → List Bool
  | c :: text, _ :: rest => (c == p && rest.headD false) :: character p text rest
  | _, _ => [false]

/-- A star and the rest of the pattern, given the table of the rest. -/
def star : List Char → List Bool → List Bool
  | c :: text, here :: rest =>
    let later := star text rest
    (here || (c != '\n' && later.headD false)) :: later
  | _, table => table

def table (text : List Char) : List Char → List Bool
  | [] => text.foldr (fun _ ends => false :: ends) [true]
  | p :: pattern => if p = '*' then star text (table text pattern) else character p text (table text pattern)

def isMatch (pattern name : String) : Bool := (table name.toList pattern.toList).headD false

end SearchWire.Glob
