import ExportStream.Text.Search
/-!
# Paths

The name at the end of a path, its ending behind the last point, and the paths that a path lies in.
-/

namespace ExportStream.Path

/-- The parts of a path between its slashes, without those that lead nowhere. -/
def parts (path : List Char) : List (List Char) :=
  (Text.pieces '/' path).filter fun p => p ≠ [] ∧ p ≠ ['.']

/-- The name at the end of a path, unless the path ends by leading upwards. -/
def name? (path : List Char) : Option (List Char) :=
  (parts path).getLast?.bind fun p => if p = ['.', '.'] then none else some p

/-- The ending of a name, behind its last point; a point in front of everything divides nothing. -/
def endingOf? (name : List Char) : Option (List Char) :=
  let ending := (name.reverse.takeWhile (· ≠ '.')).reverse
  if ending.length + 1 < name.length then some ending else none

/-- The ending of a path. -/
def ending? (path : String) : Option String :=
  ((name? path.toList).bind endingOf?).map String.ofList

/-- A path read from its back, without the slashes and points behind the name. -/
def trimmedBack : List Char → List Char
  | '/' :: cs => trimmedBack cs
  | '.' :: '/' :: cs => trimmedBack cs
  | cs => cs

/-- The path that a path lies in, both read from their backs. -/
def outerBack (back : List Char) : List Char :=
  trimmedBack ((trimmedBack back).dropWhile (· ≠ '/'))

/-- A path with its back read first, and the paths that it lies in up to a root or the present
place; the fuel bounds their number. -/
def nestedBack : Nat → List Char → List (List Char)
  | 0, _ => []
  | fuel + 1, back =>
    if (trimmedBack back).isEmpty then [] else back :: nestedBack fuel (outerBack back)

/-- A path and the paths that it lies in, the innermost first, without the root and the present
place. -/
def nested (path : String) : List String :=
  (nestedBack (path.length + 1) path.toList.reverse).map fun back => String.ofList back.reverse

/-- The path with one more ending, if it ends in a name. -/
def withEnding? (path ending : String) : Option String :=
  (name? path.toList).map fun _ =>
    String.ofList (trimmedBack path.toList.reverse).reverse ++ "." ++ ending

end ExportStream.Path
