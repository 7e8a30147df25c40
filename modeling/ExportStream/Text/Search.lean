/-!
# Searching and cutting texts

Small operations on runs of characters: the pieces between separators, and whether one run occurs in
another.
-/

namespace ExportStream.Text

/-- The pieces of a run of characters between separators; there is always at least one. -/
def pieces (separator : Char) : List Char → List (List Char)
  | [] => [[]]
  | c :: cs =>
    if c = separator then [] :: pieces separator cs
    else
      match pieces separator cs with
      | [] => [[c]]
      | p :: ps => (c :: p) :: ps

/-- Does one run of characters occur in another? -/
def occursIn (needle : List Char) : List Char → Bool
  | [] => needle.isEmpty
  | c :: cs => needle.isPrefixOf (c :: cs) || occursIn needle cs

/-- At most so many characters of a text, with three dots where something is cut off. -/
def clipped (limit : Nat) (s : String) : String :=
  let cs := s.toList
  if limit < cs.length then String.ofList (cs.take limit ++ ['.', '.', '.']) else s

end ExportStream.Text
