/-!
Text cut into pieces at every separator.
-/

namespace DescriptorReaper

/-- The stretches of text between separators, the empty ones included. There is always one piece
more than separators. -/
def pieces (separator : Char) : List Char → List (List Char)
  | [] => [[]]
  | char :: rest =>
      if char = separator then [] :: pieces separator rest
      else match pieces separator rest with
        | [] => [[char]]
        | first :: others => (char :: first) :: others

end DescriptorReaper
