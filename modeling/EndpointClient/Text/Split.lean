/-!
# EndpointClient.Text.Split

A text cut at each occurrence of a character.

* `splitAt` gives the parts, one more than there are cuts.
-/

namespace EndpointClient.Text

/-- The parts of a text between the occurrences of a character. There is one part at least. -/
def splitAt (sep : Char) : List Char → List (List Char)
  | [] => [[]]
  | c :: r =>
    if c = sep then [] :: splitAt sep r
    else
      match splitAt sep r with
      | [] => [[c]]
      | p :: ps => (c :: p) :: ps

end EndpointClient.Text
