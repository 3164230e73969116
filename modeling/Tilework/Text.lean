/-!
# Lists in text

Every list that a printed form or a message holds is written in one of three
ways: with commas, with commas and brackets, or with crosses between sizes.
-/

namespace Tilework.Text

/-- Items with a comma and a blank between neighbours. -/
def commas (items : List String) : String :=
  String.intercalate ", " items

/-- Items with commas, in square brackets. -/
def bracketed (items : List String) : String :=
  "[" ++ commas items ++ "]"

/-- Sizes with a cross between neighbours, as in `2x4`. -/
def crossed (items : List String) : String :=
  String.intercalate "x" items

/-- A list of 64-bit sizes in square brackets. -/
def sizes (values : List Int64) : String :=
  bracketed (values.map toString)

end Tilework.Text
