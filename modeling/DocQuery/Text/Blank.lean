import DocQuery.Text.Ranges

/-
  White space.
  A text is blank when it holds nothing else; its words are the longest stretches without any.
-/

namespace DocQuery.Text

/-- The characters with the property White_Space. -/
def blankRanges : List (Nat × Nat) :=
  [(0x9, 0xd), (0x20, 0x20), (0x85, 0x85), (0xa0, 0xa0), (0x1680, 0x1680), (0x2000, 0x200a),
   (0x2028, 0x2029), (0x202f, 0x202f), (0x205f, 0x205f), (0x3000, 0x3000)]

/-- Whether a character is white space. -/
def isBlank (c : Char) : Bool :=
  inRanges blankRanges c.toNat

/-- Whether a text holds nothing but white space. -/
def isBlankText (s : String) : Bool :=
  s.toList.all isBlank

/-- Cuts a text at every character of a class; the pieces between two such characters that stand
side by side, or at an end, are empty. -/
def splitAt (sep : Char → Bool) : List Char → List (List Char)
  | [] => [[]]
  | c :: rest =>
    if sep c then [] :: splitAt sep rest
    else
      match splitAt sep rest with
      | [] => [[c]]
      | piece :: pieces => (c :: piece) :: pieces

/-- The longest stretches of a text that hold no character of a class. -/
def stretches (sep : Char → Bool) (cs : List Char) : List (List Char) :=
  (splitAt sep cs).filter fun piece => !piece.isEmpty

/-- The words of a text: the stretches between its white space. -/
def words (s : String) : List String :=
  (stretches isBlank s.toList).map String.ofList

end DocQuery.Text
