/-!
# Blank characters

The characters Unicode counts as white space, and the two cuts made at them: `trim` and `words`.
-/
namespace FrameFeed.Text

/-- White space in Unicode's sense. -/
def isBlank (c : Char) : Bool :=
  let n := c.toNat
  9 ≤ n && n ≤ 13 || n == 0x20 || n == 0x85 || n == 0xa0 || n == 0x1680 ||
  0x2000 ≤ n && n ≤ 0x200a || n == 0x2028 || n == 0x2029 || n == 0x202f || n == 0x205f || n == 0x3000

def dropBlank (cs : List Char) : List Char := cs.dropWhile isBlank

/-- The text without the blanks at both its ends. -/
def trim (s : String) : String :=
  .ofList (dropBlank (dropBlank s.toList).reverse).reverse

/-- Whether a text holds nothing but blanks. -/
def allBlank (s : String) : Bool := s.toList.all isBlank

/-- The maximal runs of characters that are not blank; `run` is the one being read, last first. -/
def wordsAux (run : List Char) : List Char → List String
  | [] => if run.isEmpty then [] else [.ofList run.reverse]
  | c :: cs =>
    if isBlank c then
      if run.isEmpty then wordsAux [] cs else .ofList run.reverse :: wordsAux [] cs
    else wordsAux (c :: run) cs

def words (s : String) : List String := wordsAux [] s.toList

end FrameFeed.Text
