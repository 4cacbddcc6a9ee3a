/-!
# Parts of a text

What stands after a given beginning (`after?_append`), and what stands around the first or the last
occurrence of a character.
-/
namespace FrameFeed.Text

/-- What stands after a given beginning. -/
def after? : List Char → List Char → Option (List Char)
  | [], cs => some cs
  | _ :: _, [] => none
  | p :: ps, c :: cs => if p = c then after? ps cs else none

theorem after?_append (ps cs : List Char) : after? ps (ps ++ cs) = some cs := by
  induction ps with
  | nil => rfl
  | cons p ps ih => simpa [after?] using ih

/-- What stands before and after the first occurrence of a character. -/
def splitFirst? (c : Char) : List Char → Option (List Char × List Char)
  | [] => none
  | d :: cs => if d = c then some ([], cs) else (splitFirst? c cs).map fun (a, b) => (d :: a, b)

/-- What stands before and after the last occurrence of a character. -/
def splitLast? (c : Char) : List Char → Option (List Char × List Char)
  | [] => none
  | d :: cs =>
    match splitLast? c cs with
    | some (a, b) => some (d :: a, b)
    | none => if d = c then some ([], cs) else none

end FrameFeed.Text
