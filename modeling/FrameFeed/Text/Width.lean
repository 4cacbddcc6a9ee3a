import FrameFeed.Text.Columns
import FrameFeed.Text.Emoji
import FrameFeed.Text.Ligature
/-!
# The width of a text on a screen

A text is as wide as its characters, except where what follows a character is drawn into it: letters
that join, pictographs that are put together from several, letters that spell a flag. So a text is
measured from its end, and each step knows what stands after the character at hand.
-/
namespace FrameFeed.Text

/-- The text after a character, as far as it bears on that character's width. In `lamed`, `ya`,
`tifinagh` and `orkhonI` the flag tells that a joiner stands before the letter. -/
inductive Following where
  | plain
  | lineFeed
  | skinTone
  /-- A single letter of a flag. -/
  | flagLetter
  /-- Two letters of flags, or more. -/
  | flagLetters
  | pictograph
  /-- A pictograph with a joiner before it. -/
  | joined
  /-- A keycap with such a pictograph after it. -/
  | joinedKeycap
  /-- Letters of flags with such a pictograph after them: one, an even number, an odd number. -/
  | joinedLetter
  | joinedEven
  | joinedOdd
  /-- The end of a flag that is spelt in tags, and the letters and digits of it. -/
  | tagEnd
  | tagLetters (n : Nat)
  | tagDigits (n : Nat)
  | alef
  | lamed (joined : Bool)
  | subscriptLetter
  | ya (joined : Bool)
  /-- The vowel sign i, which a ya follows. -/
  | yaAfterI
  | tifinagh (joined : Bool)
  /-- The Tifinagh joiner, which a consonant follows. -/
  | tifinaghJoiner
  | lisuTone
  | orkhonI (joined : Bool)
  | kiratE
  | kiratAi
deriving DecidableEq, Repr

/-- How the next character asks the one before it to be drawn. -/
inductive Drawn where
  | asIs
  | asPictograph
  | asText
  | wide
deriving DecidableEq, Repr

structure Context where
  following : Following
  drawn : Drawn
deriving DecidableEq, Repr

namespace Following

def asIs (f : Following) : Context := ⟨f, .asIs⟩

/-- Letters that are drawn into what stands before them. -/
def isLetter : Following → Bool
  | alef | lamed _ | subscriptLetter | ya _ | yaAfterI | tifinagh _ | tifinaghJoiner | lisuTone
  | orkhonI _ => true
  | _ => false

/-- Letters that stay joined over marks of no width. -/
def staysJoined (f : Following) : Bool := f.isLetter && f != alef

/-- What is left behind a mark that asks for a way of drawing. -/
def behindMark (f : Following) : Following := if f.isLetter then f else plain

/-- The same letters with a joiner before them. -/
def withJoiner : Following → Following
  | lamed _ => lamed true
  | ya _ => ya true
  | tifinagh _ => tifinagh true
  | orkhonI _ => orkhonI true
  | f => f

/-- Takes part in a pictograph that a joiner before it completes. -/
def takesJoiner : Following → Bool
  | pictograph | flagLetters | joinedEven | joinedOdd | skinTone => true
  | _ => false

end Following

/-- What a character is for the one before it, where nothing after it matters. -/
def Context.of (c : Char) : Context :=
  let n := c.toNat
  let asIs (f : Following) : Context := f.asIs
  if n = 0xa then asIs .lineFeed
  else if n ≤ 0xa0 then asIs .plain
  else if n = 0x5dc then asIs (.lamed false)
  else if isAlef c then asIs .alef
  else if isSubscriptLetter c then asIs .subscriptLetter
  else if n = 0x1a10 then asIs (.ya false)
  else if isTifinaghConsonant c then asIs (.tifinagh false)
  else if isLisuSecondTone c then asIs .lisuTone
  else if n = 0xfe01 then ⟨.plain, .wide⟩
  else if n = 0xfe0e then ⟨.plain, .asText⟩
  else if n = 0xfe0f then ⟨.plain, .asPictograph⟩
  else if n = 0x10c03 then asIs (.orkhonI false)
  else if n = 0x16d67 then asIs .kiratE
  else if n = 0x16d68 then asIs .kiratAi
  else if isFlagLetter c then asIs .flagLetter
  else if isSkinTone c then asIs .skinTone
  else if isPictograph c then asIs .pictograph
  else asIs .plain

/-- The columns that a character takes before the given text, where it joins with that text, and what
the two are for the character before them. -/
def joinWith? (c : Char) (f : Following) : Option (Int × Following) :=
  let n := c.toNat
  let small := 0xe0061 ≤ n && n ≤ 0xe007a
  let digit := 0xe0030 ≤ n && n ≤ 0xe0039
  match f with
  | .alef =>
    if isLam c then some (0, .plain) else if isTransparent c then some (0, .alef) else none
  | .lamed true => if n = 0x5d0 then some (0, .plain) else none
  | .subscriptLetter => if n = 0x17d2 then some (-1, .plain) else none
  | .ya true => if n = 0x1a17 then some (0, .yaAfterI) else none
  | .yaAfterI => if n = 0x1a15 then some (0, .plain) else none
  | .tifinagh joined =>
    if n = 0x2d7f then some (1, .tifinaghJoiner)
    else if joined && isTifinaghConsonant c then some (0, .plain)
    else none
  | .tifinaghJoiner => if isTifinaghConsonant c then some (-1, .plain) else none
  | .lisuTone => if isLisuFirstTone c then some (0, .plain) else none
  | .orkhonI true => if n = 0x10c32 then some (0, .plain) else none
  | .kiratE =>
    if n = 0x16d63 then some (0, .plain)
    else if n = 0x16d67 then some (0, .kiratAi)
    else if n = 0x16d68 then some (1, .kiratE)
    else if n = 0x16d69 then some (0, .plain)
    else none
  | .kiratAi => if n = 0x16d63 then some (0, .plain) else none
  | .flagLetter | .flagLetters =>
    if isFlagLetter c then some (1, .flagLetters)
    else if f.takesJoiner && n == 0x200d then some (0, .joined)
    else none
  | .skinTone =>
    if inRanges tonedRanges c then some (0, .pictograph)
    else if n = 0x200d then some (0, .joined)
    else none
  | .pictograph => if n = 0x200d then some (0, .joined) else none
  | .joined =>
    if n = 0x20e3 then some (0, .joinedKeycap)
    else if isFlagLetter c then some (1, .joinedLetter)
    else if isSkinTone c then some (0, .skinTone)
    else if n = 0xe007f then some (0, .tagEnd)
    else if isPictograph c then some (0, .pictograph)
    else none
  | .joinedLetter => if isFlagLetter c then some (-1, .joinedEven) else none
  | .joinedOdd =>
    if isFlagLetter c then some (-1, .joinedEven)
    else if n = 0x200d then some (0, .joined)
    else none
  | .joinedEven =>
    if isFlagLetter c then some (3, .joinedOdd)
    else if n = 0x200d then some (0, .joined)
    else none
  | .tagEnd =>
    if small then some (0, .tagLetters 1) else if digit then some (0, .tagDigits 1) else none
  | .tagLetters k =>
    if small && k < 6 then some (0, .tagLetters (k + 1))
    else if digit && k < 5 then some (0, .tagDigits 1)
    else if n == 0x1f3f4 && 3 ≤ k then some (0, .pictograph)
    else none
  | .tagDigits k =>
    if digit && k < 3 then some (0, .tagDigits (k + 1))
    else if n == 0x1f3f4 && k == 3 then some (0, .pictograph)
    else none
  | _ => none

/-- The columns that a character adds before the given text, and what both are for the character
before them. -/
def measure (c : Char) (after : Context) : Int × Context :=
  let joinedPictograph := after.following = .joined || after.following = .joinedKeycap
  let alone : Int × Context := (charWidth c, .of c)
  if after.drawn = .asPictograph && canBePictograph c then
    (if joinedPictograph then 0 else 2, Following.pictograph.asIs)
  else
    let after : Context := if after.drawn = .asPictograph then after.following.behindMark.asIs else after
    if c.toNat ≤ 0xa0 then
      (if c = '\r' && after.following = .lineFeed then 0 else 1, .of c)
    else if after = Following.plain.asIs then alone
    else if c.toNat = 0xfe0f then
      (0, ⟨if joinedPictograph && after.drawn = .asIs then after.following
        else after.following.behindMark, .asPictograph⟩)
    else if c.toNat = 0xfe0e then (0, ⟨after.following.behindMark, .asText⟩)
    else if c.toNat = 0xfe01 then (0, ⟨after.following.behindMark, .wide⟩)
    else if after.drawn = .asText && canBePlain c then (1, Following.plain.asIs)
    else if after.drawn = .wide && isWidenedQuote c then (2, Following.plain.asIs)
    else
      let f := if after.drawn = .asIs then after.following else after.following.behindMark
      if f.staysJoined && c.toNat = 0x200d then (0, f.withJoiner.asIs)
      else if f.staysJoined && isJoinControl c then (0, f.asIs)
      else match joinWith? c f with
        | some (w, f) => (w, f.asIs)
        | none => alone

/-- The columns that a text takes. -/
def width (s : String) : Nat :=
  (s.toList.foldr (fun c (n, after) =>
    let (w, before) := measure c after
    (n + w, before)) ((0 : Int), Following.plain.asIs)).1.toNat

end FrameFeed.Text
