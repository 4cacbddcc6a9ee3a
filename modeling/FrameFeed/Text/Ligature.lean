/-!
# Letters that are drawn as one

The letters, script by script, that a letter beside them can take into its own picture.
-/
namespace FrameFeed.Text

/-- Arabic letters of the shape of alef. -/
def isAlef (c : Char) : Bool :=
  [0x622, 0x623, 0x625, 0x627, 0x671, 0x672, 0x673, 0x675, 0x773, 0x774].contains c.toNat ||
    (0x870 ≤ c.toNat && c.toNat ≤ 0x882)

/-- Arabic letters of the shape of lam, which an alef after them is drawn into. -/
def isLam (c : Char) : Bool :=
  [0x644, 0x6b5, 0x6b6, 0x6b7, 0x6b8, 0x76a, 0x8a6, 0x8c7].contains c.toNat

/-- Khmer letters that can be drawn below the letter before them. -/
def isSubscriptLetter (c : Char) : Bool :=
  let n := c.toNat
  0x1780 ≤ n && n ≤ 0x1782 || 0x1784 ≤ n && n ≤ 0x1787 || 0x1789 ≤ n && n ≤ 0x178c ||
    0x178e ≤ n && n ≤ 0x1793 || 0x1795 ≤ n && n ≤ 0x1798 || 0x179b ≤ n && n ≤ 0x179d ||
    n == 0x17a0 || n == 0x17a2 || n == 0x17a7 || n == 0x17ab || n == 0x17ac || n == 0x17af

/-- Tifinagh consonants, of which two can be joined. -/
def isTifinaghConsonant (c : Char) : Bool :=
  0x2d31 ≤ c.toNat && c.toNat ≤ 0x2d65 || c.toNat == 0x2d6f

/-- Lisu tone letters, of which the first of a pair takes the place of the second. -/
def isLisuFirstTone (c : Char) : Bool := 0xa4f8 ≤ c.toNat && c.toNat ≤ 0xa4fb

def isLisuSecondTone (c : Char) : Bool := c.toNat == 0xa4fc || c.toNat == 0xa4fd

/-- Marks that stand between letters without parting them. -/
def isJoinControl (c : Char) : Bool :=
  let n := c.toNat
  n == 0x34f || n == 0x17b4 || n == 0x17b5 || 0x180b ≤ n && n ≤ 0x180d || n == 0x180f ||
    n == 0x200d || 0xfe00 ≤ n && n ≤ 0xfe0f || 0xe0100 ≤ n && n ≤ 0xe01ef

/-- Quotation marks that a mark after them can make as wide as an ideograph. -/
def isWidenedQuote (c : Char) : Bool :=
  [0x2018, 0x2019, 0x201c, 0x201d].contains c.toNat

end FrameFeed.Text
