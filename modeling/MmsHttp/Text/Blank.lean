/-!
Blank characters and trimming. Every place that trims text (macro values, extra
headers, locale names, subscriber numbers, proxy hosts) uses this one class, so a
value trimmed in one place has nothing left to trim in another.
-/

namespace MmsHttp.Text

/-- A blank is a character that separates words: the ASCII controls that move the
cursor or separate records, the space, and the spaces and line breaks of Unicode. -/
def isBlank (c : Char) : Bool :=
  let n := c.toNat
  (9 ≤ n && n ≤ 13) || (28 ≤ n && n ≤ 32) || n == 0x85 || n == 0xA0 || n == 0x1680 ||
    (0x2000 ≤ n && n ≤ 0x200A) || n == 0x2028 || n == 0x2029 || n == 0x202F ||
    n == 0x205F || n == 0x3000

def trimStart (cs : List Char) : List Char :=
  cs.dropWhile isBlank

def trimEnd (cs : List Char) : List Char :=
  (trimStart cs.reverse).reverse

def trim (cs : List Char) : List Char :=
  trimEnd (trimStart cs)

def isBlankText (s : String) : Bool :=
  s.toList.all isBlank

end MmsHttp.Text
