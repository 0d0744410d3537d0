import Mathlib.Data.List.Infix

/-!
# Python's operations on text

The string methods a Python program relies on, for `String` seen as a list of code
points: slices, white space and digits as Unicode has them, and the case mapping of
those characters whose upper case is ASCII.
-/

namespace Text

/-- The slice `s[:n]`. -/
def take (n : Nat) (s : String) : String := String.ofList (s.toList.take n)

/-- The UTF-8 bytes of a text. -/
def utf8 (s : String) : List UInt8 := s.toUTF8.data.toList

/-- The UTF-8 bytes of the characters of a text. -/
def encode (cs : List Char) : List UInt8 := cs.flatMap String.utf8EncodeChar

theorem utf8_ofList (cs : List Char) : utf8 (String.ofList cs) = encode cs := by
  simp [utf8, encode, String.toUTF8, List.utf8Encode]

/-- The characters that `str.isspace` accepts. -/
def isSpace (c : Char) : Bool :=
  let n := c.toNat
  (9 ≤ n && n ≤ 13) || (28 ≤ n && n ≤ 32) || n = 0x85 || n = 0xa0 || n = 0x1680 ||
    (0x2000 ≤ n && n ≤ 0x200a) || n = 0x2028 || n = 0x2029 || n = 0x202f || n = 0x205f ||
    n = 0x3000

/-- `list.dropWhile` from both ends. -/
def stripList (cs : List Char) : List Char :=
  ((cs.dropWhile isSpace).reverse.dropWhile isSpace).reverse

/-- `str.strip` without arguments. -/
def strip (s : String) : String := String.ofList (stripList s.toList)

/-- An ASCII decimal digit. -/
def isAsciiDigit (c : Char) : Bool := 48 ≤ c.toNat && c.toNat ≤ 57

/-- The upper case of a character, where all of it is ASCII: the ASCII letters, and the
characters whose full upper-case mapping consists of ASCII letters. -/
def upperCharAscii? (c : Char) : Option (List Char) :=
  let n := c.toNat
  if 97 ≤ n ∧ n ≤ 122 then some [Char.ofNat (n - 32)]
  else if n < 128 then some [c]
  else if n = 0x131 then some ['I']
  else if n = 0x17f then some ['S']
  else if n = 0xdf then some ['S', 'S']
  else if n = 0xfb00 then some ['F', 'F']
  else if n = 0xfb01 then some ['F', 'I']
  else if n = 0xfb02 then some ['F', 'L']
  else if n = 0xfb03 then some ['F', 'F', 'I']
  else if n = 0xfb04 then some ['F', 'F', 'L']
  else if n = 0xfb05 then some ['S', 'T']
  else if n = 0xfb06 then some ['S', 'T']
  else none

/-- The ASCII letters of a character's case folding, with the character itself where its
folding has none. -/
def caseFoldCharAscii (c : Char) : List Char :=
  let n := c.toNat
  if 65 ≤ n ∧ n ≤ 90 then [Char.ofNat (n + 32)]
  else if n = 0xdf ∨ n = 0x1e9e then ['s', 's']
  else if n = 0x130 then ['i', Char.ofNat 0x307]
  else if n = 0x149 then [Char.ofNat 0x2bc, 'n']
  else if n = 0x17f then ['s']
  else if n = 0x1f0 then ['j', Char.ofNat 0x30c]
  else if n = 0x1e96 then ['h', Char.ofNat 0x331]
  else if n = 0x1e97 then ['t', Char.ofNat 0x308]
  else if n = 0x1e98 then ['w', Char.ofNat 0x30a]
  else if n = 0x1e99 then ['y', Char.ofNat 0x30a]
  else if n = 0x1e9a then ['a', Char.ofNat 0x2be]
  else if n = 0x212a then ['k']
  else if n = 0xfb00 then ['f', 'f']
  else if n = 0xfb01 then ['f', 'i']
  else if n = 0xfb02 then ['f', 'l']
  else if n = 0xfb03 then ['f', 'f', 'i']
  else if n = 0xfb04 then ['f', 'f', 'l']
  else if n = 0xfb05 ∨ n = 0xfb06 then ['s', 't']
  else [c]

/-- The case folding of a character, where it is ASCII or Russian. -/
def caseFoldCharRussian (c : Char) : List Char :=
  let n := c.toNat
  if 0x410 ≤ n ∧ n ≤ 0x42f then [Char.ofNat (n + 32)]
  else if n = 0x401 then [Char.ofNat 0x451]
  -- the letters of old prints
  else if n = 0x1c80 then ['в']
  else if n = 0x1c81 then ['д']
  else if n = 0x1c82 then ['о']
  else if n = 0x1c83 then ['с']
  else if n = 0x1c84 ∨ n = 0x1c85 then ['т']
  else if n = 0x1c86 then ['ъ']
  else caseFoldCharAscii c

/-- `str.casefold`, as far as ASCII and Russian texts can be found in the result. -/
def caseFoldRussian (s : String) : String := String.ofList (s.toList.flatMap caseFoldCharRussian)

/-- The upper case of a character, where it is ASCII or Russian, and the character itself
elsewhere. -/
def upperCharRussian (c : Char) : List Char :=
  if 0x430 ≤ c.toNat ∧ c.toNat ≤ 0x44f then [Char.ofNat (c.toNat - 32)]
  else (upperCharAscii? c).getD [c]

/-- `str.upper`, as far as ASCII and Russian texts can be found in the result. -/
def upperRussian (s : String) : String := String.ofList (s.toList.flatMap upperCharRussian)

/-- `str.strip` with the characters to strip. -/
def stripChars (chars : List Char) (s : String) : String :=
  let drop := List.dropWhile fun c => decide (c ∈ chars)
  String.ofList (drop (drop s.toList).reverse).reverse

/-- The zero of every script that has decimal digits. -/
def decimalZeros : List Nat :=
  [0x30, 0x660, 0x6f0, 0x7c0, 0x966, 0x9e6, 0xa66, 0xae6, 0xb66, 0xbe6, 0xc66, 0xce6, 0xd66,
    0xde6, 0xe50, 0xed0, 0xf20, 0x1040, 0x1090, 0x17e0, 0x1810, 0x1946, 0x19d0, 0x1a80, 0x1a90,
    0x1b50, 0x1bb0, 0x1c40, 0x1c50, 0xa620, 0xa8d0, 0xa900, 0xa9d0, 0xa9f0, 0xaa50, 0xabf0,
    0xff10, 0x104a0, 0x10d30, 0x11066, 0x110f0, 0x11136, 0x111d0, 0x112f0, 0x11450, 0x114d0,
    0x11650, 0x116c0, 0x11730, 0x118e0, 0x11950, 0x11c50, 0x11d50, 0x11da0, 0x11f50, 0x16a60,
    0x16ac0, 0x16b50, 0x1d7ce, 0x1d7d8, 0x1d7e2, 0x1d7ec, 0x1d7f6, 0x1e140, 0x1e2f0, 0x1e4f0,
    0x1e950, 0x1fbf0]

/-- The value of a decimal digit of any script: `int` of one character that `\d` matches. -/
def decimalValue? (c : Char) : Option Nat :=
  (decimalZeros.find? fun first => first ≤ c.toNat && c.toNat < first + 10).map fun first =>
    c.toNat - first

/-- The characters that `\d` matches. -/
def isDecimal (c : Char) : Bool := (decimalValue? c).isSome

/-- The characters that `str.isdigit` accepts: the decimal digits, and the digits in circles, raised
or lowered ones, and others that no number is written with. -/
def isDigit (c : Char) : Bool :=
  isDecimal c || c.toNat = 0xb9 || c.toNat = 0x19da || c.toNat = 0x2070 || c.toNat = 0x24ea ||
    c.toNat = 0x24ff || [(0xb2, 0xb3), (0x1369, 0x1371), (0x2074, 0x2079), (0x2080, 0x2089),
      (0x2460, 0x2468), (0x2474, 0x247c), (0x2488, 0x2490), (0x24f5, 0x24fd), (0x2776, 0x277e),
      (0x2780, 0x2788), (0x278a, 0x2792), (0x10a40, 0x10a43), (0x10e60, 0x10e68),
      (0x11052, 0x1105a), (0x1f100, 0x1f10a)].any fun range : Nat × Nat =>
        range.1 ≤ c.toNat && c.toNat ≤ range.2

/-- `str.isdigit`. -/
def isdigit (s : String) : Bool := s ≠ "" && s.toList.all isDigit

/-- The character that `int` and `Decimal` read: white space and the digits of any script count as
those of ASCII, and no other character is read. -/
def asciiOf (c : Char) : Option Char :=
  if c.toNat < 128 then some c
  else if isSpace c then some ' '
  else (decimalValue? c).map Nat.digitChar

/-- `str.casefold`, as far as ASCII texts can be found in the result. -/
def caseFoldAscii (s : String) : String := String.ofList (s.toList.flatMap caseFoldCharAscii)

/-- The ASCII letters of a character's lower case, with the character itself where it has none. -/
def lowerCharAscii (c : Char) : List Char :=
  let n := c.toNat
  if 65 ≤ n ∧ n ≤ 90 then [Char.ofNat (n + 32)]
  else if n = 0x130 then ['i', Char.ofNat 0x307]
  else if n = 0x212a then ['k']
  else [c]

/-- `re.sub(r"[^a-z0-9]", "", s.lower())`. -/
def compact (s : String) : String :=
  String.ofList ((s.toList.flatMap lowerCharAscii).filter fun c =>
    isAsciiDigit c || 97 ≤ c.toNat && c.toNat ≤ 122)

/-- `str.replace` of one character by another. -/
def replaceChar (old new : Char) (s : String) : String :=
  String.ofList (s.toList.map fun c => if c = old then new else c)

/-- `needle in s`. -/
def contains (needle s : String) : Bool := decide (needle.toList <:+: s.toList)

/-- `str.upper`, where the result is ASCII. -/
def upperAscii? (s : String) : Option String :=
  (s.toList.mapM upperCharAscii?).map fun css => String.ofList css.flatten

theorem stripList_of_ends {cs : List Char} (hfirst : ∀ c, cs.head? = some c → isSpace c = false)
    (hlast : ∀ c, cs.getLast? = some c → isSpace c = false) : stripList cs = cs := by
  have hdrop : ∀ l : List Char, (∀ c, l.head? = some c → isSpace c = false) →
      l.dropWhile isSpace = l := by
    intro l h
    cases l with
    | nil => rfl
    | cons c l => rw [List.dropWhile_cons, h c rfl]; rfl
  rw [stripList, hdrop cs hfirst, hdrop cs.reverse, List.reverse_reverse]
  simpa using hlast

private theorem head_dropWhile {p : Char → Bool} (l : List Char) (c : Char)
    (h : (l.dropWhile p).head? = some c) : p c = false := by
  have hnot := List.head?_dropWhile_not p l
  rw [h] at hnot
  simpa using hnot

private theorem getLast_dropWhile {p : Char → Bool} :
    ∀ (l : List Char) (c : Char), (l.dropWhile p).getLast? = some c → l.getLast? = some c
  | [], _, h => by simp at h
  | d :: l, c, h => by
    rw [List.dropWhile_cons] at h
    split at h
    · have := getLast_dropWhile l c h
      rw [List.getLast?_cons, this]
      rfl
    · exact h

/-- Stripping twice is stripping once. -/
theorem stripList_stripList (cs : List Char) : stripList (stripList cs) = stripList cs := by
  refine stripList_of_ends ?_ ?_
  · intro c h
    have hlast : ((cs.dropWhile isSpace).reverse.dropWhile isSpace).getLast? = some c := by
      simpa [stripList] using h
    have := getLast_dropWhile _ _ hlast
    rw [List.getLast?_reverse] at this
    exact head_dropWhile _ _ this
  · intro c h
    have hfirst : ((cs.dropWhile isSpace).reverse.dropWhile isSpace).head? = some c := by
      simpa [stripList] using h
    exact head_dropWhile _ _ hfirst

theorem strip_strip (s : String) : strip (strip s) = strip s := by
  simp [strip, stripList_stripList]

theorem utf8_injective {s t : String} (h : utf8 s = utf8 t) : s = t :=
  String.toByteArray_inj.mp (ByteArray.ext (Array.toList_inj.mp h))

end Text
