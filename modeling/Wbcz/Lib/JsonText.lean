import Mathlib.Data.List.Basic

/-!
# Recognizing JSON texts

Which byte strings `json.loads(raw.decode("utf-8"))` accepts: the grammar of JSON with
the three constants for numbers that Python adds. Every function consumes what it
recognizes and gives what is left.
-/

namespace JsonText

/-- Skip the blanks JSON allows between tokens. -/
def skipBlanks : List Char → List Char
  | c :: cs => if c = ' ' ∨ c = '\t' ∨ c = '\n' ∨ c = '\r' then skipBlanks cs else c :: cs
  | [] => []

/-- Skip a given text. -/
def skipText : List Char → List Char → Option (List Char)
  | [], cs => some cs
  | d :: ds, c :: cs => if c = d then skipText ds cs else none
  | _ :: _, [] => none

def isDigit (c : Char) : Bool := 48 ≤ c.toNat && c.toNat ≤ 57

def isHexDigit (c : Char) : Bool :=
  isDigit c || (65 ≤ c.toNat && c.toNat ≤ 70) || (97 ≤ c.toNat && c.toNat ≤ 102)

/-- Where in a string a character stands. -/
inductive StringMode where
  | plain
  | escaped
  | hex (left : Nat)

/-- The rest of a string after its opening quotation mark. -/
def skipString : StringMode → List Char → Option (List Char)
  | _, [] => none
  | .plain, c :: cs =>
    if c = '"' then some cs
    else if c = '\\' then skipString .escaped cs
    else if c.toNat < 32 then none
    else skipString .plain cs
  | .escaped, c :: cs =>
    if c = 'u' then skipString (.hex 3) cs
    else if c ∈ ['"', '\\', '/', 'b', 'f', 'n', 'r', 't'] then skipString .plain cs
    else none
  | .hex left, c :: cs =>
    if ¬ isHexDigit c then none
    else if left = 0 then skipString .plain cs
    else skipString (.hex (left - 1)) cs

/-- At least one digit. -/
def skipDigits (cs : List Char) : Option (List Char) :=
  if (cs.head?.map isDigit).getD false then some (cs.dropWhile isDigit) else none

/-- The digits before the decimal point: no superfluous zero. -/
def skipIntegral (cs : List Char) : Option (List Char) :=
  if cs.head? = some '0' then some cs.tail else skipDigits cs

/-- A decimal fraction, where there is one. -/
def skipFraction (cs : List Char) : List Char :=
  if cs.head? = some '.' then (skipDigits cs.tail).getD cs else cs

/-- A decimal exponent, where there is one. -/
def skipExponent (cs : List Char) : List Char :=
  match cs with
  | e :: sign :: rest =>
    if e = 'e' ∨ e = 'E' then
      (skipDigits (if sign = '+' ∨ sign = '-' then rest else sign :: rest)).getD cs
    else cs
  | _ => cs

def skipNumber (cs : List Char) : Option (List Char) :=
  (skipIntegral cs).map fun rest => skipExponent (skipFraction rest)

mutual

/-- A value, nested at most as deep as the fuel. -/
def skipValue : Nat → List Char → Option (List Char)
  | 0, _ => none
  | _ + 1, [] => none
  | fuel + 1, c :: cs =>
    if c = '"' then skipString .plain cs
    else if c = '\x7b' then
      let rest := skipBlanks cs
      if rest.head? = some '\x7d' then some rest.tail else skipFields fuel rest
    else if c = '[' then
      let rest := skipBlanks cs
      if rest.head? = some ']' then some rest.tail else skipItems fuel rest
    else if c = 'n' then skipText ['u', 'l', 'l'] cs
    else if c = 't' then skipText ['r', 'u', 'e'] cs
    else if c = 'f' then skipText ['a', 'l', 's', 'e'] cs
    else if c = 'N' then skipText ['a', 'N'] cs
    else if c = 'I' then skipText ['n', 'f', 'i', 'n', 'i', 't', 'y'] cs
    else if c = '-' then
      if cs.head? = some 'I' then skipText ['I', 'n', 'f', 'i', 'n', 'i', 't', 'y'] cs
      else skipNumber cs
    else skipNumber (c :: cs)

/-- The items of an array up to its closing bracket. -/
def skipItems : Nat → List Char → Option (List Char)
  | 0, _ => none
  | fuel + 1, cs =>
    match skipValue fuel (skipBlanks cs) with
    | none => none
    | some rest =>
      let rest := skipBlanks rest
      if rest.head? = some ',' then skipItems fuel rest.tail
      else if rest.head? = some ']' then some rest.tail
      else none

/-- The fields of an object up to its closing brace. -/
def skipFields : Nat → List Char → Option (List Char)
  | 0, _ => none
  | fuel + 1, cs =>
    let cs := skipBlanks cs
    if cs.head? ≠ some '"' then none
    else
      match skipString .plain cs.tail with
      | none => none
      | some rest =>
        let rest := skipBlanks rest
        if rest.head? ≠ some ':' then none
        else
          match skipValue fuel (skipBlanks rest.tail) with
          | none => none
          | some rest =>
            let rest := skipBlanks rest
            if rest.head? = some ',' then skipFields fuel rest.tail
            else if rest.head? = some '\x7d' then some rest.tail
            else none

end

/-- The text is one JSON value between blanks. -/
def isJson (text : List Char) : Bool :=
  match skipValue (2 * text.length + 2) (skipBlanks text) with
  | some rest => (skipBlanks rest).isEmpty
  | none => false

/-- `json.loads(raw.decode("utf-8"))` accepts the bytes. -/
def loadsBytes (raw : List UInt8) : Bool :=
  match String.fromUTF8? ⟨raw.toArray⟩ with
  | some text => isJson text.toList
  | none => false

example : isJson "\x7b\"a\": [1, -2.5e+3, null], \"b\":\"\\u00e9\"\x7d".toList = true := by decide +kernel
example : isJson "[1,]".toList = false := by decide +kernel

end JsonText
