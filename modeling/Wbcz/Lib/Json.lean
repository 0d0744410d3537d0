import Mathlib.Data.List.Basic

/-!
# JSON values and their canonical text

The values a Python program reads with `json.loads` and writes with `json.dumps`.
Objects keep their fields in insertion order; a key occurs once. A float is kept as
the text Python prints for it.
-/

/-- A JSON value. -/
inductive Json where
  | null
  | bool (b : Bool)
  | int (i : Int)
  | float (text : String)
  | str (s : String)
  | arr (items : List Json)
  | obj (fields : List (String × Json))
  deriving Repr, Inhabited

namespace Json

/-- The value of a key among the fields of an object. -/
def lookup (fields : List (String × Json)) (key : String) : Option Json :=
  (fields.find? fun field => field.1 = key).map Prod.snd

/-- `value.get(key)` for an object; nothing for any other value. -/
def get? (value : Json) (key : String) : Option Json :=
  match value with
  | obj fields => lookup fields key
  | _ => none

/-- `value.get(key)` as Python has it: an absent key reads as `None`. -/
def get (value : Json) (key : String) : Json := (value.get? key).getD null

/-- Assign a key: in place where it exists, at the end where it does not. -/
def set (fields : List (String × Json)) (key : String) (value : Json) :
    List (String × Json) :=
  if (lookup fields key).isSome then
    fields.map fun field => if field.1 = key then (key, value) else field
  else fields ++ [(key, value)]

/-- `{**fields, **more}`. -/
def merge (fields more : List (String × Json)) : List (String × Json) :=
  more.foldl (fun acc field => set acc field.1 field.2) fields

/-- The truth value of a JSON value in a Python condition. -/
def truthy : Json → Bool
  | null => false
  | bool b => b
  | int i => i ≠ 0
  | float text => text ≠ "0.0" && text ≠ "-0.0"
  | str s => s ≠ ""
  | arr items => !items.isEmpty
  | obj fields => !fields.isEmpty

/-- The text of a value that is a string. -/
def str? : Json → Option String
  | str s => some s
  | _ => none

/-- The value is `None`. -/
def isNull : Json → Bool
  | null => true
  | _ => false

/-- The value is an object. -/
def isObj : Json → Bool
  | obj _ => true
  | _ => false

/-- An optional text, `None` where it is absent. -/
def ofText? : Option String → Json
  | some s => str s
  | none => null

/-- An optional integer, `None` where it is absent. -/
def ofInt? : Option Int → Json
  | some i => int i
  | none => null

/-- One lower-case hexadecimal digit. -/
def hexDigit (n : Nat) : Char := if n < 10 then Char.ofNat (48 + n) else Char.ofNat (87 + n)

/-- The text of a character inside a JSON string. -/
def escapeChar (c : Char) : List Char :=
  if c = '"' then ['\\', '"']
  else if c = '\\' then ['\\', '\\']
  else if c = '\n' then ['\\', 'n']
  else if c = '\r' then ['\\', 'r']
  else if c = '\t' then ['\\', 't']
  else if c.toNat = 8 then ['\\', 'b']
  else if c.toNat = 12 then ['\\', 'f']
  else if c.toNat < 32 then ['\\', 'u', '0', '0', hexDigit (c.toNat / 16), hexDigit (c.toNat % 16)]
  else [c]

/-- A string as JSON text. -/
def quote (s : String) : String :=
  String.ofList ('"' :: (s.toList.flatMap escapeChar ++ ['"']))

/-- Comparison of keys by code points. -/
def keyLe : List Char → List Char → Bool
  | [], _ => true
  | _ :: _, [] => false
  | c :: cs, d :: ds => c.toNat < d.toNat || (c.toNat = d.toNat && keyLe cs ds)

/-- Insert a rendered field before the first field whose key is greater. -/
def insertField (field : String × String) : List (String × String) → List (String × String)
  | [] => [field]
  | other :: rest =>
    if keyLe field.1.toList other.1.toList then field :: other :: rest
    else other :: insertField field rest

/-- Rendered fields in the order of their keys. -/
def sortFields (fields : List (String × String)) : List (String × String) :=
  fields.foldr insertField []

mutual

/-- The canonical text of a value: no blanks, keys in order. -/
def canonical : Json → String
  | null => "null"
  | bool true => "true"
  | bool false => "false"
  | int i => toString i
  | float text => text
  | str s => quote s
  | arr items => "[" ++ ",".intercalate (canonicalItems items) ++ "]"
  | obj fields =>
    "\x7b" ++ ",".intercalate
      ((sortFields (canonicalFields fields)).map fun field => quote field.1 ++ ":" ++ field.2) ++
      "\x7d"

/-- The canonical texts of the items of an array. -/
def canonicalItems : List Json → List String
  | [] => []
  | item :: rest => canonical item :: canonicalItems rest

/-- The keys of an object with the canonical texts of their values. -/
def canonicalFields : List (String × Json) → List (String × String)
  | [] => []
  | (key, value) :: rest => (key, canonical value) :: canonicalFields rest

end

example : canonical (obj [("b", arr [int (-1), null]), ("a", str "x\n")]) =
    "\x7b\"a\":\"x\\n\",\"b\":[-1,null]\x7d" := by decide

end Json
