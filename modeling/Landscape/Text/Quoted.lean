import Landscape.Text.Unprintable

/-!
A text in double quotes on one line. Quotes and backslashes are escaped by a backslash, the usual
controls by a letter, and every other character without a visible form by its code point in
braces. Apostrophes stand for themselves.
-/

namespace Landscape.Text

def escape (c : Char) : List Char :=
  match c with
  | '"' => ['\\', '"']
  | '\\' => ['\\', '\\']
  | '\x00' => ['\\', '0']
  | '\t' => ['\\', 't']
  | '\n' => ['\\', 'n']
  | '\r' => ['\\', 'r']
  | c =>
      if isPrintable c then [c]
      else '\\' :: 'u' :: '\x7b' :: Nat.toDigits 16 c.toNat ++ ['\x7d']

def quote (text : String) : String :=
  String.ofList ('"' :: text.toList.flatMap escape ++ ['"'])

def bracketed (items : List String) : String :=
  "[" ++ ", ".intercalate items ++ "]"

def record (name : String) (fields : List (String × String)) : String :=
  name ++ " \x7b " ++ ", ".intercalate (fields.map fun (field, value) => field ++ ": " ++ value)
    ++ " \x7d"

/-- A record some of whose fields are kept back. -/
def openRecord (name : String) (fields : List (String × String)) : String :=
  name ++ " \x7b " ++ String.join (fields.map fun (field, value) => field ++ ": " ++ value ++ ", ")
    ++ ".. \x7d"

def quotedMap (pairs : List (String × String)) : String :=
  "\x7b" ++ ", ".intercalate (pairs.map fun (key, value) => quote key ++ ": " ++ quote value)
    ++ "\x7d"

def optional {Value : Type} (text : Value → String) : Option Value → String
  | none => "None"
  | some value => "Some(" ++ text value ++ ")"

def flag (value : Bool) : String :=
  if value then "true" else "false"

end Landscape.Text
