/-!
JSON values and their compact text. Numbers keep the text in which they were written. A string
literal whose surrogate escapes are not paired denotes no text; such a literal can be read, because
it may stand where nobody looks, but no reader of typed values accepts it. An object keeps its
members in order, repeats included.
-/

namespace Landscape

inductive Json where
  | null
  | bool (value : Bool)
  | number (literal : String)
  | string (text : Option String)
  | array (items : List Json)
  | object (members : List (Option String × Json))
  deriving Repr, Inhabited

namespace Json

abbrev Member := Option String × Json

def text (value : String) : Json := string (some value)

def member (name : String) (value : Json) : Member := (some name, value)

def escape (c : Char) : List Char :=
  match c with
  | '"' => ['\\', '"']
  | '\\' => ['\\', '\\']
  | '\x08' => ['\\', 'b']
  | '\x0c' => ['\\', 'f']
  | '\n' => ['\\', 'n']
  | '\r' => ['\\', 'r']
  | '\t' => ['\\', 't']
  | c =>
      if c.toNat < 0x20 then
        ['\\', 'u', '0', '0', Nat.digitChar (c.toNat / 16), Nat.digitChar (c.toNat % 16)]
      else [c]

def quoted (text : List Char) : List Char :=
  '"' :: text.flatMap escape ++ ['"']

/-- A literal without text is written as the replacement character. -/
def literal (text : Option String) : List Char :=
  quoted (text.getD "\ufffd").toList

mutual

def chars : Json → List Char
  | null => "null".toList
  | bool true => "true".toList
  | bool false => "false".toList
  | number written => written.toList
  | string text => literal text
  | array items => '[' :: itemChars items ++ [']']
  | object members => '\x7b' :: memberChars members ++ ['\x7d']

def itemChars : List Json → List Char
  | [] => []
  | [item] => chars item
  | item :: rest => chars item ++ ',' :: itemChars rest

def memberChars : List (Option String × Json) → List Char
  | [] => []
  | [(name, value)] => literal name ++ ':' :: chars value
  | (name, value) :: rest => literal name ++ ':' :: chars value ++ ',' :: memberChars rest

end

def compact (value : Json) : String :=
  String.ofList value.chars

end Json

end Landscape
