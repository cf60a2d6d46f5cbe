import Quota.Text.Hex
import Quota.Text.Unprintable

set_option autoImplicit false

/-!
# Quoted text and labelled records

Text between double quotes, in which a quote, a backslash, the short controls and every unprintable character are
escaped. Records are written as a name and its fields between braces, lists between brackets.
-/
namespace Quota.Quoted

/-- A character inside the quotes. -/
def character (c : Char) : String :=
  match c with
  | '"' => "\\\""
  | '\\' => "\\\\"
  | '\n' => "\\n"
  | '\r' => "\\r"
  | '\t' => "\\t"
  | '\x00' => "\\0"
  | c => if Unprintable.contains c then "\\u\x7b" ++ Hex.minimal c.toNat ++ "\x7d" else c.toString

def text (s : String) : String :=
  "\"" ++ String.join (s.toList.map character) ++ "\""

def list (entries : List String) : String :=
  "[" ++ ", ".intercalate entries ++ "]"

/-- A name and its fields; a record without fields is its name alone. -/
def record (name : String) (fields : List (String × String)) : String :=
  match fields with
  | [] => name
  | _ => name ++ " \x7b " ++ ", ".intercalate (fields.map fun f => f.1 ++ ": " ++ f.2) ++ " \x7d"

end Quota.Quoted
