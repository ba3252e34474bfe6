import ChatLine.Text.GraphemeExtend
import ChatLine.Text.Printable

set_option autoImplicit false

namespace ChatLine.Text

/-- The characters that are written as a backslash and a letter or mark of their own. -/
def shortEscape? : Char → Option Char
  | '\x00' => some '0'
  | '\t' => some 't'
  | '\n' => some 'n'
  | '\r' => some 'r'
  | '"' => some '"'
  | '\\' => some '\\'
  | _ => none

/-- Whether a character stands for itself in quoted text: it is printable, shows something and does
not join the character before it. -/
def isPlain (c : Char) : Bool :=
  printable.contains c && !fillers.contains c && !graphemeExtend.contains c

def quoteChar (c : Char) : List Char :=
  match shortEscape? c with
  | some mark => ['\\', mark]
  | none =>
    if isPlain c then [c]
    else '\\' :: 'u' :: '\x7b' :: (Nat.toDigits 16 c.toNat ++ ['\x7d'])

def quote (text : String) : String :=
  String.ofList ('"' :: (text.toList.flatMap quoteChar ++ ['"']))

def quoteList (texts : List String) : String :=
  "[" ++ ", ".intercalate (texts.map quote) ++ "]"

end ChatLine.Text
