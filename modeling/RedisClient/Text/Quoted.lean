import RedisClient.Text.Digits
import RedisClient.Text.Hidden

/-!
# Quoted texts in messages

Messages show a text between double quotes, with a backslash before quotes and backslashes,
short escapes for four control characters, and hidden characters by number.
-/

namespace RedisClient.Text

def quoteChar (c : Char) : List Char :=
  match c with
  | '\x00' => ['\\', '0']
  | '\t' => ['\\', 't']
  | '\n' => ['\\', 'n']
  | '\r' => ['\\', 'r']
  | '"' => ['\\', '"']
  | '\\' => ['\\', '\\']
  | _ =>
    if isHidden c then '\\' :: 'u' :: '\x7b' :: (Nat.toDigits 16 c.toNat ++ ['\x7d']) else [c]

def quoted (s : String) : String :=
  String.ofList ('"' :: (s.toList.flatMap quoteChar ++ ['"']))

end RedisClient.Text
