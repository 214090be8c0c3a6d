import EquiJoin.Text.Invisible

/-!
# Quoted text for developers

A text between double quotes in which every character can be told from every other: the quote and
the backslash are escaped, the usual controls have letters, and any other character that does not
show is written by its number. -/

set_option autoImplicit false

namespace EquiJoin.Text

def byNumber (character : Char) : List Char :=
  '\\' :: 'u' :: '\x7b' :: Nat.toDigits 16 character.toNat ++ ['\x7d']

def shown (character : Char) : List Char :=
  match character with
  | '"' => ['\\', '"']
  | '\\' => ['\\', '\\']
  | '\n' => ['\\', 'n']
  | '\r' => ['\\', 'r']
  | '\t' => ['\\', 't']
  | '\x00' => ['\\', '0']
  | other => if invisible other then byNumber other else [other]

def quoted (text : String) : String :=
  String.ofList ('"' :: text.toList.flatMap shown ++ ['"'])

end EquiJoin.Text
