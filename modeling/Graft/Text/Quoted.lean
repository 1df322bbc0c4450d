import Graft.Text.Ranges

/-! # Quoted texts -/

namespace Graft.Text

def hexDigits (n : Nat) : List Char :=
  Nat.toDigits 16 n

/-! ## As data -/

/-- A character inside a data string. Control characters are escaped, all else stands for itself. -/
def dataEscape (c : Char) : List Char :=
  if c = '"' then ['\\', '"']
  else if c = '\\' then ['\\', '\\']
  else if c = '\n' then ['\\', 'n']
  else if c = '\r' then ['\\', 'r']
  else if c = '\t' then ['\\', 't']
  else if c.toNat = 8 then ['\\', 'b']
  else if c.toNat = 12 then ['\\', 'f']
  else if c.toNat < 0x10 then ['\\', 'u', '0', '0', '0'] ++ hexDigits c.toNat
  else if c.toNat < 0x20 then ['\\', 'u', '0', '0'] ++ hexDigits c.toNat
  else [c]

def dataQuoted (s : String) : String :=
  String.ofList ('"' :: s.toList.flatMap dataEscape ++ ['"'])

/-! ## For readers -/

/-- A character inside a quoted text of a log line. -/
def debugEscape (c : Char) : List Char :=
  if c = '"' then ['\\', '"']
  else if c = '\\' then ['\\', '\\']
  else if c = '\n' then ['\\', 'n']
  else if c = '\r' then ['\\', 'r']
  else if c = '\t' then ['\\', 't']
  else if c.toNat = 0 then ['\\', '0']
  else if isUnseen c then ['\\', 'u', '\x7b'] ++ hexDigits c.toNat ++ ['\x7d']
  else [c]

def debugQuoted (s : String) : String :=
  String.ofList ('"' :: s.toList.flatMap debugEscape ++ ['"'])

end Graft.Text
