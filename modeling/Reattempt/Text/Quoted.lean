import Reattempt.Text.Printable

/-! Texts in quotes, on one line. The quote, the backslash, the three common
controls and every unprintable character are written as escapes; all other
characters stand for themselves. -/

namespace Reattempt

def hexDigits (width value : Nat) : List Char :=
  let digits := Nat.toDigits 16 value
  List.replicate (width - digits.length) '0' ++ digits

namespace Quoted

def singleMark : Char :=
  Char.ofNat 0x27

def doubleMark : Char :=
  Char.ofNat 0x22

/-- Single quotes are used unless they occur in the text and double quotes do not.
-/
def mark (text : List Char) : Char :=
  if text.contains singleMark && !text.contains doubleMark then doubleMark else singleMark

def escapeCode (code : Nat) : List Char :=
  if code < 0x100 then 'x' :: hexDigits 2 code
  else if code < 0x10000 then 'u' :: hexDigits 4 code
  else 'U' :: hexDigits 8 code

def escape (mark character : Char) : List Char :=
  if character = mark ∨ character = '\\' then ['\\', character]
  else if character = '\n' then ['\\', 'n']
  else if character = '\r' then ['\\', 'r']
  else if character = '\t' then ['\\', 't']
  else if isPrintable character then [character]
  else '\\' :: escapeCode character.toNat

def encode (text : List Char) : List Char :=
  mark text :: text.flatMap (escape (mark text)) ++ [mark text]

end Quoted

def quoted (text : String) : String :=
  String.ofList (Quoted.encode text.toList)

example : quoted "it's" = "\"it's\"" := by decide +kernel
example : quoted "a\n\x7f" = "'a\\n\\x7f'" := by decide +kernel

end Reattempt
