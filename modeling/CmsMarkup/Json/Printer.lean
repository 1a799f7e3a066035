import CmsMarkup.Json
import CmsMarkup.Text.Percent

/-! JSON values as text on one line. -/

namespace CmsMarkup.Json

def printChar (c : Char) : List Char :=
  if c = '"' then ['\\', '"']
  else if c = '\\' then ['\\', '\\']
  else if c.toNat < 0x20 || c.toNat = 0x7F then
    ['\\', 'u', '0', '0', Percent.hexDigit (c.toNat / 16), Percent.hexDigit (c.toNat % 16)]
  else [c]

/-- A surrogate by its escape. -/
def printSurrogate (unit : Surrogate) : List Char := '\\' :: 'u' :: Nat.toDigits 16 (0xD800 + unit)

def printText : CodeText → List Char
  | .text s => s.toList.flatMap printChar
  | .lone before unit rest =>
    before.toList.flatMap printChar ++ printSurrogate unit ++ printText rest

def printString (t : CodeText) : List Char := '"' :: printText t ++ ['"']

mutual

def print : Json → List Char
  | .null => "null".toList
  | .bool b => (if b then "true" else "false").toList
  | .int n => (toString n).toList
  | .real text => text.toList
  | .string s => printString s
  | .array [] => ['[', ']']
  | .array (item :: rest) => '[' :: print item ++ printRest rest ++ [']']
  | .object [] => ['\x7b', '\x7d']
  | .object ((key, value) :: rest) =>
    '\x7b' :: printString key ++ ':' :: print value ++ printMore rest ++ ['\x7d']

def printRest : List Json → List Char
  | [] => []
  | item :: rest => ',' :: print item ++ printRest rest

def printMore : List (CodeText × Json) → List Char
  | [] => []
  | (key, value) :: rest => ',' :: printString key ++ ':' :: print value ++ printMore rest

end

end CmsMarkup.Json
