import AdminShell.Text.Printable

/-! # Quoted text for messages

Messages that show a piece of text quote it: the text stands between double quotes (a
single character, between single quotes), and within them that quote, a backslash, NUL,
tab, carriage return and line feed are written with a backslash (`\"`, `\\`, `\0`, `\t`,
`\r`, `\n`). A character that extends the grapheme before it, or that is not printable
(`Text.isPrintable`), is written as `\u{hex}` with lower-case hex digits and no padding.
Every other character is written as it is.
-/

namespace AdminShell.Text

def hexDigits (n : Nat) : List Char :=
  Nat.toDigits 16 n

/-- One character inside text quoted by `quote`: the quote itself is escaped. -/
def escapeWithin (quote : Char) (c : Char) : List Char :=
  if c = quote then ['\\', quote]
  else if c = '\\' then ['\\', '\\']
  else if c.toNat = 0 then ['\\', '0']
  else if c = '\t' then ['\\', 't']
  else if c = '\r' then ['\\', 'r']
  else if c = '\n' then ['\\', 'n']
  else if isGraphemeExtend c || !isPrintable c then
    ['\\', 'u', '{'] ++ hexDigits c.toNat ++ ['}']
  else [c]

def quoteChar (c : Char) : List Char := escapeWithin '"' c

def quoted (s : String) : String :=
  String.ofList ('"' :: (s.toList.flatMap quoteChar ++ ['"']))

def quotedChar (c : Char) : String :=
  String.ofList ('\'' :: (escapeWithin '\'' c ++ ['\'']))

def quotedOption (s : Option String) : String :=
  match s with
  | some v => "Some(" ++ quoted v ++ ")"
  | none => "None"

end AdminShell.Text
