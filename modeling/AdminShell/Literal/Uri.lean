/-! # URI references

A URI reference splits into an optional scheme (a letter, then letters, digits, `+`, `.`
or `-`, then `:`), an optional authority after `//` up to the next `/`, `?` or `#`, a path
up to the next `?` or `#`, an optional query up to the next `#`, and an optional fragment
after it. The fragment may hold no line feed; every other text splits this way. A literal
is accepted when it has a scheme or a non-empty path.
-/

namespace AdminShell.Literal

def isSchemeChar (c : Char) : Bool :=
  (c.isAlpha || c.isDigit || c == '+' || c == '.' || c == '-')

def splitScheme (cs : List Char) : Option (List Char × List Char) :=
  match cs with
  | c :: r =>
    if c.isAlpha then
      let tail := r.takeWhile isSchemeChar
      match r.drop tail.length with
      | ':' :: rest => some (c :: tail, rest)
      | _ => none
    else none
  | [] => none

/-- The text after an authority: `//` and everything up to `/`, `?` or `#` is dropped. -/
def dropAuthority (cs : List Char) : List Char :=
  match cs with
  | '/' :: '/' :: r => r.dropWhile (fun c => c != '/' && c != '?' && c != '#')
  | _ => cs

def pathOf (cs : List Char) : List Char :=
  cs.takeWhile (fun c => c != '?' && c != '#')

def fragmentOk (cs : List Char) : Bool :=
  match cs.dropWhile (· != '#') with
  | [] => true
  | _ :: frag => !frag.contains '\n'

def hasSchemeOrPath (s : String) : Bool :=
  let cs := s.toList
  fragmentOk cs &&
    match splitScheme cs with
    | some _ => true
    | none => !(pathOf (dropAuthority cs)).isEmpty

end AdminShell.Literal
