import AdminShell.Toml.Value
import AdminShell.Toml.Strings
import AdminShell.Toml.Numbers

/-! # Reading TOML documents

`Toml.read` turns a text into the entries of its root table, or a fault.

A document is a sequence of lines: blank, a comment, a key and value, or a table header
`[a.b]` or `[[a.b]]`. Keys and values fill the table the last header named, or the root
before the first header. A dotted key `a.b = 1` makes tables on its way.

A table may be named by a header once. A header may name a table that earlier headers only
implied, but not one made by dotted keys; dotted keys may extend tables they made, but not
one a header named. No key may be given twice, and no key may reach into a value that is
not a table. Inline tables `{ … }` are closed: nothing outside them may add to them.
Arrays and inline tables nest at most 79 deep.
-/

namespace AdminShell.Toml

/-- How a table came to be, which decides what may still be added to it. -/
inductive TableKind where
  | explicit
  | implied
  | dotted
  | inline
  | inlineDotted
  deriving DecidableEq, Inhabited

namespace TableKind

def isDotted : TableKind → Bool
  | .dotted | .inlineDotted => true
  | _ => false

def isImplicit : TableKind → Bool
  | .implied | .dotted => true
  | _ => false

def isInline : TableKind → Bool
  | .inline | .inlineDotted => true
  | _ => false

end TableKind

/-- An entry of a table being read: a value, a table, or an array of tables. -/
inductive Item where
  | value (v : Value)
  | table (kind : TableKind) (entries : List (String × Item))
  | tables (items : List (List (String × Item)))
  deriving Inhabited

abbrev Entries := List (String × Item)

mutual
def Item.toValue : Item → Value
  | .value v => v
  | .table _ entries => .table (entriesToValue entries)
  | .tables items => .array (tablesToValue items)

def entriesToValue : Entries → List (String × Value)
  | [] => []
  | (k, i) :: rest => (k, i.toValue) :: entriesToValue rest

def tablesToValue : List Entries → List Value
  | [] => []
  | t :: rest => .table (entriesToValue t) :: tablesToValue rest
end

def Value.typeName : Value → String
  | .string _ => "string"
  | .integer _ => "integer"
  | .float _ => "float"
  | .boolean _ => "boolean"
  | .datetime _ => "datetime"
  | .array _ => "array"
  | .table _ => "inline table"

/-- Why a key cannot be placed. -/
inductive Conflict where
  | duplicate (key : String) (table : Option (List String))
  | extendsValue (path : List String) (typeName : String)

def Conflict.message : Conflict → String
  | .duplicate key none => "duplicate key `" ++ key ++ "`"
  | .duplicate key (some []) => "duplicate key `" ++ key ++ "` in document root"
  | .duplicate key (some path) =>
    "duplicate key `" ++ key ++ "` in table `" ++ ".".intercalate path ++ "`"
  | .extendsValue path typeName =>
    "dotted key `" ++ ".".intercalate path ++ "` attempted to extend non-table type (" ++
      typeName ++ ")"

def entryOf (entries : Entries) (key : String) : Option Item :=
  (entries.find? (·.1 == key)).map Prod.snd

def putEntry (entries : Entries) (key : String) (item : Item) : Entries :=
  if entries.any (·.1 == key) then entries.map (fun e => if e.1 == key then (key, item) else e)
  else entries ++ [(key, item)]

def dropEntry (entries : Entries) (key : String) : Entries := entries.filter (·.1 != key)

def descend {α : Type} (dotted : Bool) (act : TableKind → Entries → Except Conflict (Entries × α)) :
    List String → List String → TableKind → Entries → Except Conflict (Entries × α)
  | _, [], kind, entries => act kind entries
  | done, key :: rest, _, entries =>
    let walked := done ++ [key]
    match entryOf entries key with
    | none => do
      let made := if dotted then TableKind.dotted else TableKind.implied
      let (inner, a) ← descend dotted act walked rest made []
      pure (entries ++ [(key, .table made inner)], a)
    | some (.value v) => throw (.extendsValue walked v.typeName)
    | some (.table k inner) =>
      if k.isInline then throw (.extendsValue walked "inline table")
      else if dotted && !k.isImplicit then throw (.duplicate key none)
      else do
        let (inner', a) ← descend dotted act walked rest k inner
        pure (putEntry entries key (.table k inner'), a)
    | some (.tables items) =>
      match items.getLast? with
      | some last => do
        let (last', a) ← descend dotted act walked rest .explicit last
        pure (putEntry entries key (.tables (items.dropLast ++ [last'])), a)
      | none => throw (.duplicate key none)

def descendInline {α : Type} (act : TableKind → Entries → Except Conflict (Entries × α)) :
    List String → List String → TableKind → Entries → Except Conflict (Entries × α)
  | _, [], kind, entries => act kind entries
  | done, key :: rest, _, entries =>
    let walked := done ++ [key]
    match entryOf entries key with
    | none => do
      let (inner, a) ← descendInline act walked rest .inlineDotted []
      pure (entries ++ [(key, .table .inlineDotted inner)], a)
    | some (.table k inner) => do
      let (inner', a) ← descendInline act walked rest k inner
      pure (putEntry entries key (.table k inner'), a)
    | some (.value v) => throw (.extendsValue walked v.typeName)
    | some (.tables _) => throw (.extendsValue walked "array")

def placeKey (inline : Bool) (kind : TableKind) (entries : Entries) (path : List String)
    (key : String) (item : Item) (named : Option (List String)) : Except Conflict Entries := do
  let act := fun (k : TableKind) (es : Entries) =>
    if k.isDotted == path.isEmpty then Except.error (Conflict.duplicate key none)
    else if es.any (·.1 == key) then .error (.duplicate key named)
    else .ok (es ++ [(key, item)], ())
  let (result, _) ← if inline then descendInline act [] path kind entries
    else descend true act [] path kind entries
  pure result

/-! ## Keys -/

def readSimpleKey (c : Cursor) : Except Fault (Option (String × Cursor)) :=
  match c.rest with
  | '"' :: _ => (readBasic c.advance).map some
  | '\'' :: _ => (readLiteral c.advance).map some
  | _ =>
    let bare := c.rest.takeWhile isBareKeyChar
    if bare.isEmpty then .ok none else .ok (some (String.ofList bare, c.skip bare.length))

def readKeyParts : Nat → Cursor → List String → Except Fault (List String × Cursor)
  | 0, c, acc => .ok (acc, c)
  | fuel + 1, c, acc =>
    match c.rest with
    | '.' :: _ =>
      match readSimpleKey (c.advance.skipWhile isBlank) with
      | .error f => .error (f.within "key")
      | .ok none => .ok (acc, c)
      | .ok (some (k, next)) => readKeyParts fuel (next.skipWhile isBlank) (acc ++ [k])
    | _ => .ok (acc, c)

def readKey (c : Cursor) : Except Fault (List String × Cursor) :=
  let start := c.skipWhile isBlank
  match readSimpleKey start with
  | .error f => .error (f.within "key")
  | .ok none => .error { offset := start.offset, label := some "key", committed := false }
  | .ok (some (k, next)) => readKeyParts (next.rest.length + 1) (next.skipWhile isBlank) [k]

/-! ## Values -/

def nestingLimit : Nat := 80

def stringFault (c : Cursor) (committed : Bool) : Fault :=
  { offset := c.offset, label := some "string", expected := ["`\"`", "`'`"], committed }

def readNumeric (c : Cursor) : Except Fault (Value × Cursor) := do
  match ← readDatetime? c with
  | some (text, next) => pure (.datetime text, next)
  | none =>
    match ← readFloat? c with
    | some (x, next) => pure (.float x, next)
    | none =>
      let (i, next) ← readInteger c
      pure (.integer i, next)

def readWord (c : Cursor) (word : List Char) (value : Value) (committed : Bool) :
    Except Fault (Value × Cursor) :=
  if c.startsWith word then .ok (value, c.skip word.length) else .error (stringFault c committed)

mutual
def readValue : Nat → Nat → Cursor → Except Fault (Item × Cursor)
  | 0, _, c => .error { offset := c.offset }
  | fuel + 1, depth, c =>
    match c.rest with
    | [] => .error { offset := c.offset, committed := false }
    | '"' :: _ | '\'' :: _ => do
      let (s, next) ← readString c
      pure (.value (.string s), next)
    | '[' :: _ =>
      if depth + 1 < nestingLimit then readArray fuel (depth + 1) c.advance
      else .error { offset := c.offset, cause := some "recursion limit exceeded" }
    | '{' :: _ =>
      if depth + 1 < nestingLimit then readInlineTable fuel (depth + 1) c.advance
      else .error { offset := c.offset, cause := some "recursion limit exceeded" }
    | ch :: _ =>
      let value : Except Fault (Value × Cursor) :=
        if ch == '+' || ch == '-' || ch.isDigit then readNumeric c
        else if ch == '_' then
          (readInteger c).map (fun (i, next) => (Value.integer i, next))
            |>.mapError (·.expecting ["leading digit"])
        else if ch == '.' then
          .error { offset := c.offset, label := some floatLabel, expected := ["leading digit"]
                   committed := false }
        else if ch == 't' then readWord c ['t', 'r', 'u', 'e'] (.boolean true) true
        else if ch == 'f' then readWord c ['f', 'a', 'l', 's', 'e'] (.boolean false) true
        else if ch == 'i' then readWord c ['i', 'n', 'f'] (.float Number.Double.infinity) false
        else if ch == 'n' then readWord c ['n', 'a', 'n'] (.float Number.Double.nan) false
        else .error (stringFault c false)
      value.map (fun (v, next) => (.value v, next))

def readArray : Nat → Nat → Cursor → Except Fault (Item × Cursor)
  | 0, _, c => .error { offset := c.offset }
  | fuel + 1, depth, c =>
    if c.startsWith [']'] then .ok (.value (.array []), c.advance)
    else do
      let (items, afterItems) ← readArrayItems fuel depth c []
      let afterComma :=
        if !items.isEmpty && afterItems.startsWith [','] then afterItems.advance else afterItems
      let close := afterComma.skipSpacing
      if close.startsWith [']'] then pure (.value (.array items), close.advance)
      else throw { offset := close.offset, label := some "array", expected := ["`]`"] }

def readArrayItems : Nat → Nat → Cursor → List Value → Except Fault (List Value × Cursor)
  | 0, _, c, acc => .ok (acc, c)
  | fuel + 1, depth, c, acc =>
    let from_ := if acc.isEmpty then c else c.advance
    match readValue fuel depth from_.skipSpacing with
    | .error f => if f.committed then .error f else .ok (acc, c)
    | .ok (item, next) =>
      let after := next.skipSpacing
      let items := acc ++ [item.toValue]
      if after.startsWith [','] then readArrayItems fuel depth after items
      else .ok (items, after)

def readInlineTable : Nat → Nat → Cursor → Except Fault (Item × Cursor)
  | 0, _, c => .error { offset := c.offset }
  | fuel + 1, depth, c => do
    let (pairs, afterPairs) ← readInlinePairs fuel depth c []
    let close := afterPairs.skipWhile isBlank
    let entries ← (pairs.foldlM (fun (es : Entries) (path, key, item) =>
        placeKey true .inline es path key item none) []).mapError
      (fun (conflict : Conflict) => { offset := c.offset, cause := some conflict.message })
    if close.startsWith ['}'] then pure (.table .inline entries, close.advance)
    else throw { offset := close.offset, label := some "inline table", expected := ["`\x7d`"] }

def readInlinePairs : Nat → Nat → Cursor → List (List String × String × Item) →
    Except Fault (List (List String × String × Item) × Cursor)
  | 0, _, c, acc => .ok (acc, c)
  | fuel + 1, depth, c, acc =>
    let from_ := if acc.isEmpty then c else c.advance
    match readKey from_ with
    | .error f => if f.committed then .error f else .ok (acc, c)
    | .ok (keys, afterKey) =>
      if afterKey.startsWith ['='] then
        match readValue fuel depth (afterKey.advance.skipWhile isBlank) with
        | .error f => .error f.commit
        | .ok (item, next) =>
          let after := next.skipWhile isBlank
          let pair := (keys.dropLast, keys.getLastD "", item)
          if after.startsWith [','] then readInlinePairs fuel depth after (acc ++ [pair])
          else .ok (acc ++ [pair], after)
      else .error { offset := afterKey.offset, expected := ["`.`", "`=`"] }
end

/-! ## Documents -/

/-- The reading of a document so far: the document without the table being filled, that
table, its name, and whether it is an element of an array of tables. -/
structure Reading where
  document : Entries := []
  current : Entries := []
  name : List String := []
  isArray : Bool := false

def Reading.finish (r : Reading) : Except Conflict Entries :=
  match r.name.getLast? with
  | none => .ok r.current
  | some key =>
    let parents := r.name.dropLast
    let act := fun (_ : TableKind) (es : Entries) =>
      match entryOf es key, r.isArray with
      | none, true => Except.ok (es ++ [(key, Item.tables [r.current])], ())
      | some (.tables items), true => .ok (putEntry es key (.tables (items ++ [r.current])), ())
      | none, false => .ok (es ++ [(key, .table .explicit r.current)], ())
      | _, _ => .error (Conflict.duplicate key (some parents))
    (descend false act [] parents .explicit r.document).map Prod.fst

def Reading.start (r : Reading) (name : List String) (isArray : Bool) : Except Conflict Reading := do
  let document ← r.finish
  let key := name.getLastD ""
  let parents := name.dropLast
  let act := fun (_ : TableKind) (es : Entries) =>
    match entryOf es key, isArray with
    | none, true => Except.ok (es ++ [(key, Item.tables [])], [])
    | some (.tables _), true => .ok (es, [])
    | none, false => .ok (es, [])
    | some (.table .implied inner), false => .ok (dropEntry es key, inner)
    | _, _ => .error (Conflict.duplicate key (some parents))
  let (document', current) ← descend false act [] parents .explicit document
  pure { document := document', current, name, isArray }

def lineEnd? (c : Cursor) : Option Cursor :=
  let afterBlank := c.skipWhile isBlank
  let afterComment :=
    if afterBlank.startsWith ['#'] then afterBlank.advance.skipWhile isCommentChar else afterBlank
  match afterComment.rest with
  | [] => some afterComment
  | _ => newline? afterComment

def lineEndFault (c : Cursor) : Fault :=
  let afterBlank := c.skipWhile isBlank
  let afterComment :=
    if afterBlank.startsWith ['#'] then afterBlank.advance.skipWhile isCommentChar else afterBlank
  { offset := afterComment.offset, expected := ["newline", "`#`"] }

def readHeader (r : Reading) (c : Cursor) : Except Fault (Reading × Cursor) := do
  let label := "table header"
  if c.rest.length < 2 then throw (c.fault label)
  let isArray := c.startsWith ['[', '[']
  let (name, afterKey) ← (readKey (c.skip (if isArray then 2 else 1))).mapError
    (fun f => (f.within label).commit)
  let closer := if isArray then [']', ']'] else [']']
  if !afterKey.startsWith closer then
    throw { offset := afterKey.offset, label := some label
            expected := ["`.`", "`" ++ String.ofList closer ++ "`"] }
  let afterClose := afterKey.skip closer.length
  match lineEnd? afterClose with
  | none => throw ((lineEndFault afterClose).within label)
  | some next =>
    match r.start name isArray with
    | .ok r' => pure (r', next)
    | .error conflict => throw { offset := c.offset, label := some label, cause := some conflict.message }

def readKeyValue (r : Reading) (c : Cursor) : Except Fault (Reading × Cursor) := do
  let (keys, afterKey) ← (readKey c).mapError Fault.commit
  if !afterKey.startsWith ['='] then
    throw { offset := afterKey.offset, expected := ["`.`", "`=`"] }
  let (item, afterValue) ← (readValue (3 * afterKey.rest.length + 3) 0
    (afterKey.advance.skipWhile isBlank)).mapError Fault.commit
  match lineEnd? afterValue with
  | none => throw (lineEndFault afterValue)
  | some next =>
    match placeKey false .explicit r.current keys.dropLast (keys.getLastD "") item (some r.name) with
    | .ok current => pure ({ r with current }, next)
    | .error conflict => throw { offset := c.offset, cause := some conflict.message }

def readLines : Nat → Reading → Cursor → Except Fault Reading
  | 0, r, _ => .ok r
  | fuel + 1, r, c =>
    match c.rest with
    | [] => .ok r
    | '#' :: _ =>
      let afterComment := c.advance.skipWhile isCommentChar
      match afterComment.rest, newline? afterComment with
      | [], _ => .ok r
      | _, some next => readLines fuel r (next.skipWhile isBlank)
      | _, none => .error { offset := afterComment.offset }
    | '\n' :: _ => readLines fuel r (c.advance.skipWhile isBlank)
    | '\r' :: _ =>
      match newline? c with
      | some next => readLines fuel r (next.skipWhile isBlank)
      | none => .error { offset := c.offset }
    | '[' :: _ =>
      match readHeader r c with
      | .ok (r', next) => readLines fuel r' (next.skipWhile isBlank)
      | .error f => .error f
    | _ =>
      match readKeyValue r c with
      | .ok (r', next) => readLines fuel r' (next.skipWhile isBlank)
      | .error f => .error f

/-- Why a text is not a TOML document: a fault at a place, or a conflict found once the
whole text was read. -/
inductive ReadError where
  | fault (f : Fault)
  | conflict (c : Conflict)

def ReadError.render (e : ReadError) (text : String) : String :=
  match e with
  | .fault f => f.render text
  | .conflict c => c.message ++ "\n"

def read (text : String) : Except ReadError (List (String × Value)) :=
  let c := Cursor.start text
  let start := if c.startsWith ['\uFEFF'] then c.advance else c
  match readLines (text.length + 1) {} (start.skipWhile isBlank) with
  | .error f => .error (.fault f)
  | .ok r =>
    match r.finish with
    | .ok entries => .ok (entriesToValue entries)
    | .error conflict => .error (.conflict conflict)

end AdminShell.Toml
