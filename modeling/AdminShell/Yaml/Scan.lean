/-! # Scanning YAML texts into tokens

The scanner turns a YAML text into tokens: stream and document markers, the starts and ends
of block and flow collections, entries, keys and values, anchors, aliases, tags and scalars.

Block structure comes from columns: a key or entry further right than the current block
opens a new block (its start token goes in front of the key), and a line further left closes
blocks. A plain or quoted scalar may turn out to be a key; the scanner remembers where such a
*simple key* started, and when `:` follows it on the same line, it puts the key token (and a
block mapping start when needed) in front of the scalar. Tokens are handed out only once no
remembered key in front of them can still change them.

Marks count characters from zero, lines from one and columns from zero; a fault is shown as
`message at byte I line L column C`, the column from one.
-/

namespace AdminShell.Yaml

structure Mark where
  index : Nat
  line : Nat
  column : Nat
  deriving DecidableEq, Repr

structure ScanError where
  mark : Mark
  info : String
  deriving DecidableEq, Repr

def ScanError.render (e : ScanError) : String :=
  e.info ++ " at byte " ++ toString e.mark.index ++ " line " ++ toString e.mark.line ++
    " column " ++ toString (e.mark.column + 1)

inductive ScalarStyle where
  | plain
  | singleQuoted
  | doubleQuoted
  | literal
  | folded
  deriving DecidableEq, Repr

inductive TokenKind where
  | streamStart
  | streamEnd
  | versionDirective (major minor : Nat)
  | tagDirective (handle pfx : String)
  | documentStart
  | documentEnd
  | blockSequenceStart
  | blockMappingStart
  | blockEnd
  | flowSequenceStart
  | flowSequenceEnd
  | flowMappingStart
  | flowMappingEnd
  | blockEntry
  | flowEntry
  | key
  | value
  | alias (name : String)
  | anchor (name : String)
  | tag (handle suffix : String)
  | scalar (style : ScalarStyle) (text : String)
  deriving DecidableEq, Repr

structure Token where
  mark : Mark
  kind : TokenKind
  deriving DecidableEq, Repr

/-- A scalar that may still turn out to be a key: whether it still may, whether it must
(then a line without `:` is a fault), the number of its token, and where it starts. -/
structure SimpleKey where
  possible : Bool
  required : Bool
  tokenNumber : Nat
  mark : Mark
  deriving DecidableEq, Repr

/-- An enclosing indentation, and whether leaving it ends a block. -/
structure Indent where
  column : Int
  needsBlockEnd : Bool
  deriving DecidableEq, Repr

/-- The scanner's state. The lists of simple keys and indents have the innermost first. -/
structure Scanner where
  src : Array Char
  mark : Mark
  tokens : List Token
  streamStartProduced : Bool
  streamEndProduced : Bool
  adjacentValueAllowedAt : Nat
  simpleKeyAllowed : Bool
  simpleKeys : List SimpleKey
  indent : Int
  indents : List Indent
  flowLevel : Nat
  tokensParsed : Nat
  tokenAvailable : Bool
  leadingWhitespace : Bool

def Scanner.start (text : String) : Scanner :=
  { src := text.toList.toArray, mark := ⟨0, 1, 0⟩, tokens := [], streamStartProduced := false,
    streamEndProduced := false, adjacentValueAllowedAt := 0, simpleKeyAllowed := false,
    simpleKeys := [], indent := -1, indents := [], flowLevel := 0, tokensParsed := 0,
    tokenAvailable := false, leadingWhitespace := true }

abbrev Scan := StateT Scanner (Except ScanError)

/-! ## Characters -/

def isBlank (c : Char) : Bool := c == ' ' || c == '\t'

def isBreak (c : Char) : Bool := c == '\n' || c == '\r'

def isEnd (c : Char) : Bool := c == '\x00'

def isBreakOrEnd (c : Char) : Bool := isBreak c || isEnd c

def isBlankOrEnd (c : Char) : Bool := isBlank c || isBreakOrEnd c

def isFlowIndicator (c : Char) : Bool :=
  c == ',' || c == '[' || c == ']' || c == '{' || c == '}'

def isHexDigit (c : Char) : Bool :=
  c.isDigit || ('a' ≤ c && c ≤ 'f') || ('A' ≤ c && c ≤ 'F')

def hexValue (c : Char) : Nat :=
  if c.isDigit then c.toNat - 48 else if 'a' ≤ c && c ≤ 'f' then c.toNat - 87 else c.toNat - 55

def isWordChar (c : Char) : Bool := c.isAlphanum || c == '_' || c == '-'

def isAnchorChar (c : Char) : Bool :=
  !isBlankOrEnd c && !isFlowIndicator c && c.toNat != 0xFEFF

/-! ## Moving -/

def look (k : Nat) : Scan Char := do
  let s ← get
  return s.src.getD (s.mark.index + k) '\x00'

def remaining : Scan Nat := do
  let s ← get
  return s.src.size - s.mark.index + 1

def scanFail {α : Type} (m : Mark) (info : String) : Scan α := throw ⟨m, info⟩

def here : Scan Mark := do return (← get).mark

def skipChar : Scan Unit := modify fun s =>
  let c := s.src.getD s.mark.index '\x00'
  if c == '\n' then
    { s with mark := ⟨s.mark.index + 1, s.mark.line + 1, 0⟩, leadingWhitespace := true }
  else
    { s with mark := ⟨s.mark.index + 1, s.mark.line, s.mark.column + 1⟩,
             leadingWhitespace := s.leadingWhitespace && isBlank c }

def skipChars : Nat → Scan Unit
  | 0 => pure ()
  | n + 1 => do
    skipChar
    skipChars n

def readBreak : Scan Unit := do
  if (← look 0) == '\r' && (← look 1) == '\n' then skipChars 2 else skipChar

def takeWhileChar (p : Char → Bool) : Scan String := do
  let mut acc : List Char := []
  for _ in [0:(← remaining)] do
    let c ← look 0
    if p c then
      acc := c :: acc
      skipChar
    else break
  return String.ofList acc.reverse

def skipComment : Scan Unit := do
  let _ ← takeWhileChar (fun c => !isBreakOrEnd c)

def skipWsToEol (tabs : Bool) : Scan (Bool × Bool) := do
  let mut tab := false
  let mut space := false
  for _ in [0:(← remaining)] do
    let c ← look 0
    if c == ' ' then
      space := true
      skipChar
    else if c == '\t' && tabs then
      tab := true
      skipChar
    else if c == '#' then
      if !tab && !space then
        scanFail (← here) "comments must be separated from other tokens by whitespace"
      skipComment
    else break
  return (tab, space)

def atDocumentIndicator : Scan Bool := do
  let s ← get
  if s.mark.column != 0 then return false
  let a ← look 0
  let b ← look 1
  let c ← look 2
  let d ← look 3
  return ((a == '-' && b == '-' && c == '-') || (a == '.' && b == '.' && c == '.')) &&
    isBlankOrEnd d

/-! ## Keys and indentation -/

def allowSimpleKey : Scan Unit := modify fun s => { s with simpleKeyAllowed := true }

def disallowSimpleKey : Scan Unit := modify fun s => { s with simpleKeyAllowed := false }

def pushToken (m : Mark) (k : TokenKind) : Scan Unit :=
  modify fun s => { s with tokens := s.tokens ++ [⟨m, k⟩] }

def insertToken (place : Nat) (t : Token) : Scan Unit :=
  modify fun s => { s with tokens := s.tokens.take place ++ t :: s.tokens.drop place }

def Scanner.innerNeedsBlockEnd (s : Scanner) : Bool :=
  match s.indents with
  | i :: _ => i.needsBlockEnd
  | [] => false

def staleSimpleKeys : Scan Unit := do
  let s ← get
  let mut keys : List SimpleKey := []
  for sk in s.simpleKeys do
    if sk.possible && s.flowLevel == 0 &&
        (sk.mark.line < s.mark.line || sk.mark.index + 1024 < s.mark.index) then
      if sk.required then scanFail s.mark "simple key expect ':'"
      keys := keys ++ [{ sk with possible := false }]
    else keys := keys ++ [sk]
  set { s with simpleKeys := keys }

def saveSimpleKey : Scan Unit := do
  let s ← get
  if s.simpleKeyAllowed then
    let required := s.flowLevel == 0 && s.indent == (s.mark.column : Int) && s.innerNeedsBlockEnd
    let sk : SimpleKey := ⟨true, required, s.tokensParsed + s.tokens.length, s.mark⟩
    set { s with simpleKeys := sk :: s.simpleKeys.drop 1 }

def removeSimpleKey : Scan Unit := do
  let s ← get
  match s.simpleKeys with
  | top :: rest =>
    if top.possible && top.required then scanFail s.mark "simple key expected"
    set { s with simpleKeys := { top with possible := false } :: rest }
  | [] => pure ()

def unrollFrom (col : Int) (m : Mark) :
    List Indent → Int → List Token → List Indent × Int × List Token
  | [], ind, toks => ([], ind, toks)
  | i :: rest, ind, toks =>
    if col < ind then
      unrollFrom col m rest i.column (if i.needsBlockEnd then toks ++ [⟨m, .blockEnd⟩] else toks)
    else (i :: rest, ind, toks)

def unrollIndent (col : Int) : Scan Unit := modify fun s =>
  if s.flowLevel > 0 then s
  else
    let (indents, indent, tokens) := unrollFrom col s.mark s.indents s.indent s.tokens
    { s with indents := indents, indent := indent, tokens := tokens }

def unrollNonBlockIndents : Scan Unit := modify fun s =>
  let rec go : List Indent → Int → List Indent × Int
    | [], ind => ([], ind)
    | i :: rest, ind => if i.needsBlockEnd then (i :: rest, ind) else go rest i.column
  let (indents, indent) := go s.indents s.indent
  { s with indents := indents, indent := indent }

def rollIndent (col : Nat) (number : Option Nat) (kind : TokenKind) (m : Mark) : Scan Unit := do
  let s ← get
  if s.flowLevel > 0 then return
  let s := if s.indent ≤ (col : Int) then
      match s.indents with
      | i :: rest => if !i.needsBlockEnd then { s with indent := i.column, indents := rest } else s
      | [] => s
    else s
  if s.indent < (col : Int) then
    let s := { s with indents := ⟨s.indent, true⟩ :: s.indents, indent := col }
    let tok : Token := ⟨m, kind⟩
    match number with
    | some n =>
      let place := n - s.tokensParsed
      set { s with tokens := s.tokens.take place ++ tok :: s.tokens.drop place }
    | none => set { s with tokens := s.tokens ++ [tok] }
  else set s

def rollOneColIndent : Scan Unit := modify fun s =>
  if s.flowLevel == 0 && s.innerNeedsBlockEnd then
    { s with indents := ⟨s.indent, false⟩ :: s.indents, indent := s.indent + 1 }
  else s

def increaseFlowLevel : Scan Unit := do
  let s ← get
  if s.flowLevel == 255 then scanFail s.mark "recursion limit exceeded"
  set { s with simpleKeys := ⟨false, false, 0, ⟨0, 0, 0⟩⟩ :: s.simpleKeys,
               flowLevel := s.flowLevel + 1 }

def decreaseFlowLevel : Scan Unit := modify fun s =>
  if s.flowLevel > 0 then { s with flowLevel := s.flowLevel - 1, simpleKeys := s.simpleKeys.drop 1 }
  else s

/-! ## White space between tokens -/

def skipToNextToken : Scan Unit := do
  for _ in [0:(← remaining)] do
    let c ← look 0
    let s ← get
    if c == '\t' && !s.indents.isEmpty && s.leadingWhitespace &&
        (s.mark.column : Int) < s.indent then
      let _ ← skipWsToEol true
      if !isBreakOrEnd (← look 0) then
        scanFail (← here) "tabs disallowed within this context (block indentation)"
    else if isBlank c then skipChar
    else if isBreak c then
      readBreak
      if (← get).flowLevel == 0 then allowSimpleKey
    else if c == '#' then skipComment
    else break

/-! ## Simple tokens -/

def fetchStreamStart : Scan Unit := modify fun s =>
  { s with indent := -1, streamStartProduced := true, simpleKeyAllowed := true,
           tokens := s.tokens ++ [⟨s.mark, .streamStart⟩],
           simpleKeys := [⟨false, false, 0, ⟨0, 0, 0⟩⟩] }

def fetchStreamEnd : Scan Unit := do
  modify fun s =>
    if s.mark.column != 0 then { s with mark := ⟨s.mark.index, s.mark.line + 1, 0⟩ } else s
  let s ← get
  if s.simpleKeys.any (fun sk => sk.required && sk.possible) then
    scanFail s.mark "simple key expected"
  set { s with simpleKeys := s.simpleKeys.map fun (sk : SimpleKey) => { sk with possible := false } }
  unrollIndent (-1)
  removeSimpleKey
  disallowSimpleKey
  pushToken (← here) .streamEnd

def fetchDocumentIndicator (k : TokenKind) : Scan Unit := do
  unrollIndent (-1)
  removeSimpleKey
  disallowSimpleKey
  let m ← here
  skipChars 3
  pushToken m k

def fetchFlowCollectionStart (k : TokenKind) : Scan Unit := do
  saveSimpleKey
  rollOneColIndent
  increaseFlowLevel
  allowSimpleKey
  let m ← here
  skipChar
  let _ ← skipWsToEol true
  pushToken m k

def fetchFlowCollectionEnd (k : TokenKind) : Scan Unit := do
  removeSimpleKey
  decreaseFlowLevel
  disallowSimpleKey
  let m ← here
  skipChar
  let _ ← skipWsToEol true
  modify fun s =>
    if s.flowLevel > 0 then { s with adjacentValueAllowedAt := s.mark.index } else s
  pushToken m k

def fetchFlowEntry : Scan Unit := do
  removeSimpleKey
  allowSimpleKey
  let m ← here
  skipChar
  let _ ← skipWsToEol true
  pushToken m .flowEntry

def fetchBlockEntry : Scan Unit := do
  let s ← get
  if s.flowLevel > 0 then scanFail s.mark "\"-\" is only valid inside a block"
  if !s.simpleKeyAllowed then
    scanFail s.mark "block sequence entries are not allowed in this context"
  let m := s.mark
  skipChar
  rollIndent m.column none .blockSequenceStart m
  let (tabs, _) ← skipWsToEol true
  if tabs && (← look 0) == '-' && isBlankOrEnd (← look 1) then
    scanFail (← here) "'-' must be followed by a valid YAML whitespace"
  let _ ← skipWsToEol false
  let c ← look 0
  if isBreak c || isFlowIndicator c then rollOneColIndent
  removeSimpleKey
  allowSimpleKey
  pushToken (← here) .blockEntry

def fetchKey : Scan Unit := do
  let s ← get
  let m := s.mark
  if s.flowLevel == 0 then
    if !s.simpleKeyAllowed then scanFail m "mapping keys are not allowed in this context"
    rollIndent m.column none .blockMappingStart m
  removeSimpleKey
  if (← get).flowLevel == 0 then allowSimpleKey else disallowSimpleKey
  skipChar
  let _ ← takeWhileChar (· == ' ')
  if (← look 0) == '\t' then scanFail (← here) "tabs disallowed in this context"
  pushToken m .key

def fetchValue : Scan Unit := do
  let s ← get
  let sk := s.simpleKeys.headD ⟨false, false, 0, ⟨0, 0, 0⟩⟩
  let startMark := s.mark
  skipChar
  if (← look 0) == '\t' then
    let (_, space) ← skipWsToEol true
    let c ← look 0
    if !space && (c == '-' || c.isAlpha) then
      scanFail (← here) "':' must be followed by a valid YAML whitespace"
  if sk.possible then
    let parsed := (← get).tokensParsed
    insertToken (sk.tokenNumber - parsed) ⟨sk.mark, .key⟩
    rollIndent sk.mark.column (some sk.tokenNumber) .blockMappingStart startMark
    rollOneColIndent
    modify fun s => { s with simpleKeys := match s.simpleKeys with
      | top :: rest => { top with possible := false } :: rest
      | [] => [] }
    disallowSimpleKey
  else
    if (← get).flowLevel == 0 then
      if !(← get).simpleKeyAllowed then
        scanFail startMark "mapping values are not allowed in this context"
      rollIndent startMark.column none .blockMappingStart startMark
    rollOneColIndent
    if (← get).flowLevel == 0 then allowSimpleKey else disallowSimpleKey
  pushToken startMark .value

def fetchAnchor (isAlias : Bool) : Scan Unit := do
  saveSimpleKey
  disallowSimpleKey
  let m ← here
  skipChar
  let name ← takeWhileChar isAnchorChar
  if name.isEmpty then
    scanFail m
      "while scanning an anchor or alias, did not find expected alphabetic or numeric character"
  pushToken m (if isAlias then .alias name else .anchor name)

def fetchTag : Scan Unit := do
  saveSimpleKey
  disallowSimpleKey
  let m ← here
  let tagChar := fun c => !isBlankOrEnd c && !isFlowIndicator c
  let (handle, suffix) ← if (← look 1) == '<' then do
      skipChars 2
      let body ← takeWhileChar (fun c => c != '>' && !isBlankOrEnd c)
      if (← look 0) != '>' then
        scanFail m "while scanning a verbatim tag, did not find the expected '>'"
      skipChar
      pure ("", body)
    else do
      skipChar
      let word ← takeWhileChar isWordChar
      if (← look 0) == '!' then
        skipChar
        let rest ← takeWhileChar tagChar
        pure ("!" ++ word ++ "!", rest)
      else
        let rest ← takeWhileChar tagChar
        let suffix := word ++ rest
        pure (if suffix.isEmpty then ("", "!") else ("!", suffix))
  let c ← look 0
  if !isBlankOrEnd c && !((← get).flowLevel > 0 && c == ',') then
    scanFail m "while scanning a tag, did not find expected whitespace or line break"
  pushToken m (.tag handle suffix)

def fetchDirective : Scan Unit := do
  unrollIndent (-1)
  removeSimpleKey
  disallowSimpleKey
  let m ← here
  skipChar
  let name ← takeWhileChar isWordChar
  if name.isEmpty then
    scanFail m "while scanning a directive, could not find expected directive name"
  if !isBlankOrEnd (← look 0) then
    scanFail m "while scanning a directive, found unexpected non-alphabetical character"
  let _ ← takeWhileChar isBlank
  let kind ← if name == "YAML" then do
      let major ← takeWhileChar Char.isDigit
      if (← look 0) != '.' || major.isEmpty then
        scanFail m "while scanning a YAML directive, did not find expected digit or '.' character"
      skipChar
      let minor ← takeWhileChar Char.isDigit
      if minor.isEmpty then
        scanFail m "while scanning a YAML directive, did not find expected digit or '.' character"
      pure (TokenKind.versionDirective (major.toNat?.getD 0) (minor.toNat?.getD 0))
    else if name == "TAG" then do
      let handle ← takeWhileChar (fun c => !isBlankOrEnd c)
      let _ ← takeWhileChar isBlank
      let pfx ← takeWhileChar (fun c => !isBlankOrEnd c)
      pure (TokenKind.tagDirective handle pfx)
    else do
      skipComment
      pure (TokenKind.tagDirective "" "")
  let _ ← skipWsToEol true
  if !isBreakOrEnd (← look 0) then
    scanFail m "while scanning a directive, did not find expected comment or line break"
  pushToken m kind

/-! ## Scalars -/

def escapeChar (start : Mark) : Scan Char := do
  let c ← look 1
  let simple : Option Char :=
    if c == '0' then some '\x00' else if c == 'a' then some '\x07'
    else if c == 'b' then some '\x08' else if c == 't' || c == '\t' then some '\t'
    else if c == 'n' then some '\n' else if c == 'v' then some '\x0B'
    else if c == 'f' then some '\x0C' else if c == 'r' then some '\r'
    else if c == 'e' then some '\x1B' else if c == ' ' then some ' '
    else if c == '"' then some '"' else if c == '/' then some '/'
    else if c == '\\' then some '\\' else if c == 'N' then some (Char.ofNat 0x85)
    else if c == '_' then some (Char.ofNat 0xA0) else if c == 'L' then some (Char.ofNat 0x2028)
    else if c == 'P' then some (Char.ofNat 0x2029) else none
  let length := if c == 'x' then 2 else if c == 'u' then 4 else if c == 'U' then 8 else 0
  match simple with
  | some r =>
    skipChars 2
    return r
  | none =>
    if length == 0 then
      scanFail start "while parsing a quoted scalar, found unknown escape character"
    skipChars 2
    let mut value := 0
    for i in [0:length] do
      let h ← look i
      if !isHexDigit h then
        scanFail start "while parsing a quoted scalar, did not find expected hexadecimal number"
      value := 16 * value + hexValue h
    if value < 0x110000 && !(0xD800 ≤ value && value ≤ 0xDFFF) then
      skipChars length
      return Char.ofNat value
    else scanFail start "while parsing a quoted scalar, found invalid Unicode character escape code"

def quotedRun (single : Bool) (start : Mark) (acc : String) : Scan (String × Bool) := do
  let mut out := acc
  let mut joined := false
  for _ in [0:(← remaining)] do
    let c ← look 0
    if isBlankOrEnd c then break
    let n ← look 1
    if single && c == '\'' && n == '\'' then
      out := out.push '\''
      skipChars 2
    else if (single && c == '\'') || (!single && c == '"') then break
    else if !single && c == '\\' && isBreak n then
      skipChar
      readBreak
      joined := true
      break
    else if !single && c == '\\' then
      out := out.push (← escapeChar start)
    else
      out := out.push c
      skipChar
  return (out, joined)

def scanFlowScalar (single : Bool) : Scan Token := do
  let start ← here
  skipChar
  let mut text := ""
  let mut leadingBreak := ""
  let mut trailingBreaks := ""
  let mut whitespaces := ""
  for _ in [0:(← remaining)] do
    let s ← get
    let c0 ← look 0
    let c1 ← look 1
    let c2 ← look 2
    let c3 ← look 3
    if s.mark.column == 0 &&
        ((c0 == '-' && c1 == '-' && c2 == '-') || (c0 == '.' && c1 == '.' && c2 == '.')) &&
        isBlankOrEnd c3 then
      scanFail start "while scanning a quoted scalar, found unexpected document indicator"
    if isEnd c0 then
      scanFail start "while scanning a quoted scalar, found unexpected end of stream"
    if (s.mark.column : Int) < s.indent then
      scanFail start "invalid indentation in quoted scalar"
    let (t, joined) ← quotedRun single start text
    text := t
    let mut leadingBlanks := joined
    let c ← look 0
    if (single && c == '\'') || (!single && c == '"') then break
    for _ in [0:(← remaining)] do
      let c ← look 0
      if isBlank c then
        if leadingBlanks then
          if c == '\t' && ((← get).mark.column : Int) < (← get).indent then
            scanFail (← here) "tab cannot be used as indentation"
          skipChar
        else
          whitespaces := whitespaces.push c
          skipChar
      else if isBreak c then
        if leadingBlanks then
          readBreak
          trailingBreaks := trailingBreaks.push '\n'
        else
          whitespaces := ""
          readBreak
          leadingBreak := leadingBreak.push '\n'
          leadingBlanks := true
      else break
    if leadingBlanks then
      if leadingBreak.isEmpty then
        text := text ++ trailingBreaks
        trailingBreaks := ""
      else
        text := if trailingBreaks.isEmpty then text.push ' ' else text ++ trailingBreaks
        trailingBreaks := ""
        leadingBreak := ""
    else
      text := text ++ whitespaces
      whitespaces := ""
  skipChar
  let _ ← skipWsToEol true
  let c ← look 0
  let s ← get
  let fine := (s.flowLevel > 0 && (c == ',' || c == '}' || c == ']')) || isBreakOrEnd c ||
    (c == ':' && (s.flowLevel > 0 || start.line == s.mark.line))
  if !fine then scanFail s.mark "invalid trailing content after double-quoted scalar"
  return ⟨start, .scalar (if single then .singleQuoted else .doubleQuoted) text⟩

def fetchFlowScalar (single : Bool) : Scan Unit := do
  saveSimpleKey
  disallowSimpleKey
  let tok ← scanFlowScalar single
  skipToNextToken
  modify fun s => { s with adjacentValueAllowedAt := s.mark.index }
  modify fun s => { s with tokens := s.tokens ++ [tok] }

/-- Whether the current character may go on in a plain scalar: `:` before white space (or,
in a flow collection, before a flow indicator) ends it, as does a flow indicator in a flow
collection. -/
def plainContinues : Scan Bool := do
  let c ← look 0
  let n ← look 1
  let flow := (← get).flowLevel > 0
  if c == ':' && (isBlankOrEnd n || (flow && isFlowIndicator n)) then return false
  if flow && isFlowIndicator c then return false
  return true

def scanPlainScalar : Scan Token := do
  unrollNonBlockIndents
  let s ← get
  let indent := s.indent + 1
  let start := s.mark
  if s.flowLevel > 0 && (start.column : Int) < indent then
    scanFail start "invalid indentation in flow construct"
  let mut text := ""
  let mut leadingBreak := ""
  let mut trailingBreaks := ""
  let mut whitespaces := ""
  for _ in [0:(← remaining)] do
    if (← atDocumentIndicator) || (← look 0) == '#' then break
    if (← get).flowLevel > 0 && (← look 0) == '-' && isFlowIndicator (← look 1) then
      scanFail (← here) "plain scalar cannot start with '-' followed by ,[]{}"
    if !isBlankOrEnd (← look 0) && (← plainContinues) then
      if (← get).leadingWhitespace then
        if leadingBreak.isEmpty then
          text := text ++ trailingBreaks
        else
          text := if trailingBreaks.isEmpty then text.push ' ' else text ++ trailingBreaks
        trailingBreaks := ""
        leadingBreak := ""
        modify fun s => { s with leadingWhitespace := false }
      else if !whitespaces.isEmpty then
        text := text ++ whitespaces
        whitespaces := ""
      for _ in [0:(← remaining)] do
        let c ← look 0
        if isBlankOrEnd c then break
        if !(← plainContinues) then break
        text := text.push c
        skipChar
    let c ← look 0
    if !(isBlank c || isBreak c) then break
    for _ in [0:(← remaining)] do
      let c ← look 0
      if isBlank c then
        if !(← get).leadingWhitespace then
          whitespaces := whitespaces.push c
          skipChar
        else if ((← get).mark.column : Int) < indent && c == '\t' then
          let _ ← skipWsToEol true
          if !isBreakOrEnd (← look 0) then
            scanFail start "while scanning a plain scalar, found a tab"
        else skipChar
      else if isBreak c then
        if (← get).leadingWhitespace then
          readBreak
          trailingBreaks := trailingBreaks.push '\n'
        else
          whitespaces := ""
          readBreak
          leadingBreak := leadingBreak.push '\n'
      else break
    if (← get).flowLevel == 0 && ((← get).mark.column : Int) < indent then break
  if (← get).leadingWhitespace then allowSimpleKey
  return ⟨start, .scalar .plain text⟩

def fetchPlainScalar : Scan Unit := do
  saveSimpleKey
  disallowSimpleKey
  let tok ← scanPlainScalar
  modify fun s => { s with tokens := s.tokens ++ [tok] }

def blockScalarIndent (indent : Nat) (breaks : String) : Scan String := do
  let mut out := breaks
  for _ in [0:(← remaining)] do
    for _ in [0:(← remaining)] do
      if ((← get).mark.column < indent) && (← look 0) == ' ' then skipChar else break
    if isBreak (← look 0) then
      readBreak
      out := out.push '\n'
    else break
  return out

def blockScalarFirstIndent (breaks : String) : Scan (Nat × String) := do
  let mut out := breaks
  let mut widest := 0
  for _ in [0:(← remaining)] do
    let _ ← takeWhileChar (· == ' ')
    widest := max widest (← get).mark.column
    if isBreak (← look 0) then
      readBreak
      out := out.push '\n'
    else break
  let s ← get
  let indent := max widest (s.indent + 1).toNat
  return (if s.indent > 0 then max indent 1 else indent, out)

/-- How a block scalar treats its final line breaks. -/
inductive Chomping where
  | strip
  | clip
  | keep
  deriving DecidableEq, Repr

def scanBlockScalar (literal : Bool) : Scan Token := do
  let start ← here
  let style := if literal then ScalarStyle.literal else ScalarStyle.folded
  skipChar
  unrollNonBlockIndents
  let mut chomping := Chomping.clip
  let mut increment := 0
  let c ← look 0
  if c == '+' || c == '-' then
    chomping := if c == '+' then .keep else .strip
    skipChar
    let d ← look 0
    if d.isDigit then
      if d == '0' then
        scanFail start
          "while scanning a block scalar, found an indentation indicator equal to 0"
      increment := d.toNat - 48
      skipChar
  else if c.isDigit then
    if c == '0' then
      scanFail start "while scanning a block scalar, found an indentation indicator equal to 0"
    increment := c.toNat - 48
    skipChar
    let d ← look 0
    if d == '+' || d == '-' then
      chomping := if d == '+' then .keep else .strip
      skipChar
  let _ ← skipWsToEol true
  if !isBreakOrEnd (← look 0) then
    scanFail start "while scanning a block scalar, did not find expected comment or line break"
  let mut chompingBreak := ""
  if isBreak (← look 0) then
    readBreak
    chompingBreak := "\n"
  if (← look 0) == '\t' then
    scanFail start "a block scalar content cannot start with a tab"
  let s ← get
  let mut indent : Nat :=
    if increment > 0 then (if s.indent ≥ 0 then (s.indent + increment).toNat else increment)
    else 0
  let mut trailingBreaks := ""
  if indent == 0 then
    let (i, b) ← blockScalarFirstIndent ""
    indent := i
    trailingBreaks := b
  else
    trailingBreaks ← blockScalarIndent indent ""
  if isEnd (← look 0) then
    let s ← get
    let contents :=
      if chomping == .strip then ""
      else if s.mark.line == start.line then ""
      else if chomping == .clip then chompingBreak
      else if trailingBreaks.isEmpty then chompingBreak
      else trailingBreaks
    return ⟨start, .scalar style contents⟩
  let s ← get
  if s.mark.column < indent && (s.mark.column : Int) > s.indent then
    scanFail s.mark "wrongly indented line in block scalar"
  let mut text := ""
  let mut leadingBreak := ""
  let mut leadingBlank := false
  for _ in [0:(← remaining)] do
    if !((← get).mark.column == indent && !isEnd (← look 0)) then break
    if indent == 0 && (← atDocumentIndicator) then break
    let trailingBlank := isBlank (← look 0)
    if !literal && !leadingBreak.isEmpty && !leadingBlank && !trailingBlank then
      text := text ++ trailingBreaks
      if trailingBreaks.isEmpty then text := text.push ' '
    else
      text := text ++ leadingBreak ++ trailingBreaks
    leadingBreak := ""
    trailingBreaks := ""
    leadingBlank := isBlank (← look 0)
    let line ← takeWhileChar (fun c => !isBreakOrEnd c)
    text := text ++ line
    if isEnd (← look 0) then break
    readBreak
    leadingBreak := "\n"
    trailingBreaks ← blockScalarIndent indent ""
  if chomping != .strip then
    text := text ++ leadingBreak
    if isEnd (← look 0) && (← get).mark.column ≥ max indent 1 then text := text.push '\n'
  if chomping == .keep then text := text ++ trailingBreaks
  return ⟨start, .scalar style text⟩

def fetchBlockScalar (literal : Bool) : Scan Unit := do
  removeSimpleKey
  allowSimpleKey
  let tok ← scanBlockScalar literal
  modify fun s => { s with tokens := s.tokens ++ [tok] }

/-! ## The token stream -/

def fetchNextToken : Scan Unit := do
  let s ← get
  if !s.streamStartProduced then
    fetchStreamStart
    return
  skipToNextToken
  staleSimpleKeys
  unrollIndent ((← get).mark.column : Int)
  let c ← look 0
  let n ← look 1
  let col := (← get).mark.column
  if isEnd c then
    fetchStreamEnd
    return
  if col == 0 && c == '%' then
    fetchDirective
    return
  if col == 0 && c == '-' && n == '-' && (← look 2) == '-' && isBlankOrEnd (← look 3) then
    fetchDocumentIndicator .documentStart
    return
  if col == 0 && c == '.' && n == '.' && (← look 2) == '.' && isBlankOrEnd (← look 3) then
    fetchDocumentIndicator .documentEnd
    let _ ← skipWsToEol true
    if !isBreakOrEnd (← look 0) then
      scanFail (← here) "invalid content after document end marker"
    return
  let s ← get
  if (s.mark.column : Int) < s.indent then scanFail s.mark "invalid indentation"
  if c == '[' then fetchFlowCollectionStart .flowSequenceStart
  else if c == '{' then fetchFlowCollectionStart .flowMappingStart
  else if c == ']' then fetchFlowCollectionEnd .flowSequenceEnd
  else if c == '}' then fetchFlowCollectionEnd .flowMappingEnd
  else if c == ',' then fetchFlowEntry
  else if c == '-' && isBlankOrEnd n then fetchBlockEntry
  else if c == '?' && isBlankOrEnd n then fetchKey
  else if c == ':' && (isBlankOrEnd n || (s.flowLevel > 0 &&
      (isFlowIndicator n || s.mark.index == s.adjacentValueAllowedAt))) then fetchValue
  else if c == '*' then fetchAnchor true
  else if c == '&' then fetchAnchor false
  else if c == '!' then fetchTag
  else if c == '|' && s.flowLevel == 0 then fetchBlockScalar true
  else if c == '>' && s.flowLevel == 0 then fetchBlockScalar false
  else if c == '\'' then fetchFlowScalar true
  else if c == '"' then fetchFlowScalar false
  else if c == '-' && !isBlankOrEnd n then fetchPlainScalar
  else if (c == ':' || c == '?') && !isBlankOrEnd n && s.flowLevel == 0 then fetchPlainScalar
  else if c == '%' || c == '@' || c == '`' then
    scanFail s.mark ("unexpected character: `" ++ String.singleton c ++ "'")
  else fetchPlainScalar

def fetchMoreTokens : Scan Unit := do
  for _ in [0:(← remaining) + 4] do
    let needMore ← if (← get).tokens.isEmpty then pure true else do
      staleSimpleKeys
      let s ← get
      pure (s.simpleKeys.any fun sk => sk.possible && sk.tokenNumber == s.tokensParsed)
    if !needMore then break
    fetchNextToken
  modify fun s => { s with tokenAvailable := true }

def nextToken : Scan (Option Token) := do
  if (← get).streamEndProduced then return none
  if !(← get).tokenAvailable then fetchMoreTokens
  match (← get).tokens with
  | [] => scanFail (← here) "did not find expected next token"
  | t :: rest =>
    modify fun s => { s with tokens := rest, tokenAvailable := false,
                             tokensParsed := s.tokensParsed + 1,
                             streamEndProduced := s.streamEndProduced || t.kind == .streamEnd }
    return some t

end AdminShell.Yaml
