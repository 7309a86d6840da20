import AdminShell.Yaml.Scan

/-! # Parsing YAML tokens into events

The parser reads the scanner's tokens and tells the structure of each document as events:
the start and end of the stream, of each document, of each sequence and mapping, and each
scalar and alias. It is a state machine with a stack of states to come back to; a mapping
or sequence entry with nothing written gives an empty scalar `~`, and a node that is only an
anchor or a tag gives the empty text.

Anchors are numbered from one across the stream and looked up by name within a document; an
alias to a name not yet anchored is a fault. A tag's handle is resolved: `!!` stands for
`tag:yaml.org,2002:` unless a directive says otherwise.
-/

namespace AdminShell.Yaml

/-- A resolved tag: what its handle stands for, and its suffix. -/
structure Tag where
  handle : String
  suffix : String
  deriving DecidableEq, Repr

/-- What the parser tells. Anchors are numbers, zero for none. -/
inductive Event where
  | streamStart
  | streamEnd
  | documentStart
  | documentEnd
  | alias (id : Nat)
  | scalar (text : String) (style : ScalarStyle) (anchor : Nat) (tag : Option Tag)
  | sequenceStart (anchor : Nat) (tag : Option Tag)
  | sequenceEnd
  | mappingStart (anchor : Nat) (tag : Option Tag)
  | mappingEnd
  deriving DecidableEq, Repr

/-- Where the parser stands in the grammar. -/
inductive State where
  | streamStart
  | implicitDocumentStart
  | documentStart
  | documentContent
  | documentEnd
  | blockNode
  | blockMappingFirstKey
  | blockMappingKey
  | blockMappingValue
  | blockSequenceFirstEntry
  | blockSequenceEntry
  | flowSequenceFirstEntry
  | flowSequenceEntry
  | flowMappingFirstKey
  | flowMappingKey
  | flowMappingValue
  | indentlessSequenceEntry
  | flowSequenceEntryMappingKey
  | flowSequenceEntryMappingValue
  | flowSequenceEntryMappingEnd
  | flowMappingEmptyValue
  | finished
  deriving DecidableEq, Repr

/-- The parser's state: the scanner, the token looked at, the states to come back to, the
anchors of the document, the next anchor number, and the tag directives. -/
structure Parser where
  scanner : Scanner
  token : Option Token
  states : List State
  state : State
  anchors : List (String × Nat)
  anchorId : Nat
  tags : List (String × String)

def Parser.start (text : String) : Parser :=
  ⟨Scanner.start text, none, [], .streamStart, [], 1, []⟩

abbrev ParseM := StateT Parser (Except ScanError)

def parseFail {α : Type} (m : Mark) (info : String) : ParseM α := throw ⟨m, info⟩

def peekToken : ParseM Token := do
  let p ← get
  match p.token with
  | some t => return t
  | none =>
    match nextToken.run p.scanner with
    | .ok (some t, sc) =>
      set { p with scanner := sc, token := some t }
      return t
    | .ok (none, sc) => parseFail sc.mark "unexpected eof"
    | .error e => throw e

def skipToken : ParseM Unit := modify fun p => { p with token := none }

def takeToken : ParseM Token := do
  let t ← peekToken
  skipToken
  return t

def goTo (s : State) : ParseM Unit := modify fun p => { p with state := s }

def pushState (s : State) : ParseM Unit := modify fun p => { p with states := s :: p.states }

def popState : ParseM Unit := modify fun p =>
  match p.states with
  | s :: rest => { p with state := s, states := rest }
  | [] => p

def emptyScalar : Event := .scalar "~" .plain 0 none

def registerAnchor (name : String) : ParseM Nat := do
  let p ← get
  set { p with anchorId := p.anchorId + 1, anchors := (name, p.anchorId) :: p.anchors }
  return p.anchorId

def resolveTag (m : Mark) (handle suffix : String) : ParseM Tag := do
  let tags := (← get).tags
  let find := fun (h : String) => (tags.find? (·.1 == h)).map Prod.snd
  if handle == "!!" then
    return ⟨(find "!!").getD "tag:yaml.org,2002:", suffix⟩
  else if handle.isEmpty && suffix == "!" then
    return ⟨(find "").getD "", suffix⟩
  else
    match find handle with
    | some pfx => return ⟨pfx, suffix⟩
    | none =>
      if handle.length ≥ 2 && handle.startsWith "!" && handle.endsWith "!" then
        parseFail m "the handle wasn't declared"
      else return ⟨handle, suffix⟩

def processDirectives : ParseM Unit := do
  let mut version := false
  for _ in [0:(← get).scanner.src.size + 2] do
    let t ← peekToken
    match t.kind with
    | .versionDirective _ _ =>
      if version then parseFail t.mark "duplicate version directive"
      version := true
      modify fun p => { p with tags := [] }
    | .tagDirective handle pfx =>
      modify fun p => { p with tags := [(handle, pfx)] }
    | _ => break
    skipToken

def parseNode (block indentlessSequence : Bool) : ParseM Event := do
  let mut anchor := 0
  let mut tag : Option Tag := none
  let t ← peekToken
  match t.kind with
  | .alias name =>
    popState
    skipToken
    match (← get).anchors.find? (·.1 == name) with
    | some (_, id) => return .alias id
    | none => parseFail t.mark "while parsing node, found unknown anchor"
  | .anchor name =>
    skipToken
    anchor ← registerAnchor name
    let u ← peekToken
    if let .tag handle suffix := u.kind then
      skipToken
      tag := some (← resolveTag t.mark handle suffix)
  | .tag handle suffix =>
    skipToken
    tag := some (← resolveTag t.mark handle suffix)
    let u ← peekToken
    if let .anchor name := u.kind then
      skipToken
      anchor ← registerAnchor name
  | _ => pure ()
  let t ← peekToken
  match t.kind with
  | .blockEntry =>
    if indentlessSequence then
      goTo .indentlessSequenceEntry
      return .sequenceStart anchor tag
  | .scalar style text =>
    popState
    skipToken
    return .scalar text style anchor tag
  | .flowSequenceStart =>
    goTo .flowSequenceFirstEntry
    return .sequenceStart anchor tag
  | .flowMappingStart =>
    goTo .flowMappingFirstKey
    return .mappingStart anchor tag
  | .blockSequenceStart =>
    if block then
      goTo .blockSequenceFirstEntry
      return .sequenceStart anchor tag
  | .blockMappingStart =>
    if block then
      goTo .blockMappingFirstKey
      return .mappingStart anchor tag
  | _ => pure ()
  if tag.isSome || anchor > 0 then
    popState
    return .scalar "" .plain anchor tag
  parseFail t.mark "while parsing a node, did not find expected node content"

def documentStart (isImplicit : Bool) : ParseM Event := do
  for _ in [0:(← get).scanner.src.size + 2] do
    if (← peekToken).kind == .documentEnd then skipToken else break
  let t ← peekToken
  match t.kind with
  | .streamEnd =>
    goTo .finished
    skipToken
    return .streamEnd
  | .versionDirective _ _ | .tagDirective _ _ | .documentStart => pure ()
  | _ =>
    if isImplicit then
      processDirectives
      pushState .documentEnd
      goTo .blockNode
      return .documentStart
  processDirectives
  let t ← peekToken
  if t.kind == .documentStart then
    pushState .documentEnd
    goTo .documentContent
    skipToken
    return .documentStart
  parseFail t.mark "did not find expected <document start>"

def documentContent : ParseM Event := do
  let t ← peekToken
  match t.kind with
  | .versionDirective _ _ | .tagDirective _ _ | .documentStart | .documentEnd | .streamEnd =>
    popState
    return emptyScalar
  | _ => parseNode true false

def documentEnd : ParseM Event := do
  let t ← peekToken
  modify fun p => { p with tags := [] }
  if t.kind == .documentEnd then
    skipToken
    goTo .implicitDocumentStart
  else
    match t.kind with
    | .versionDirective _ _ | .tagDirective _ _ =>
      parseFail t.mark "missing explicit document end marker before directive"
    | _ => goTo .documentStart
  return .documentEnd

def blockMappingKey (first : Bool) : ParseM Event := do
  if first then
    let _ ← peekToken
    skipToken
  let t ← peekToken
  match t.kind with
  | .key =>
    skipToken
    let u ← peekToken
    match u.kind with
    | .key | .value | .blockEnd =>
      goTo .blockMappingValue
      return emptyScalar
    | _ =>
      pushState .blockMappingValue
      parseNode true true
  | .value =>
    goTo .blockMappingValue
    return emptyScalar
  | .blockEnd =>
    popState
    skipToken
    return .mappingEnd
  | _ => parseFail t.mark "while parsing a block mapping, did not find expected key"

def blockMappingValue : ParseM Event := do
  let t ← peekToken
  match t.kind with
  | .value =>
    skipToken
    let u ← peekToken
    match u.kind with
    | .key | .value | .blockEnd =>
      goTo .blockMappingKey
      return emptyScalar
    | _ =>
      pushState .blockMappingKey
      parseNode true true
  | _ =>
    goTo .blockMappingKey
    return emptyScalar

def blockSequenceEntry (first : Bool) : ParseM Event := do
  if first then
    let _ ← peekToken
    skipToken
  let t ← peekToken
  match t.kind with
  | .blockEnd =>
    popState
    skipToken
    return .sequenceEnd
  | .blockEntry =>
    skipToken
    let u ← peekToken
    match u.kind with
    | .blockEntry | .blockEnd =>
      goTo .blockSequenceEntry
      return emptyScalar
    | _ =>
      pushState .blockSequenceEntry
      parseNode true false
  | _ => parseFail t.mark "while parsing a block collection, did not find expected '-' indicator"

def indentlessSequenceEntry : ParseM Event := do
  let t ← peekToken
  if t.kind != .blockEntry then
    popState
    return .sequenceEnd
  skipToken
  let u ← peekToken
  match u.kind with
  | .blockEntry | .key | .value | .blockEnd =>
    goTo .indentlessSequenceEntry
    return emptyScalar
  | _ =>
    pushState .indentlessSequenceEntry
    parseNode true false

def flowSequenceEntry (first : Bool) : ParseM Event := do
  if first then
    let _ ← peekToken
    skipToken
  let t ← peekToken
  match t.kind with
  | .flowSequenceEnd =>
    popState
    skipToken
    return .sequenceEnd
  | .flowEntry =>
    if !first then skipToken
  | _ =>
    if !first then
      parseFail t.mark "while parsing a flow sequence, expected ',' or ']'"
  let t ← peekToken
  match t.kind with
  | .flowSequenceEnd =>
    popState
    skipToken
    return .sequenceEnd
  | .key =>
    goTo .flowSequenceEntryMappingKey
    skipToken
    return .mappingStart 0 none
  | _ =>
    pushState .flowSequenceEntry
    parseNode false false

def flowSequenceEntryMappingKey : ParseM Event := do
  let t ← peekToken
  match t.kind with
  | .value | .flowEntry | .flowSequenceEnd =>
    goTo .flowSequenceEntryMappingValue
    return emptyScalar
  | _ =>
    pushState .flowSequenceEntryMappingValue
    parseNode false false

def flowSequenceEntryMappingValue : ParseM Event := do
  let t ← peekToken
  match t.kind with
  | .value =>
    skipToken
    let u ← peekToken
    match u.kind with
    | .flowEntry | .flowSequenceEnd =>
      goTo .flowSequenceEntryMappingEnd
      return emptyScalar
    | _ =>
      pushState .flowSequenceEntryMappingEnd
      parseNode false false
  | _ =>
    goTo .flowSequenceEntryMappingEnd
    return emptyScalar

def flowSequenceEntryMappingEnd : ParseM Event := do
  goTo .flowSequenceEntry
  return .mappingEnd

def flowMappingKey (first : Bool) : ParseM Event := do
  if first then
    let _ ← peekToken
    skipToken
  let t ← peekToken
  if t.kind != .flowMappingEnd then
    if !first then
      if t.kind == .flowEntry then skipToken
      else parseFail t.mark "while parsing a flow mapping, did not find expected ',' or '\x7d'"
    let u ← peekToken
    match u.kind with
    | .key =>
      skipToken
      let v ← peekToken
      match v.kind with
      | .value | .flowEntry | .flowMappingEnd =>
        goTo .flowMappingValue
        return emptyScalar
      | _ =>
        pushState .flowMappingValue
        return ← parseNode false false
    | .value =>
      goTo .flowMappingValue
      return emptyScalar
    | .flowMappingEnd => pure ()
    | _ =>
      pushState .flowMappingEmptyValue
      return ← parseNode false false
  popState
  skipToken
  return .mappingEnd

def flowMappingValue (empty : Bool) : ParseM Event := do
  if empty then
    let _ ← peekToken
    goTo .flowMappingKey
    return emptyScalar
  let t ← peekToken
  if t.kind == .value then
    skipToken
    let u ← peekToken
    match u.kind with
    | .flowEntry | .flowMappingEnd => pure ()
    | _ =>
      pushState .flowMappingKey
      return ← parseNode false false
  goTo .flowMappingKey
  return emptyScalar

def nextEvent : ParseM Event := do
  match (← get).state with
  | .streamStart =>
    let t ← peekToken
    if t.kind == .streamStart then
      goTo .implicitDocumentStart
      skipToken
      return .streamStart
    parseFail t.mark "did not find expected <stream-start>"
  | .implicitDocumentStart => documentStart true
  | .documentStart => documentStart false
  | .documentContent => documentContent
  | .documentEnd => documentEnd
  | .blockNode => parseNode true false
  | .blockMappingFirstKey => blockMappingKey true
  | .blockMappingKey => blockMappingKey false
  | .blockMappingValue => blockMappingValue
  | .blockSequenceFirstEntry => blockSequenceEntry true
  | .blockSequenceEntry => blockSequenceEntry false
  | .flowSequenceFirstEntry => flowSequenceEntry true
  | .flowSequenceEntry => flowSequenceEntry false
  | .flowMappingFirstKey => flowMappingKey true
  | .flowMappingKey => flowMappingKey false
  | .flowMappingValue => flowMappingValue false
  | .indentlessSequenceEntry => indentlessSequenceEntry
  | .flowSequenceEntryMappingKey => flowSequenceEntryMappingKey
  | .flowSequenceEntryMappingValue => flowSequenceEntryMappingValue
  | .flowSequenceEntryMappingEnd => flowSequenceEntryMappingEnd
  | .flowMappingEmptyValue => flowMappingValue true
  | .finished => return .streamEnd

/-- The events of a text up to the end of the stream, `fuel` of them at most. Anchors are
forgotten at the start of each document. -/
def eventsFor : Nat → List Event → ParseM (List Event)
  | 0, acc => return acc.reverse
  | fuel + 1, acc => do
    let e ← nextEvent
    if e == .documentStart then modify fun p => { p with anchors := [] }
    if e == .streamEnd then return (e :: acc).reverse
    eventsFor fuel (e :: acc)

def events (text : String) : Except ScanError (List Event) :=
  let p := Parser.start text
  (eventsFor (8 * (p.scanner.src.size + 8)) [] |>.run p).map Prod.fst

end AdminShell.Yaml
