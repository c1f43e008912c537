import BenchCharts.Yaml.BlockScalar
import BenchCharts.Yaml.Tag

/-!
The tokens of a markup text. Block collections have no brackets: they start at the column of their
first entry and end where a later line starts to the left of it. A key is recognized only by the
colon after it, so each place where one may start is remembered until the colon comes, its line
ends, or it has grown too long; the tokens of the key are then put in front of it. Where the text
cannot be read on, only the tokens that no open key could still change are given out.
-/
namespace BenchCharts.Yaml

inductive ScalarStyle
  | plain
  | singleQuoted
  | doubleQuoted
  | literal
  | folded
  deriving DecidableEq, Repr

inductive Token
  | directive (d : Directive)
  | documentStart
  | documentEnd
  | sequenceStart
  | mappingStart
  | blockEnd
  | flowSequenceStart
  | flowSequenceEnd
  | flowMappingStart
  | flowMappingEnd
  | blockEntry
  | flowEntry
  | key
  | value
  | alias (name : String)
  | anchor (name : String)
  | tag (t : Tag)
  | scalar (style : ScalarStyle) (text : String)
  | streamEnd
  deriving DecidableEq, Repr

/-- A place in a text. -/
structure Cursor where
  rest : List Char
  index : Nat
  line : Nat
  column : Nat
  deriving Repr

namespace Cursor

def advance : Nat → Cursor → Cursor
  | 0, c => c
  | n + 1, c =>
      match c.rest with
      | [] => c
      | x :: rest =>
          if isBreak x then advance n ⟨rest, c.index + 1, c.line + 1, 0⟩
          else advance n ⟨rest, c.index + 1, c.line, c.column + 1⟩

/-- Goes on to a later rest of the same text. -/
def moveTo (c : Cursor) (rest : List Char) : Cursor := c.advance (c.rest.length - rest.length)

end Cursor

/-- A place where a key may have started. -/
structure PendingKey where
  /-- How many tokens come before the key. -/
  number : Nat
  /-- Nothing but a key can start here. -/
  required : Bool
  index : Nat
  line : Nat
  column : Nat
  deriving Repr

/-- No key is longer than this, from its start to the colon. -/
def keyLimit : Nat := 1024

structure TokenScan where
  cursor : Cursor
  /-- Columns of the open block collections, innermost first. -/
  indents : List Int
  keyAllowed : Bool
  /-- The open key of each open flow collection, and last that of the blocks around them. -/
  keys : List (Option PendingKey)
  /-- Latest first. -/
  tokens : List Token
  count : Nat
  finished : Bool
  deriving Repr

namespace TokenScan

def start (cs : List Char) : TokenScan :=
  { cursor := ⟨cs, 0, 0, 0⟩, indents := [], keyAllowed := true, keys := [none], tokens := [],
    count := 0, finished := false }

def flowDepth (s : TokenScan) : Nat := s.keys.length - 1

def inFlow (s : TokenScan) : Bool := 0 < s.flowDepth

/-- The column of the innermost block collection, or -1. -/
def indent (s : TokenScan) : Int := s.indents.headD (-1)

def push (s : TokenScan) (t : Token) : TokenScan :=
  { s with tokens := t :: s.tokens, count := s.count + 1 }

def insertBehind : Nat → Token → List Token → List Token
  | 0, t, tokens => t :: tokens
  | _ + 1, t, [] => [t]
  | n + 1, t, u :: tokens => u :: insertBehind n t tokens

/-- Puts a token behind the first `number` ones. -/
def insert (s : TokenScan) (number : Nat) (t : Token) : TokenScan :=
  { s with tokens := insertBehind (s.count - number) t s.tokens, count := s.count + 1 }

def moveTo (s : TokenScan) (rest : List Char) : TokenScan :=
  { s with cursor := s.cursor.moveTo rest }

def skip (s : TokenScan) (n : Nat) : TokenScan := { s with cursor := s.cursor.advance n }

/-- A key that came to its end by a line break or by its length is none; where only a key could
start, that is an error. -/
def expireKey (c : Cursor) : Option PendingKey → Option (Option PendingKey)
  | some k =>
      if k.line < c.line ∨ k.index + keyLimit < c.index then
        if k.required then none else some none
      else some (some k)
  | none => some none

def expireKeys (s : TokenScan) : Option TokenScan :=
  (s.keys.mapM (expireKey s.cursor)).map fun keys => { s with keys }

def currentKey (s : TokenScan) : Option PendingKey := s.keys.head?.join

def setKey (s : TokenScan) (k : Option PendingKey) : TokenScan :=
  { s with keys := k :: s.keys.drop 1 }

def removeKey (s : TokenScan) : Option TokenScan :=
  if s.currentKey.any (·.required) then none else some (s.setKey none)

/-- Remembers that a key may start here. -/
def saveKey (s : TokenScan) : Option TokenScan :=
  if s.keyAllowed then do
    let required := !s.inFlow && s.indent = s.cursor.column
    let s ← s.removeKey
    return s.setKey (some ⟨s.count, required, s.cursor.index, s.cursor.line, s.cursor.column⟩)
  else some s

/-- Opens a block collection if the column lies to the right of the current one. -/
def openBlock (s : TokenScan) (column : Nat) (number : Nat) (t : Token) : TokenScan :=
  if !s.inFlow && s.indent < column then
    { s.insert number t with indents := (column : Int) :: s.indents }
  else s

/-- Ends the block collections whose column lies to the right. -/
def closeBlocks (s : TokenScan) (column : Int) : TokenScan :=
  if s.inFlow then s
  else
    let closing := s.indents.takeWhile fun i => column < i
    { s with
      indents := s.indents.drop closing.length
      tokens := List.replicate closing.length .blockEnd ++ s.tokens
      count := s.count + closing.length }

/-- How many characters stand before the next token, and whether a line break is among them. Tabs
count as blanks where no key can start. -/
def blanksBefore (tabs inComment broken : Bool) (inFlow : Bool) (n : Nat) :
    List Char → Nat × Bool
  | [] => (n, broken)
  | c :: rest =>
      if isBreak c then blanksBefore (tabs && inFlow) false true inFlow (n + 1) rest
      else if inComment then blanksBefore tabs true broken inFlow (n + 1) rest
      else if c = ' ' || (tabs && c = '\t') then blanksBefore tabs false broken inFlow (n + 1) rest
      else if c = '#' then blanksBefore tabs true broken inFlow (n + 1) rest
      else (n, broken)

/-- Moves on to the next token. A byte order mark at the very start is passed over. -/
def toNextToken (s : TokenScan) : TokenScan :=
  let s := if s.cursor.index = 0 ∧ s.cursor.rest.head? = some '\ufeff' then s.skip 1 else s
  let (n, broken) :=
    blanksBefore (s.inFlow || !s.keyAllowed) false false s.inFlow 0 s.cursor.rest
  { s.skip n with keyAllowed := s.keyAllowed || (broken && !s.inFlow) }

def streamEnd (s : TokenScan) : Option TokenScan := do
  let c := s.cursor
  let s := if c.column = 0 then s
    else { s with cursor := { c with line := c.line + 1, column := 0 } }
  let s ← (s.closeBlocks (-1)).removeKey
  return { s.push .streamEnd with keyAllowed := false, finished := true }

def directiveToken (s : TokenScan) : Option TokenScan := do
  let s ← (s.closeBlocks (-1)).removeKey
  let (d, rest) ← directive (s.cursor.rest.drop 1)
  return { (s.moveTo rest).push (.directive d) with keyAllowed := false }

def documentMark (s : TokenScan) (t : Token) : Option TokenScan := do
  let s ← (s.closeBlocks (-1)).removeKey
  return { (s.skip 3).push t with keyAllowed := false }

def openFlow (s : TokenScan) (t : Token) : Option TokenScan := do
  let s ← s.saveKey
  return { (s.skip 1).push t with keys := none :: s.keys, keyAllowed := true }

def closeFlow (s : TokenScan) (t : Token) : Option TokenScan := do
  let s ← s.removeKey
  let keys := if s.inFlow then s.keys.drop 1 else s.keys
  return { (s.skip 1).push t with keys, keyAllowed := false }

def flowEntry (s : TokenScan) : Option TokenScan := do
  let s ← s.removeKey
  return { (s.skip 1).push .flowEntry with keyAllowed := true }

def blockEntry (s : TokenScan) : Option TokenScan :=
  if !s.inFlow && !s.keyAllowed then none
  else do
    let s ← (s.openBlock s.cursor.column s.count .sequenceStart).removeKey
    return { (s.skip 1).push .blockEntry with keyAllowed := true }

def keyMark (s : TokenScan) : Option TokenScan :=
  if !s.inFlow && !s.keyAllowed then none
  else do
    let s ← (s.openBlock s.cursor.column s.count .mappingStart).removeKey
    return { (s.skip 1).push .key with keyAllowed := !s.inFlow }

def valueMark (s : TokenScan) : Option TokenScan :=
  match s.currentKey with
  | some k =>
      let s := (s.insert k.number .key).openBlock k.column k.number .mappingStart
      some { ((s.setKey none).skip 1).push .value with keyAllowed := false }
  | none =>
      if !s.inFlow && !s.keyAllowed then none
      else
        let s := s.openBlock s.cursor.column s.count .mappingStart
        some { (s.skip 1).push .value with keyAllowed := !s.inFlow }

/-- Indicators that may follow the name of an anchor directly. -/
private def endsName (cs : List Char) : Bool :=
  atWordEnd cs || cs.head?.any fun c => ['?', ':', ',', ']', '\x7d', '%', '@', '\x60'].contains c

def named (s : TokenScan) (token : String → Token) : Option TokenScan := do
  let s ← s.saveKey
  let name := (s.cursor.rest.drop 1).takeWhile isNameChar
  let rest := (s.cursor.rest.drop 1).dropWhile isNameChar
  if name.isEmpty || !endsName rest then none
  else return { (s.moveTo rest).push (token (String.ofList name)) with keyAllowed := false }

def tagToken (s : TokenScan) : Option TokenScan := do
  let s ← s.saveKey
  let (t, rest) ← Yaml.tag s.inFlow s.cursor.rest
  return { (s.moveTo rest).push (.tag t) with keyAllowed := false }

def blockScalarToken (s : TokenScan) (style : ScalarStyle) : Option TokenScan := do
  let s ← s.removeKey
  let (text, rest) ← blockScalar (style = .folded) s.indent (s.cursor.rest.drop 1)
  return { (s.moveTo rest).push (.scalar style (String.ofList text)) with keyAllowed := true }

def quotedToken (s : TokenScan) (style : ScalarStyle) : Option TokenScan := do
  let s ← s.saveKey
  let body := s.cursor.rest.drop 1
  let (text, rest) ← if style = .singleQuoted then singleQuoted body else doubleQuoted body
  return { (s.moveTo rest).push (.scalar style (String.ofList text)) with keyAllowed := false }

def plainToken (s : TokenScan) : Option TokenScan := do
  let s ← s.saveKey
  let p ← plain s.inFlow (s.indent + 1).toNat s.cursor.rest
  return { (s.moveTo p.rest).push (.scalar .plain (String.ofList p.text)) with
    keyAllowed := p.broken }

/-- Characters that cannot start a plain scalar, at least not before a blank. -/
def isIndicator (c : Char) : Bool :=
  ['-', '?', ':', ',', '[', ']', '\x7b', '\x7d', '#', '&', '*', '!', '|', '>', '\'', '"', '%', '@',
    '\x60'].contains c

def startsPlain (inFlow : Bool) (c : Char) (rest : List Char) : Bool :=
  !(isBlank c || isIndicator c) || (c = '-' && !rest.head?.any isBlank) ||
    (!inFlow && (c = '?' || c = ':') && !atWordEnd rest)

/-- The token at the cursor. -/
def token (s : TokenScan) : Option TokenScan :=
  match s.cursor.rest with
  | [] => s.streamEnd
  | c :: rest =>
      if s.cursor.column = 0 && c = '%' then s.directiveToken
      else if s.cursor.column = 0 && atDocumentMark (c :: rest) then
        s.documentMark (if c = '-' then .documentStart else .documentEnd)
      else if c = '[' then s.openFlow .flowSequenceStart
      else if c = '\x7b' then s.openFlow .flowMappingStart
      else if c = ']' then s.closeFlow .flowSequenceEnd
      else if c = '\x7d' then s.closeFlow .flowMappingEnd
      else if c = ',' then s.flowEntry
      else if c = '-' && atWordEnd rest then s.blockEntry
      else if c = '?' && (s.inFlow || atWordEnd rest) then s.keyMark
      else if c = ':' && (s.inFlow || atWordEnd rest) then s.valueMark
      else if c = '*' then s.named .alias
      else if c = '&' then s.named .anchor
      else if c = '!' then s.tagToken
      else if c = '|' && !s.inFlow then s.blockScalarToken .literal
      else if c = '>' && !s.inFlow then s.blockScalarToken .folded
      else if c = '\'' then s.quotedToken .singleQuoted
      else if c = '"' then s.quotedToken .doubleQuoted
      else if startsPlain s.inFlow c rest then s.plainToken
      else none

def step (s : TokenScan) : Option TokenScan := do
  let s ← s.toNextToken.expireKeys
  let s ← (s.closeBlocks s.cursor.column).token
  s.expireKeys

/-- The tokens that no open key could still change. -/
def settled (s : TokenScan) : List Token :=
  let numbers := s.keys.filterMap fun k => k.map (·.number)
  s.tokens.reverse.take (numbers.foldl min s.count)

def run : Nat → TokenScan → List Token
  | 0, s => s.settled
  | fuel + 1, s =>
      if s.finished then s.tokens.reverse
      else match s.step with
        | none => s.settled
        | some next => run fuel next

end TokenScan

/-- The tokens of a text. They end in the end of the stream if and only if all of it could be
read. -/
def tokens (text : String) : List Token :=
  if text.toList.all isAllowed then
    let cs := uniformBreaks text.toList
    TokenScan.run (cs.length + 2) (.start cs)
  else []

end BenchCharts.Yaml
