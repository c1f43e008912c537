import BenchCharts.Yaml.Token

/-!
Documents as trees. A text whose tokens stop early still gives a tree: it is cut where the text
could not be read on, and what was read before the cut is in it. An alias is kept as the number of
its anchor, and the content of the anchors stands beside the tree, since an anchored collection may
hold an alias of itself.
-/
namespace BenchCharts.Yaml

inductive Node
  /-- The text could not be read on. -/
  | cut
  /-- A text without a document. -/
  | void
  | alias (anchor : Nat)
  | scalar (tag : Option String) (style : ScalarStyle) (text : String)
  | sequence (tag : Option String) (items : List Node)
  | mapping (tag : Option String) (members : List (Node × Node))
  deriving Repr, Inhabited

namespace Node

/-- A node that was left out. -/
def empty : Node := scalar none .plain ""

mutual

/-- No part of the node is cut. -/
def isWhole : Node → Bool
  | .cut => false
  | .void => true
  | .alias _ => true
  | .scalar .. => true
  | .sequence _ items => areWhole items
  | .mapping _ members => membersAreWhole members

def areWhole : List Node → Bool
  | [] => true
  | item :: rest => item.isWhole && areWhole rest

def membersAreWhole : List (Node × Node) → Bool
  | [] => true
  | (key, value) :: rest => key.isWhole && value.isWhole && membersAreWhole rest

end

end Node

/-- Tokens that are still to be read, with the anchors seen so far and the meaning of handles. -/
structure NodeScan where
  tokens : List Token
  /-- The numbers of the anchors. -/
  names : List (String × Nat)
  /-- The content of the anchors, latest first. -/
  anchored : List (Nat × Node)
  handles : List (String × String)
  deriving Repr

namespace NodeScan

def stop (s : NodeScan) : NodeScan := { s with tokens := [] }

def peek (s : NodeScan) : Option Token := s.tokens.head?

def skip (s : NodeScan) : NodeScan := { s with tokens := s.tokens.tail }

def rename (name : String) (n : Nat) : List (String × Nat) → List (String × Nat)
  | [] => [(name, n)]
  | (other, m) :: rest =>
      if other = name then (name, n) :: rest else (other, m) :: rename name n rest

/-- An anchor gets the number of the names known before it. -/
def define (s : NodeScan) (name : Option String) : NodeScan :=
  match name with
  | none => s
  | some name =>
      { s with
        names := rename name s.names.length s.names
        anchored := (s.names.length, .cut) :: s.anchored }

/-- Fills in the content of the anchor defined when `before` anchors were there. -/
def fill (s : NodeScan) (name : Option String) (before : Nat) (node : Node) : NodeScan :=
  match name with
  | none => s
  | some _ =>
      let place := s.anchored.length - before - 1
      { s with anchored := s.anchored.modify place fun (n, _) => (n, node) }

/-- The full name of a tag; its handle must have a meaning. -/
def tagName (s : NodeScan) (t : Tag) : Option String :=
  if t.handle.isEmpty then some t.suffix
  else (s.handles.lookup t.handle).map fun stem => stem ++ t.suffix

/-- The anchor and the tag before a node, in either order. -/
def properties (s : NodeScan) : Option String × Option Tag × NodeScan :=
  match s.tokens with
  | .anchor name :: .tag t :: rest => (some name, some t, { s with tokens := rest })
  | .tag t :: .anchor name :: rest => (some name, some t, { s with tokens := rest })
  | .anchor name :: rest => (some name, none, { s with tokens := rest })
  | .tag t :: rest => (none, some t, { s with tokens := rest })
  | _ => (none, none, s)

/-- Tokens before which an entry of a block mapping is left out. -/
def endsBlock (t : Token) : Bool := t = .key || t = .value || t = .blockEnd

/-- Tokens before which an item of a flow collection is left out. -/
def endsFlow (closing : Token) (t : Token) : Bool := t = .flowEntry || t = closing

/-- A comma stands between the items of a flow collection, and may stand after the last one. -/
def separate (s : NodeScan) (first : Bool) (closing : Token) : NodeScan :=
  if first then s
  else if s.peek = some .flowEntry then s.skip
  else if s.peek = some closing then s
  else s.stop

mutual

/-- A node inside a block collection or inside a flow collection. As a key or value in a block
mapping, a sequence need not be indented. -/
def node : Nat → Bool → Bool → NodeScan → Node × NodeScan
  | 0, _, _, s => (.cut, s.stop)
  | fuel + 1, inBlock, unindented, s =>
      match s.tokens with
      | .alias name :: rest =>
          match s.names.lookup name with
          | some n => (.alias n, { s with tokens := rest })
          | none => (.cut, s.stop)
      | _ =>
          let (name, tag?, s) := s.properties
          match tag?.mapM s.tagName, s.peek with
          | some tag, some t =>
              let named := s.define name
              let finish (found : Node × NodeScan) : Node × NodeScan :=
                (found.1, found.2.fill name s.anchored.length found.1)
              let items (found : List Node × NodeScan) := finish (.sequence tag found.1, found.2)
              let members (found : List (Node × Node) × NodeScan) :=
                finish (.mapping tag found.1, found.2)
              match t, inBlock, unindented with
              | .blockEntry, _, true => items (unindentedItems fuel named)
              | .scalar style text, _, _ =>
                  finish (.scalar (tag.filter (· != "!")) style text, named.skip)
              | .flowSequenceStart, _, _ => items (flowItems fuel true named.skip)
              | .flowMappingStart, _, _ => members (flowMembers fuel true named.skip)
              | .sequenceStart, true, _ => items (blockItems fuel named.skip)
              | .mappingStart, true, _ => members (blockMembers fuel named.skip)
              | _, _, _ =>
                  if name.isSome || tag.isSome then finish (.scalar tag .plain "", named)
                  else (.cut, s.stop)
          | _, _ => (.cut, s.stop)

/-- A node, or an empty one before a token that ends it. -/
def nodeUnless : Nat → (Token → Bool) → Bool → Bool → NodeScan → Node × NodeScan
  | 0, _, _, _, s => (.cut, s.stop)
  | fuel + 1, ends, inBlock, unindented, s =>
      match s.peek with
      | none => (.cut, s.stop)
      | some t => if ends t then (.empty, s) else node fuel inBlock unindented s

/-- The value of a key, which may be missing. -/
def valueOf : Nat → (Token → Bool) → Bool → Bool → NodeScan → Node × NodeScan
  | 0, _, _, _, s => (.cut, s.stop)
  | fuel + 1, ends, inBlock, unindented, s =>
      match s.peek with
      | none => (.cut, s.stop)
      | some .value => nodeUnless fuel ends inBlock unindented s.skip
      | some _ => (.empty, s)

def blockItems : Nat → NodeScan → List Node × NodeScan
  | 0, s => ([.cut], s.stop)
  | fuel + 1, s =>
      match s.peek with
      | some .blockEntry =>
          let (item, s) := nodeUnless fuel (fun t => t = .blockEntry || t = .blockEnd) true false
            s.skip
          let (rest, s) := blockItems fuel s
          (item :: rest, s)
      | some .blockEnd => ([], s.skip)
      | _ => ([.cut], s.stop)

def unindentedItems : Nat → NodeScan → List Node × NodeScan
  | 0, s => ([.cut], s.stop)
  | fuel + 1, s =>
      match s.peek with
      | some .blockEntry =>
          let (item, s) := nodeUnless fuel (fun t => t = .blockEntry || endsBlock t) true false
            s.skip
          let (rest, s) := unindentedItems fuel s
          (item :: rest, s)
      | some _ => ([], s)
      | none => ([.cut], s.stop)

def blockMembers : Nat → NodeScan → List (Node × Node) × NodeScan
  | 0, s => ([(.cut, .cut)], s.stop)
  | fuel + 1, s =>
      match s.peek with
      | some .key =>
          let (key, s) := nodeUnless fuel endsBlock true true s.skip
          let (value, s) := valueOf fuel endsBlock true true s
          let (rest, s) := blockMembers fuel s
          ((key, value) :: rest, s)
      | some .blockEnd => ([], s.skip)
      | _ => ([(.cut, .cut)], s.stop)

/-- The items of a flow sequence. A key makes an item a mapping with a single member, and a key
that is left out takes the next token with it. -/
def flowItems : Nat → Bool → NodeScan → List Node × NodeScan
  | 0, _, s => ([.cut], s.stop)
  | fuel + 1, first, s =>
      let s := s.separate first .flowSequenceEnd
      match s.peek with
      | none => ([.cut], s.stop)
      | some .flowSequenceEnd => ([], s.skip)
      | some .key =>
          let s := s.skip
          let absent := s.peek.any fun t => t = .value || endsFlow .flowSequenceEnd t
          let (key, s) := if absent then (.empty, s.skip) else node fuel false false s
          let (value, s) := valueOf fuel (endsFlow .flowSequenceEnd) false false s
          let (rest, s) := flowItems fuel false s
          (.mapping none [(key, value)] :: rest, s)
      | some _ =>
          let (item, s) := node fuel false false s
          let (rest, s) := flowItems fuel false s
          (item :: rest, s)

def flowMembers : Nat → Bool → NodeScan → List (Node × Node) × NodeScan
  | 0, _, s => ([(.cut, .cut)], s.stop)
  | fuel + 1, first, s =>
      let s := s.separate first .flowMappingEnd
      match s.peek with
      | none => ([(.cut, .cut)], s.stop)
      | some .flowMappingEnd => ([], s.skip)
      | some .key =>
          let (key, s) := nodeUnless fuel (fun t => t = .value || endsFlow .flowMappingEnd t)
            false false s.skip
          let (value, s) := valueOf fuel (endsFlow .flowMappingEnd) false false s
          let (rest, s) := flowMembers fuel false s
          ((key, value) :: rest, s)
      | some _ =>
          let (key, s) := node fuel false false s
          let value := if s.peek.isNone then Node.cut else .empty
          let (rest, s) := flowMembers fuel false s
          ((key, value) :: rest, s)

end

/-- The handles that always have a meaning. -/
def standardHandles : List (String × String) := [("!", "!"), ("!!", "tag:yaml.org,2002:")]

/-- Reads the directives before a document: a version of the format at most once, and each handle
at most once. -/
def directives (versioned : Bool) (own : List (String × String)) :
    List Token → Option (List (String × String) × List Token)
  | .directive (.version major minor) :: rest =>
      if versioned || major ≠ 1 || (minor ≠ 1 && minor ≠ 2) then none
      else directives true own rest
  | .directive (.handle handle stem) :: rest =>
      if (own.lookup handle).isSome then none
      else directives versioned ((handle, stem) :: own) rest
  | rest => some (own ++ standardHandles, rest)

/-- Tokens with which the content of a document cannot start. -/
def endsDocument : Token → Bool
  | .directive _ => true
  | .documentStart => true
  | .documentEnd => true
  | .streamEnd => true
  | _ => false

def startsHeader : Token → Bool
  | .directive _ => true
  | .documentStart => true
  | _ => false

end NodeScan

/-- The first document of a text. -/
structure Document where
  root : Node
  /-- The content of each anchor. -/
  anchors : List (Nat × Node)
  /-- The text was read to its end and holds no other document. -/
  isComplete : Bool
  deriving Repr

namespace Document

def ofScan (found : Node × NodeScan) : Document :=
  { root := found.1
    anchors := found.2.anchored
    isComplete := found.2.tokens.dropWhile (· = .documentEnd) = [.streamEnd] }

def unread : Document := ⟨.cut, [], false⟩

def ofTokens (tokens : List Token) : Document :=
  let fuel := 2 * tokens.length + 2
  let scan (tokens : List Token) (handles : List (String × String)) : NodeScan :=
    ⟨tokens, [], [], handles⟩
  match tokens with
  | [] => unread
  | [.streamEnd] => ⟨.void, [], true⟩
  | t :: _ =>
      if NodeScan.startsHeader t then
        match NodeScan.directives false [] tokens with
        | some (handles, .documentStart :: rest) =>
            ofScan (NodeScan.nodeUnless fuel NodeScan.endsDocument true false (scan rest handles))
        | _ => unread
      else ofScan (NodeScan.node fuel true false (scan tokens NodeScan.standardHandles))

def parse (text : String) : Document := ofTokens (tokens text)

/-- What a node stands for: an alias stands for the content of its anchor, which is no alias. -/
def resolve (d : Document) : Node → Node
  | .alias n => (d.anchors.lookup n).getD .cut
  | node => node

end Document

end BenchCharts.Yaml
