import Qualify.Yaml.Node
import Qualify.Yaml.Token.Lexer

/-!
# Nodes from tokens

A text holds one document at most. Directives in front of it give handles for tags. A name may be
given to one node only, and has to be given before it is used. Tokens are asked for one by one, so
what is wrong with the text further on does not matter before the token there is needed.
-/

namespace Qualify.Yaml

/-- The tokens that are left, why no more come if the text does not end there, and the nodes that
have names; a node that is not complete yet is none. -/
structure Compose where
  tokens : List Token
  fault : Option Fault := none
  named : List (String × Option Node) := []

namespace Compose

abbrev Build := StateT Compose (Except Fault)

def malformed {α : Type} : Build α := throw .malformed

/-- The token at hand, none at the end of the text. -/
def here : Build (Option Token) := do
  let s ← get
  match s.tokens, s.fault with
  | [], some f => throw f
  | ts, _ => return ts.head?

def advance : Build Unit := modify fun s => { s with tokens := s.tokens.tail }

/-- Does one of these tokens stand here? -/
def isHere (ts : List Token) : Build Bool := return (← here).any ts.contains

/-- Past a token, if it stands here. -/
def skip (t : Token) : Build Bool := do
  if ← isHere [t] then
    advance
    return true
  else return false

/-- The handles that every document has. -/
def standardHandles : List (String × String) := [("!", "!"), ("!!", Tag.namespaceName)]

/-- The name of a tag, where handles have these meanings. -/
def tagName (handles : List (String × String)) : Option String × String → Build String
  | (none, rest) => return rest
  | (some h, rest) =>
    match handles.lookup h with
    | some start => return start ++ rest
    | none => malformed

/-- The name and the tag in front of a node, in either order. -/
def properties : Build (Option String × Option (Option String × String)) := do
  match ← here with
  | some (.anchor name) =>
    advance
    match ← here with
    | some (.tag h rest) =>
      advance
      return (some name, some (h, rest))
    | _ => return (some name, none)
  | some (.tag h rest) =>
    advance
    match ← here with
    | some (.anchor name) =>
      advance
      return (some name, some (h, rest))
    | _ => return (none, some (h, rest))
  | _ => return (none, none)

/-- A given tag, unless that asks for the tag of the form. -/
def given (tag : Option String) : Option Tag := (tag.filter (· ≠ "!")).map Tag.ofName

def setName (name : Option String) (n : Option Node) : Build Unit :=
  match name with
  | some name => modify fun s => { s with named := (name, n) :: s.named }
  | none => pure ()

/-- A name that is not given to any node yet. -/
def openName (name : Option String) : Build Unit := do
  if let some n := name then
    if ((← get).named.lookup n).isSome then malformed
  setName name none

/-- The node that a name refers to. -/
def referred (name : String) : Build Node := do
  match (← get).named.lookup name with
  | none => malformed
  | some none => return .recursive
  | some (some n) => return n

/-- A scalar by its tag, or by its form if it is plain or its tag asks for that. -/
def scalarNode (tag : Option String) (text : String) (isPlain : Bool) : Node :=
  match given tag with
  | some t => .scalar t text
  | none =>
    .scalar (if isPlain || tag.isSome then Tag.ofPlain text else .text) text

mutual

/-- A node with its name and tag. Sequences and mappings by indentation stand in blocks only, and
sequences without indentation only where entries of mappings are. -/
def node (handles : List (String × String)) (inBlock unindented : Bool) (fuel : Nat) : Build Node :=
  match fuel with
  | 0 => malformed
  | fuel + 1 => do
    match ← here with
    | some (.alias name) =>
      advance
      referred name
    | _ =>
      let (name, tag) ← properties
      let tag ← match tag with
        | some t => some <$> tagName handles t
        | none => pure none
      discard here
      openName name
      let n ← content handles inBlock unindented (name.isSome || tag.isSome) tag fuel
      setName name (some n)
      return n
termination_by structural fuel

/-- A node behind its name and tag. -/
def content (handles : List (String × String)) (inBlock unindented mayBeEmpty : Bool)
    (tag : Option String) (fuel : Nat) : Build Node :=
  match fuel with
  | 0 => malformed
  | fuel + 1 => do
    let sequence := Node.sequence ((given tag).getD .sequence)
    let mapping := Node.mapping ((given tag).getD .mapping)
    match ← here with
    | some (.scalar text isPlain) =>
      advance
      return scalarNode tag text (isPlain && tag.isNone)
    | some .flowSequenceStart =>
      advance
      return sequence (← flowItems handles true fuel)
    | some .flowMappingStart =>
      advance
      return mapping (← flowEntries handles true fuel)
    | some .blockEntry =>
      if unindented then return sequence (← blockItems handles false fuel)
      else if mayBeEmpty then return scalarNode tag "" tag.isNone
      else malformed
    | some .blockSequenceStart =>
      if inBlock then
        advance
        return sequence (← blockItems handles true fuel)
      else if mayBeEmpty then return scalarNode tag "" tag.isNone
      else malformed
    | some .blockMappingStart =>
      if inBlock then
        advance
        return mapping (← blockEntries handles fuel)
      else if mayBeEmpty then return scalarNode tag "" tag.isNone
      else malformed
    | _ => if mayBeEmpty then return scalarNode tag "" tag.isNone else malformed
termination_by structural fuel

/-- A node, or the empty one where a token stands that ends it. -/
def nodeUnless (handles : List (String × String)) (ends : List Token) (inBlock unindented : Bool)
    (fuel : Nat) : Build Node :=
  match fuel with
  | 0 => malformed
  | fuel + 1 => do
    if ← isHere ends then return .empty else node handles inBlock unindented fuel
termination_by structural fuel

/-- The items of a block sequence. One that is not indented ends without a token. -/
def blockItems (handles : List (String × String)) (isIndented : Bool) (fuel : Nat) :
    Build (List Node) :=
  match fuel with
  | 0 => malformed
  | fuel + 1 => do
    if ← skip .blockEntry then
      let ends := if isIndented then [Token.blockEntry, .blockEnd]
        else [.blockEntry, .key, .value, .blockEnd]
      let n ← nodeUnless handles ends true false fuel
      return n :: (← blockItems handles isIndented fuel)
    else if !isIndented then return []
    else if ← skip .blockEnd then return []
    else malformed
termination_by structural fuel

def blockEntries (handles : List (String × String)) (fuel : Nat) : Build (List (Node × Node)) :=
  match fuel with
  | 0 => malformed
  | fuel + 1 => do
    if ← skip .key then
      let k ← nodeUnless handles [.key, .value, .blockEnd] true true fuel
      let v ← entryValue handles [.key, .value, .blockEnd] true fuel
      return (k, v) :: (← blockEntries handles fuel)
    else if ← skip .blockEnd then return []
    else malformed
termination_by structural fuel

/-- The value of an entry behind its key, which may be missing. -/
def entryValue (handles : List (String × String)) (ends : List Token) (inBlock : Bool) (fuel : Nat) :
    Build Node :=
  match fuel with
  | 0 => malformed
  | fuel + 1 => do
    if ← skip .value then nodeUnless handles ends inBlock inBlock fuel else return .empty
termination_by structural fuel

/-- The items of a flow sequence. An entry of a mapping may be an item. -/
def flowItems (handles : List (String × String)) (isFirst : Bool) (fuel : Nat) : Build (List Node) :=
  match fuel with
  | 0 => malformed
  | fuel + 1 => do
    if ← skip .flowSequenceEnd then return []
    if !isFirst then
      if !(← skip .flowEntry) then malformed
    if ← skip .key then
      let k ← nodeUnless handles [.value, .flowEntry, .flowSequenceEnd] false false fuel
      let v ← entryValue handles [.flowEntry, .flowSequenceEnd] false fuel
      return .mapping .mapping [(k, v)] :: (← flowItems handles false fuel)
    else if ← skip .flowSequenceEnd then return []
    else
      let n ← node handles false false fuel
      return n :: (← flowItems handles false fuel)
termination_by structural fuel

def flowEntries (handles : List (String × String)) (isFirst : Bool) (fuel : Nat) :
    Build (List (Node × Node)) :=
  match fuel with
  | 0 => malformed
  | fuel + 1 => do
    if ← skip .flowMappingEnd then return []
    if !isFirst then
      if !(← skip .flowEntry) then malformed
    if ← skip .key then
      let k ← nodeUnless handles [.value, .flowEntry, .flowMappingEnd] false false fuel
      let v ← entryValue handles [.flowEntry, .flowMappingEnd] false fuel
      return (k, v) :: (← flowEntries handles false fuel)
    else if ← skip .flowMappingEnd then return []
    else
      let k ← node handles false false fuel
      return (k, .empty) :: (← flowEntries handles false fuel)
termination_by structural fuel

end

/-- The handles that directives in front of a document give, each once, where a version is given
once, and the tokens behind the directives. -/
def directives (version : Bool) (handles : List (String × String)) :
    List Token → Except Fault (List (String × String) × List Token)
  | .versionDirective major :: ts =>
    if version || major ≠ 1 then .error .malformed else directives true handles ts
  | .tagDirective h start :: ts =>
    if (handles.lookup h).isSome then .error .malformed
    else directives version ((h, start) :: handles) ts
  | .otherDirective :: ts => directives version handles ts
  | ts => .ok (handles ++ standardHandles, ts)

/-- Past directives. -/
def skipDirectives : Build (List (String × String)) := do
  let (handles, ts) ← directives false [] (← get).tokens
  modify fun s => { s with tokens := ts }
  return handles

/-- Tokens behind which a document without a mark does not start. -/
def isDirective : Token → Bool
  | .versionDirective _ | .tagDirective .. | .otherDirective => true
  | _ => false

/-- Past the marks at the end of a document, where the text has to end. Where a further document
could start, its directives are read first. -/
def atEnd : Build Unit := do
  modify fun s => { s with tokens := s.tokens.dropWhile (· = .documentEnd) }
  if (← here).isSome then
    discard skipDirectives
    discard here
    malformed

/-- The one document of a text, none if there is nothing. Behind a mark it may be empty. -/
def document : Build (Option Node) := do
  let fuel := 4 * (← get).tokens.length + 8
  match ← here with
  | none => return none
  | some t =>
    let n ←
      if isDirective t || t = .documentStart then
        let handles ← skipDirectives
        if !(← skip .documentStart) then malformed
        if (← here).all fun t => isDirective t || t = .documentStart || t = .documentEnd then
          pure .empty
        else node handles true false fuel
      else node standardHandles true false fuel
    atEnd
    return some n

end Compose

/-- The node that a text denotes, none if there is nothing in it. -/
def nodeOf (cs : List Char) : Except Fault (Option Node) :=
  let (ts, fault) := tokens cs
  Compose.document.run' { tokens := ts, fault }

end Qualify.Yaml
