import ExceptionStubs.Yaml.Token.Reader
/-!
# YAML events

The nodes of a document in order: scalars, references, and the starts and ends of sequences and
mappings. They are found with a stack of what is expected next, so that the depth of a text is not
limited.
-/

namespace ExceptionStubs.Yaml

structure Properties where
  anchor : Option String
  tag : Option Tag
deriving Inhabited

inductive Event where
  | reference (name : String)
  | scalar (properties : Properties) (style : ScalarStyle) (text : String)
  | sequenceStart (properties : Properties)
  | sequenceEnd
  | mappingStart (properties : Properties)
  | mappingEnd

/-- What may come next: a node, the items of a sequence or the keys and values of a mapping, in a
block or between brackets. A pair is a mapping that stands in a sequence without brackets of its
own. -/
inductive Expected where
  | node (inBlock onlyEntries : Bool)
  | blockItem
  | entryItem
  | blockKey
  | blockValue
  | flowItem (first : Bool)
  | pairKey
  | pairValue
  | pairEnd
  | flowKey (first : Bool)
  | flowValue
  | noValue

namespace Event

def absent : Event := scalar default .plain ""

/-- The handles that the directives of a document declare, and the tokens behind them. There may be
one version only, and no handle may be declared twice. -/
def readDirectives (versioned : Bool) (handles : List (String × List UInt8)) :
    List Token → Option (List (String × List UInt8) × List Token)
  | .version major minor :: rest =>
    if versioned || major != 1 || !(minor == 1 || minor == 2) then none
    else readDirectives true handles rest
  | .handle name start :: rest =>
    if (handles.lookup name).isSome then none
    else readDirectives versioned (handles ++ [(name, start)]) rest
  | rest => some (handles, rest)

def readProperties (handles : List (String × List UInt8)) :
    List Token → Option (Properties × List Token)
  | .anchor name :: .tag t :: rest | .tag t :: .anchor name :: rest =>
    (t.resolve? handles).map fun t => (⟨some name, some t⟩, rest)
  | .anchor name :: rest => some (⟨some name, none⟩, rest)
  | .tag t :: rest => (t.resolve? handles).map fun t => (⟨none, some t⟩, rest)
  | rest => some (default, rest)

abbrev Step := List Event × List Expected × List Token

def stepNode (handles : List (String × List UInt8)) (inBlock onlyEntries : Bool) :
    List Token → Option Step
  | .reference name :: rest => some ([reference name], [], rest)
  | tokens => do
    let (p, rest) ← readProperties handles tokens
    match rest, inBlock, onlyEntries with
    | .blockEntry :: _, _, true => some ([sequenceStart p], [.entryItem], rest)
    | .scalar style text :: rest, _, _ => some ([scalar p style text], [], rest)
    | .flowSequenceStart :: rest, _, _ => some ([sequenceStart p], [.flowItem true], rest)
    | .flowMappingStart :: rest, _, _ => some ([mappingStart p], [.flowKey true], rest)
    | .blockSequenceStart :: rest, true, _ => some ([sequenceStart p], [.blockItem], rest)
    | .blockMappingStart :: rest, true, _ => some ([mappingStart p], [.blockKey], rest)
    | rest, _, _ =>
      if p.anchor.isSome || p.tag.isSome then some ([scalar p .plain ""], [], rest) else none

def stepFlowItem : List Token → Option Step
  | .flowSequenceEnd :: rest => some ([sequenceEnd], [], rest)
  | .key :: rest => some ([mappingStart default], [.pairKey], rest)
  | tokens => some ([], [.node false false, .flowItem false], tokens)

def stepFlowKey : List Token → Option Step
  | .flowMappingEnd :: rest => some ([mappingEnd], [], rest)
  | .key :: rest =>
    match rest with
    | .value :: _ | .flowEntry :: _ | .flowMappingEnd :: _ => some ([absent], [.flowValue], rest)
    | _ => some ([], [.node false false, .flowValue], rest)
  | tokens => some ([], [.node false false, .noValue], tokens)

def step (handles : List (String × List UInt8)) : Expected → List Token → Option Step
  | .node inBlock onlyEntries, tokens => stepNode handles inBlock onlyEntries tokens
  | .blockItem, .blockEntry :: rest =>
    match rest with
    | .blockEntry :: _ | .blockEnd :: _ => some ([absent], [.blockItem], rest)
    | _ => some ([], [.node true false, .blockItem], rest)
  | .blockItem, .blockEnd :: rest => some ([sequenceEnd], [], rest)
  | .blockItem, _ => none
  | .entryItem, .blockEntry :: rest =>
    match rest with
    | .blockEntry :: _ | .key :: _ | .value :: _ | .blockEnd :: _ =>
      some ([absent], [.entryItem], rest)
    | _ => some ([], [.node true false, .entryItem], rest)
  | .entryItem, tokens => some ([sequenceEnd], [], tokens)
  | .blockKey, .key :: rest =>
    match rest with
    | .key :: _ | .value :: _ | .blockEnd :: _ => some ([absent], [.blockValue], rest)
    | _ => some ([], [.node true true, .blockValue], rest)
  | .blockKey, .blockEnd :: rest => some ([mappingEnd], [], rest)
  | .blockKey, _ => none
  | .blockValue, .value :: rest =>
    match rest with
    | .key :: _ | .value :: _ | .blockEnd :: _ => some ([absent], [.blockKey], rest)
    | _ => some ([], [.node true true, .blockKey], rest)
  | .blockValue, tokens => some ([absent], [.blockKey], tokens)
  | .flowItem true, tokens => stepFlowItem tokens
  | .flowItem false, .flowSequenceEnd :: rest => some ([sequenceEnd], [], rest)
  | .flowItem false, .flowEntry :: rest => stepFlowItem rest
  | .flowItem false, _ => none
  | .pairKey, tokens =>
    match tokens with
    | .value :: rest | .flowEntry :: rest | .flowSequenceEnd :: rest =>
      some ([absent], [.pairValue], rest)
    | _ => some ([], [.node false false, .pairValue], tokens)
  | .pairValue, .value :: rest =>
    match rest with
    | .flowEntry :: _ | .flowSequenceEnd :: _ => some ([absent], [.pairEnd], rest)
    | _ => some ([], [.node false false, .pairEnd], rest)
  | .pairValue, tokens => some ([absent], [.pairEnd], tokens)
  | .pairEnd, tokens => some ([mappingEnd], [.flowItem false], tokens)
  | .flowKey true, tokens => stepFlowKey tokens
  | .flowKey false, .flowMappingEnd :: rest => some ([mappingEnd], [], rest)
  | .flowKey false, .flowEntry :: rest => stepFlowKey rest
  | .flowKey false, _ => none
  | .flowValue, .value :: rest =>
    match rest with
    | .flowEntry :: _ | .flowMappingEnd :: _ => some ([absent], [.flowKey false], rest)
    | _ => some ([], [.node false false, .flowKey false], rest)
  | .flowValue, tokens => some ([absent], [.flowKey false], tokens)
  | .noValue, tokens => some ([absent], [.flowKey false], tokens)

/-- Takes steps until nothing is expected any more, at most `fuel` of them; `read` holds the events
so far, last first. -/
def steps (handles : List (String × List UInt8)) :
    Nat → List Event → List Expected → List Token → Option (List Event × List Token)
  | _, read, [], tokens => some (read.reverse, tokens)
  | 0, _, _ :: _, _ => none
  | fuel + 1, read, expected :: stack, tokens => do
    let (events, more, rest) ← step handles expected tokens
    steps handles fuel (events.reverse ++ read) (more ++ stack) rest

/-- The events of a node in a document with these handles. Between two steps that take a token there
are at most three that take none. -/
def readNode (handles : List (String × List UInt8)) (tokens : List Token) :
    Option (List Event × List Token) :=
  steps handles (4 * tokens.length + 4) [] [.node true false] tokens

def readContent (handles : List (String × List UInt8)) :
    List Token → Option (List Event × List Token)
  | [] => some ([absent], [])
  | tokens@(.version _ _ :: _) | tokens@(.handle _ _ :: _) | tokens@(.documentStart :: _)
  | tokens@(.documentEnd :: _) => some ([absent], tokens)
  | tokens => readNode handles tokens

def isOver (tokens : List Token) : Bool :=
  tokens.all fun
    | .documentEnd => true
    | _ => false

def ofTokens? (tokens : List Token) : Option (List Event) := do
  if tokens.isEmpty then return []
  let (handles, rest) ← readDirectives false [] tokens
  let (events, rest) ←
    match rest with
    | .documentStart :: rest => readContent handles rest
    | _ => if rest.length = tokens.length then readNode handles rest else none
  if isOver rest then some events else none

end Event

end ExceptionStubs.Yaml
