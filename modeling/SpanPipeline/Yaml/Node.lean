/-
  SpanPipeline.Yaml.Node
  ──────────────────────
  The nodes of a document, built from its tokens.

  The builder reads one token after the other.  It keeps a stack of
  what is unfinished, the innermost first: the collections that are
  open and, on top, perhaps a node that is wanted.  A token that
  does not fit where a node may be left out stands after an empty
  node.

  Main results:
    * `length_deliver` — a finished node never makes the stack
      longer, so that every token is dealt with in the end.
-/
import SpanPipeline.Yaml.Lexer
import SpanPipeline.Yaml.Tag

namespace SpanPipeline.Yaml

/-! ## §1. Nodes. -/

/-- A node of a document. -/
inductive Node where
  | scalar (tag : Tag) (text : List Char)
  | sequence (tag : Tag) (items : List Node)
  | mapping (tag : Tag) (entries : List (Node × Node))
  deriving Inhabited

/-- A node that is left out. -/
def Node.empty : Node := .scalar .null []

/-- What may be written before a node. -/
structure Properties where
  anchor : Option String := none
  tag : Option TagName := none

/-- Nothing is written before the node. -/
def Properties.isEmpty (p : Properties) : Bool := p.anchor.isNone && p.tag.isNone

/-! ## §2. Unfinished work. -/

/-- Where a node is wanted. -/
inductive Place where
  /-- The whole document, without a start marker. -/
  | bare
  /-- The document after its start marker. -/
  | document
  | blockItem
  | looseItem
  | blockPart
  | flowItem
  | pairKey
  | pairValue
  | flowKey
  | flowValue
  deriving DecidableEq, Repr

namespace Place

/-- The node may be left out before the token. -/
def mayOmit : Place → Token → Bool
  | .bare, _ => false
  | .document, t =>
    match t with
    | .directive _ => true
    | .documentStart => true
    | .documentEnd => true
    | .streamEnd => true
    | _ => false
  | .blockItem, t => t == .blockEntry || t == .blockEnd
  | .looseItem, t => t == .blockEntry || t == .key || t == .value || t == .blockEnd
  | .blockPart, t => t == .key || t == .value || t == .blockEnd
  | .flowItem, _ => false
  | .pairKey, t => t == .value || t == .flowEntry || t == .flowSequenceEnd
  | .pairValue, t => t == .flowEntry || t == .flowSequenceEnd
  | .flowKey, t => t == .value || t == .flowEntry || t == .flowMappingEnd
  | .flowValue, t => t == .flowEntry || t == .flowMappingEnd

/-- A block collection may stand there. -/
def allowsBlock : Place → Bool
  | .bare => true
  | .document => true
  | .blockItem => true
  | .looseItem => true
  | .blockPart => true
  | _ => false

end Place

/-- How far an entry of a mapping is. -/
inductive Progress where
  /-- No entry has begun. -/
  | idle
  /-- The key is being read. -/
  | key
  /-- A key is being read that will have no value. -/
  | lone
  /-- The key is there. -/
  | colon (key : Node)
  /-- The value is being read. -/
  | value (key : Node)

/-- Something unfinished. -/
inductive Frame where
  /-- Nothing of the document is read but, perhaps, directives. -/
  | prologue (directives : Bool) (version : Bool)
  /-- A node is wanted. -/
  | wanted (place : Place) (p : Properties)
  | blockSequence (p : Properties) (items : List Node)
  /-- A sequence that is not indented, inside a block mapping. -/
  | looseSequence (p : Properties) (items : List Node)
  | blockMapping (p : Properties) (entries : List (Node × Node)) (progress : Progress)
  /-- A flow sequence; `ready` when an item may follow. -/
  | flowSequence (p : Properties) (items : List Node) (ready : Bool)
  /-- A flow mapping; `ready` when an entry may follow. -/
  | flowMapping (p : Properties) (entries : List (Node × Node)) (progress : Progress)
      (ready : Bool)
  /-- A single pair in a flow sequence. -/
  | pair (progress : Progress)
  /-- The document is read. -/
  | epilogue (root : Option Node)
  /-- The text is read. -/
  | finished (root : Option Node)

/-- The progress of an entry and the entries once a node is there. -/
def Progress.deliver (n : Node) (entries : List (Node × Node)) :
    Progress → List (Node × Node) × Progress
  | .idle => (entries, .idle)
  | .key => (entries, .colon n)
  | .lone => (entries ++ [(n, .empty)], .idle)
  | .colon k => (entries, .colon k)
  | .value k => (entries ++ [(k, n)], .idle)

/-- The stack once a node is finished. -/
def deliver (n : Node) : List Frame → List Frame
  | .blockSequence p items :: fs => .blockSequence p (items ++ [n]) :: fs
  | .looseSequence p items :: fs => .looseSequence p (items ++ [n]) :: fs
  | .flowSequence p items _ :: fs => .flowSequence p (items ++ [n]) false :: fs
  | .blockMapping p entries progress :: fs =>
    let (entries, progress) := progress.deliver n entries
    .blockMapping p entries progress :: fs
  | .flowMapping p entries progress _ :: fs =>
    let (entries, progress) := progress.deliver n entries
    .flowMapping p entries progress false :: fs
  | .pair (.value k) :: fs => deliver (.mapping .map [(k, n)]) fs
  | .pair _ :: fs => .pair (.colon n) :: fs
  | .epilogue _ :: fs => .epilogue (some n) :: fs
  | fs => fs

theorem length_deliver (n : Node) (fs : List Frame) : (deliver n fs).length ≤ fs.length := by
  fun_induction deliver n fs <;> simp_all
  omega

/-! ## §3. The builder. -/

/-- The nodes built so far. -/
structure Builder where
  frames : List Frame
  /-- The prefixes of tags by their handles. -/
  handles : List (String × String) := []
  /-- The nodes that have a name.  The name of an open collection
      stands for an empty one. -/
  anchors : List (String × Node) := []

namespace Builder

/-- The prefixes of the handles that need no directive. -/
def standardHandles : List (String × String) := [("!", "!"), ("!!", Tag.leading)]

/-- The full name of a tag. -/
def fullName (b : Builder) (t : TagName) : Except Fault String :=
  match t.handle with
  | none => .ok t.suffix
  | some h =>
    match (b.handles ++ standardHandles).lookup h with
    | some leading => .ok (leading ++ t.suffix)
    | none => .error .malformed

/-- The tag of a node: the written one, or what `plain` gives for
    the mark that asks for no tag, or what `bare` gives when nothing
    is written. -/
def tagOf (b : Builder) (p : Properties) (plain bare : Tag) : Except Fault Tag :=
  match p.tag with
  | none => .ok bare
  | some t => do
    let name ← b.fullName t
    return if name = "!" then plain else Tag.ofName name

/-- Name a node that begins; its name must be new. -/
def name (b : Builder) (p : Properties) (n : Node) : Except Fault Builder :=
  match p.anchor with
  | none => .ok b
  | some a =>
    if (b.anchors.lookup a).isSome then .error .malformed
    else .ok { b with anchors := (a, n) :: b.anchors }

/-- A scalar is read. -/
def leaf (b : Builder) (fs : List Frame) (p : Properties) (text : List Char) (plain : Bool) :
    Except Fault Builder := do
  let byForm := Tag.ofPlain text
  let tag ← b.tagOf p byForm (if plain then byForm else .str)
  let n := Node.scalar tag text
  let b ← b.name p n
  return { b with frames := deliver n fs }

/-- A sequence begins. -/
def beginSequence (b : Builder) (fs : List Frame) (p : Properties) (f : Frame) :
    Except Fault Builder := do
  let tag ← b.tagOf p .seq .seq
  let b ← b.name p (.sequence tag [])
  return { b with frames := f :: fs }

/-- A mapping begins. -/
def beginMapping (b : Builder) (fs : List Frame) (p : Properties) (f : Frame) :
    Except Fault Builder := do
  let tag ← b.tagOf p .map .map
  let b ← b.name p (.mapping tag [])
  return { b with frames := f :: fs }

/-- A collection is finished. -/
def close (b : Builder) (fs : List Frame) (p : Properties) (n : Node) : Builder :=
  { b with
    frames := deliver n fs
    anchors := b.anchors.map fun a => if some a.1 = p.anchor then (a.1, n) else a }

/-- A sequence is finished. -/
def closeSequence (b : Builder) (fs : List Frame) (p : Properties) (items : List Node) :
    Except Fault Builder := do
  return b.close fs p (.sequence (← b.tagOf p .seq .seq) items)

/-- A mapping is finished. -/
def closeMapping (b : Builder) (fs : List Frame) (p : Properties)
    (entries : List (Node × Node)) : Except Fault Builder := do
  return b.close fs p (.mapping (← b.tagOf p .map .map) entries)

/-- The directives before a document. -/
def declare (b : Builder) (version : Bool) : Directive → Except Fault Builder
  | .version major _ =>
    if version || major ≠ 1 then .error .malformed
    else .ok { b with frames := [.prologue true true] }
  | .handle h leading =>
    if (b.handles.lookup h).isSome then .error .malformed
    else .ok { b with frames := [.prologue true version], handles := (h, leading) :: b.handles }
  | .other => .ok { b with frames := [.prologue true version] }

/-- What a token does where a node is wanted. -/
inductive Opening where
  /-- The token is part of the node. -/
  | taken (b : Builder)
  /-- The token stands after the node, which is empty. -/
  | after (b : Builder)

/-- Take a token where a node is wanted, with `fs` around it. -/
def openNode (b : Builder) (fs : List Frame) (place : Place) (p : Properties) (t : Token) :
    Except Fault Opening :=
  let wanting (p : Properties) : Except Fault Opening :=
    .ok (.taken { b with frames := .wanted place p :: fs })
  let leftOut : Except Fault Opening :=
    if p.isEmpty then .error .malformed
    else do return .after (← b.leaf fs p [] true)
  if p.isEmpty && place.mayOmit t then .ok (.after { b with frames := deliver .empty fs })
  else match t with
    | .alias a =>
      if p.isEmpty then
        match b.anchors.lookup a with
        | some n => .ok (.taken { b with frames := deliver n fs })
        | none => .error .malformed
      else leftOut
    | .anchor a => if p.anchor.isNone then wanting { p with anchor := some a } else leftOut
    | .tag t => if p.tag.isNone then wanting { p with tag := some t } else leftOut
    | .scalar text plain => do return .taken (← b.leaf fs p text plain)
    | .flowSequence => do return .taken (← b.beginSequence fs p (.flowSequence p [] true))
    | .flowMapping => do return .taken (← b.beginMapping fs p (.flowMapping p [] .idle true))
    | .blockSequence =>
      if place.allowsBlock then do
        return .taken (← b.beginSequence fs p (.blockSequence p []))
      else leftOut
    | .blockMapping =>
      if place.allowsBlock then do
        return .taken (← b.beginMapping fs p (.blockMapping p [] .idle))
      else leftOut
    | .blockEntry =>
      if place = .blockPart then do
        let b ← b.beginSequence fs p (.looseSequence p [])
        return .taken { b with frames := .wanted .looseItem {} :: b.frames }
      else leftOut
    | _ => leftOut

/-- Take a token where a node is wanted that cannot be left out
    without a property. -/
def demand (b : Builder) (fs : List Frame) (place : Place) (t : Token) :
    Except Fault Builder := do
  match ← b.openNode fs place {} t with
  | .taken b => return b
  | .after _ => throw .malformed

/-- What a token does: it is dealt with, or has to be given to the
    builder once more. -/
inductive Reaction where
  | done (b : Builder)
  | again (b : Builder)

/-- The reaction to a token. -/
def react (b : Builder) (t : Token) : Except Fault Reaction :=
  let want (b : Builder) (place : Place) (fs : List Frame) : Except Fault Reaction :=
    .ok (.done { b with frames := .wanted place {} :: fs })
  match b.frames with
  | .wanted place p :: fs => do
    match ← b.openNode fs place p t with
    | .taken b => return .done b
    | .after b => return .again b
  | .prologue directives version :: _ =>
    match t with
    | .directive d => do return .done (← b.declare version d)
    | .documentStart => want b .document [.epilogue none]
    | .streamEnd =>
      if directives then .error .malformed else .ok (.done { b with frames := [.finished none] })
    | t =>
      if directives then .error .malformed
      else do return .done (← b.demand [.epilogue none] .bare t)
  | .blockSequence p items :: fs =>
    match t with
    | .blockEntry => want b .blockItem (.blockSequence p items :: fs)
    | .blockEnd => do return .done (← b.closeSequence fs p items)
    | _ => .error .malformed
  | .looseSequence p items :: fs =>
    match t with
    | .blockEntry => want b .looseItem (.looseSequence p items :: fs)
    | _ => do return .again (← b.closeSequence fs p items)
  | .blockMapping p entries (.colon k) :: fs =>
    match t with
    | .value => want b .blockPart (.blockMapping p entries (.value k) :: fs)
    | _ => .ok (.again { b with
        frames := .blockMapping p (entries ++ [(k, .empty)]) .idle :: fs })
  | .blockMapping p entries _ :: fs =>
    match t with
    | .key => want b .blockPart (.blockMapping p entries .key :: fs)
    | .blockEnd => do return .done (← b.closeMapping fs p entries)
    | _ => .error .malformed
  | .flowSequence p items ready :: fs =>
    match t with
    | .flowSequenceEnd => do return .done (← b.closeSequence fs p items)
    | t =>
      if ready then
        let fs := .flowSequence p items true :: fs
        if t = .key then want b .pairKey (.pair .key :: fs)
        else do return .done (← b.demand fs .flowItem t)
      else if t = .flowEntry then
        .ok (.done { b with frames := .flowSequence p items true :: fs })
      else .error .malformed
  | .pair (.colon k) :: fs =>
    match t with
    | .value => want b .pairValue (.pair (.value k) :: fs)
    | _ => .ok (.again { b with frames := deliver (.mapping .map [(k, .empty)]) fs })
  | .flowMapping p entries (.colon k) _ :: fs =>
    match t with
    | .value => want b .flowValue (.flowMapping p entries (.value k) false :: fs)
    | _ => .ok (.again { b with
        frames := .flowMapping p (entries ++ [(k, .empty)]) .idle false :: fs })
  | .flowMapping p entries _ ready :: fs =>
    match t with
    | .flowMappingEnd => do return .done (← b.closeMapping fs p entries)
    | t =>
      if ready then
        if t = .key then want b .flowKey (.flowMapping p entries .key false :: fs)
        else do return .done (← b.demand (.flowMapping p entries .lone false :: fs) .flowItem t)
      else if t = .flowEntry then
        .ok (.done { b with frames := .flowMapping p entries .idle true :: fs })
      else .error .malformed
  | .epilogue root :: _ =>
    match t with
    | .documentEnd => .ok (.done b)
    | .streamEnd => .ok (.done { b with frames := [.finished root] })
    | _ => .error .malformed
  | _ => .error .malformed

/-- Take a token, which may finish up to `n` frames. -/
def feedUpTo : Nat → Builder → Token → Except Fault Builder
  | 0, _, _ => .error .malformed
  | n + 1, b, t => do
    match ← b.react t with
    | .done b => return b
    | .again b => feedUpTo n b t

/-- Take a token.  Each time a token has to be given once more, a
    frame is finished or a missing value is filled in. -/
def feed (b : Builder) (t : Token) : Except Fault Builder :=
  feedUpTo (2 * b.frames.length + 1) b t

/-- The builder before any token. -/
def start : Builder := { frames := [.prologue false false] }

/-- The root of the document, if the text is read. -/
def root? (b : Builder) : Except Fault (Option Node) :=
  match b.frames with
  | [.finished root] => .ok root
  | _ => .error .malformed

end Builder

/-- The root of the one document in a text; none when the text holds
    no document.  A fault of the lexer counts once all tokens before
    it are read. -/
def compose (text : List Char) : Except Fault (Option Node) := do
  let lexemes := lex text
  let b ← lexemes.tokens.foldlM Builder.feed Builder.start
  match lexemes.fault with
  | some f => throw f
  | none => b.root?

end SpanPipeline.Yaml
