import Mise.Yaml.Token

/-!
# Nodes of YAML

The tokens of a text are put together to the nodes of its only document. A node may carry a tag,
which stays on it under its full name, and an anchor. An alias stands for the node with an anchor
that came before it; it is not replaced here, because it may stand inside that node.

Anchors are numbered by how many names are known when they come up. A name that comes up again
takes the next number, but is not counted as another name.

## Main definitions

* `Node`: The nodes.
* `Anchors`: The anchors so far.
* `Parser.node?`: The node at the start of tokens.
* `Document`: A node with the nodes that its aliases stand for.
* `Document.read?`: The document that a text is.
-/

namespace Mise

namespace Yaml

/-- The nodes of a document: scalars, of which the plain ones are marked, sequences, mappings and
    aliases. -/
inductive Node where
  | scalar (text : String) (plain : Bool) (tag : Option String)
  | sequence (items : List Node) (tag : Option String)
  | mapping (entries : List (Node × Node)) (tag : Option String)
  | aliasOf (id : Nat)
  deriving Inhabited

/-- The anchors so far: the number of each name, and the node of each number. Nodes are known by
    the order in which they start, since an anchored node is complete only after those inside
    it. -/
structure Anchors where
  names : List (String × Nat)
  starts : List (Nat × Nat)
  nodes : List (Nat × Node)
  started : Nat

namespace Anchors

/-- No anchors. -/
def empty : Anchors := ⟨[], [], [], 0⟩

/-- Start the node with an anchor. -/
def start (a : Anchors) (name : String) : Anchors :=
  let id := a.names.length
  { a with
    names := (name, id) :: a.names.filter fun n => n.1 != name
    starts := (id, a.started) :: a.starts
    started := a.started + 1 }

/-- Complete the node that started as the given one. -/
def complete (a : Anchors) (order : Nat) (n : Node) : Anchors :=
  { a with nodes := (order, n) :: a.nodes }

/-- The node of a number. -/
def node? (a : Anchors) (id : Nat) : Option Node :=
  (a.starts.lookup id).bind fun order => a.nodes.lookup order

end Anchors

/-- What stands before the content of a node. -/
structure Attached where
  anchor : Option String
  tag : Option String

namespace Parser

/-- The handles that need no declaration. -/
def defaultHandles : List (String × String) :=
  [("!", "!"), ("!!", "tag:yaml.org,2002:")]

/-- The full name of a tag. Its handle has to be declared. -/
def tagName? (handles : List (String × String)) (t : RawTag) : Option String :=
  if t.handle = "" then some t.suffix
  else ((handles ++ defaultHandles).lookup t.handle).map (· ++ t.suffix)

/-- The anchor and the tag of a node, in either order, and the tokens after them. -/
def attached? (handles : List (String × String)) : List Token → Option (Attached × List Token)
  | .anchor name :: .tag t :: rest =>
    (tagName? handles t).map fun tag => (⟨some name, some tag⟩, rest)
  | .tag t :: .anchor name :: rest =>
    (tagName? handles t).map fun tag => (⟨some name, some tag⟩, rest)
  | .anchor name :: rest => some (⟨some name, none⟩, rest)
  | .tag t :: rest => (tagName? handles t).map fun tag => (⟨none, some tag⟩, rest)
  | rest => some (⟨none, none⟩, rest)

/-- The scalar that nothing at all stands for. -/
def emptyScalar (tag : Option String) : Node :=
  .scalar "" true tag

/-- A result with the anchors and tokens after it. -/
abbrev Outcome (α : Type) := Option (α × Anchors × List Token)

/-- Whether no entry follows in a block collection, so that what should stand here is empty. -/
def endsEntry : List Token → Bool
  | .entry :: _ => true
  | .blockEnd :: _ => true
  | _ => false

/-- Whether no key or value follows in a block mapping. -/
def endsMember : List Token → Bool
  | .key :: _ => true
  | .value :: _ => true
  | .blockEnd :: _ => true
  | _ => false

/-- Whether no node follows in a flow collection after a key. -/
def endsFlowKey : List Token → Bool
  | .value :: _ => true
  | .comma :: _ => true
  | .flowMappingEnd :: _ => true
  | _ => false

mutual

/-- The node at the start of tokens. Block collections may only start in a block, and a sequence
    without indentation only as the value or key of a block mapping. No more than four calls are
    made for a token. -/
def node? (handles : List (String × String)) (inBlock inMapping : Bool) :
    (fuel : Nat) → Anchors → List Token → Outcome Node
  | 0, _, _ => none
  | _ + 1, a, .aliasOf name :: rest =>
    (a.names.lookup name).map fun id => (.aliasOf id, a, rest)
  | fuel + 1, a, ts =>
    match attached? handles ts with
    | none => none
    | some (attached, ts) =>
      match attached.anchor with
      | none => content? handles inBlock inMapping attached fuel a ts
      | some name =>
        match content? handles inBlock inMapping attached fuel (a.start name) ts with
        | none => none
        | some (n, after, rest) => some (n, after.complete a.started n, rest)

/-- The content of a node. -/
def content? (handles : List (String × String)) (inBlock inMapping : Bool) (attached : Attached) :
    (fuel : Nat) → Anchors → List Token → Outcome Node
  | 0, _, _ => none
  | fuel + 1, a, ts =>
    match ts with
    | .scalar text plain :: rest => some (.scalar text plain attached.tag, a, rest)
    | .flowSequence :: rest =>
      (flowItems? handles true fuel a rest).map fun (items, r) => (.sequence items attached.tag, r)
    | .flowMapping :: rest =>
      (flowMembers? handles true fuel a rest).map fun (es, r) => (.mapping es attached.tag, r)
    | .entry :: _ =>
      if inMapping then
        (looseItems? handles fuel a ts).map fun (items, r) => (.sequence items attached.tag, r)
      else bare? attached a ts
    | .blockSequence :: rest =>
      if inBlock then
        (items? handles fuel a rest).map fun (items, r) => (.sequence items attached.tag, r)
      else bare? attached a ts
    | .blockMapping :: rest =>
      if inBlock then
        (members? handles fuel a rest).map fun (es, r) => (.mapping es attached.tag, r)
      else bare? attached a ts
    | _ => bare? attached a ts

/-- A node without content, which has to have an anchor or a tag. -/
def bare? (attached : Attached) (a : Anchors) (ts : List Token) : Outcome Node :=
  if attached.anchor.isSome || attached.tag.isSome then some (emptyScalar attached.tag, a, ts)
  else none

/-- The items of a block sequence, up to and including its end. -/
def items? (handles : List (String × String)) :
    (fuel : Nat) → Anchors → List Token → Outcome (List Node)
  | 0, _, _ => none
  | _ + 1, a, .blockEnd :: rest => some ([], a, rest)
  | fuel + 1, a, .entry :: rest =>
    let item := if endsEntry rest then some (emptyScalar none, a, rest)
      else node? handles true false fuel a rest
    match item with
    | none => none
    | some (n, a, rest) => (items? handles fuel a rest).map fun (ns, r) => (n :: ns, r)
  | _, _, _ => none

/-- The items of a sequence without indentation, which ends where no entry follows. -/
def looseItems? (handles : List (String × String)) :
    (fuel : Nat) → Anchors → List Token → Outcome (List Node)
  | 0, _, _ => none
  | fuel + 1, a, .entry :: rest =>
    let item := if endsEntry rest || endsMember rest then some (emptyScalar none, a, rest)
      else node? handles true false fuel a rest
    match item with
    | none => none
    | some (n, a, rest) => (looseItems? handles fuel a rest).map fun (ns, r) => (n :: ns, r)
  | _, a, rest => some ([], a, rest)

/-- The key or value that follows in a block mapping. -/
def member? (handles : List (String × String)) :
    (fuel : Nat) → Anchors → List Token → Outcome Node
  | 0, _, _ => none
  | fuel + 1, a, ts =>
    if endsMember ts then some (emptyScalar none, a, ts) else node? handles true true fuel a ts

/-- The members of a block mapping, up to and including its end. -/
def members? (handles : List (String × String)) :
    (fuel : Nat) → Anchors → List Token → Outcome (List (Node × Node))
  | 0, _, _ => none
  | _ + 1, a, .blockEnd :: rest => some ([], a, rest)
  | fuel + 1, a, .key :: rest =>
    match member? handles fuel a rest with
    | none => none
    | some (key, a, rest) =>
      let value := match rest with
        | .value :: rest => member? handles fuel a rest
        | rest => some (emptyScalar none, a, rest)
      match value with
      | none => none
      | some (value, a, rest) =>
        (members? handles fuel a rest).map fun (es, r) => ((key, value) :: es, r)
  | _, _, _ => none

/-- The items of a flow sequence, up to and including its end. All but the first follow a comma,
    and a comma may also stand before the end. -/
def flowItems? (handles : List (String × String)) (first : Bool) :
    (fuel : Nat) → Anchors → List Token → Outcome (List Node)
  | 0, _, _ => none
  | _ + 1, a, .flowSequenceEnd :: rest => some ([], a, rest)
  | fuel + 1, a, ts =>
    let ts := if first then some ts else match ts with
      | .comma :: rest => some rest
      | _ => none
    match ts with
    | none => none
    | some (.flowSequenceEnd :: rest) => some ([], a, rest)
    | some (.key :: rest) =>
      match pair? handles fuel a rest with
      | none => none
      | some (e, a, rest) =>
        (flowItems? handles false fuel a rest).map fun (ns, r) => (.mapping [e] none :: ns, r)
    | some ts =>
      match node? handles false false fuel a ts with
      | none => none
      | some (n, a, rest) => (flowItems? handles false fuel a rest).map fun (ns, r) => (n :: ns, r)

/-- The only member of a mapping without braces in a flow sequence. Where a key is missing, so is
    its value. -/
def pair? (handles : List (String × String)) :
    (fuel : Nat) → Anchors → List Token → Outcome (Node × Node)
  | 0, _, _ => none
  | fuel + 1, a, ts =>
    let ends (ts : List Token) : Bool := match ts with
      | .comma :: _ => true
      | .flowSequenceEnd :: _ => true
      | _ => false
    let key := match ts with
      | .value :: rest => some (emptyScalar none, a, rest)
      | ts => if ends ts then some (emptyScalar none, a, ts.drop 1)
        else node? handles false false fuel a ts
    match key with
    | none => none
    | some (key, a, .value :: rest) =>
      if ends rest then some ((key, emptyScalar none), a, rest)
      else (node? handles false false fuel a rest).map fun (value, r) => ((key, value), r)
    | some (key, a, rest) => some ((key, emptyScalar none), a, rest)

/-- The members of a flow mapping, up to and including its end. -/
def flowMembers? (handles : List (String × String)) (first : Bool) :
    (fuel : Nat) → Anchors → List Token → Outcome (List (Node × Node))
  | 0, _, _ => none
  | _ + 1, a, .flowMappingEnd :: rest => some ([], a, rest)
  | fuel + 1, a, ts =>
    let ts := if first then some ts else match ts with
      | .comma :: rest => some rest
      | _ => none
    match ts with
    | none => none
    | some (.flowMappingEnd :: rest) => some ([], a, rest)
    | some (.key :: rest) =>
      let key := if endsFlowKey rest then some (emptyScalar none, a, rest)
        else node? handles false false fuel a rest
      match key with
      | none => none
      | some (key, a, rest) =>
        let value := match rest with
          | .value :: rest =>
            if endsFlowValue rest then some (emptyScalar none, a, rest)
            else node? handles false false fuel a rest
          | rest => some (emptyScalar none, a, rest)
        match value with
        | none => none
        | some (value, a, rest) =>
          (flowMembers? handles false fuel a rest).map fun (es, r) => ((key, value) :: es, r)
    | some ts =>
      match node? handles false false fuel a ts with
      | none => none
      | some (key, a, rest) =>
        (flowMembers? handles false fuel a rest).map fun (es, r) =>
          ((key, emptyScalar none) :: es, r)

/-- Whether no node follows in a flow mapping after a colon. -/
def endsFlowValue : List Token → Bool
  | .comma :: _ => true
  | .flowMappingEnd :: _ => true
  | _ => false

end

/-- The directives at the start of tokens: whether a version has been given, and the handles that
    have been declared. Nothing may be given twice, and only two versions are known. -/
def directives? (version : Bool) (handles : List (String × String)) :
    List Token → Option (List (String × String) × List Token)
  | .version major minor :: rest =>
    if version || major != 1 || (minor != 1 && minor != 2) then none
    else directives? true handles rest
  | .tagHandle handle names :: rest =>
    if handles.any fun h => h.1 == handle then none
    else directives? version ((handle, names) :: handles) rest
  | rest => some (handles, rest)

end Parser

/-- A node with the nodes that its aliases stand for. -/
structure Document where
  root : Node
  anchors : Anchors

namespace Document

/-- The document of a text in which there is none. -/
def blank : Document := ⟨.scalar "" true none, .empty⟩

/-- The end of a text after its document. -/
def atEnd : List Token → Bool
  | .documentEnd :: rest => atEnd rest
  | .textEnd :: _ => true
  | _ => false

/-- The document that starts here, if there is content. -/
def content? (handles : List (String × String)) (ts : List Token) : Option Document :=
  match Parser.node? handles true false (4 * ts.length + 8) .empty ts with
  | none => none
  | some (root, anchors, rest) => if atEnd rest then some ⟨root, anchors⟩ else none

/-- The document after a mark that starts it. -/
def marked? (handles : List (String × String)) (ts : List Token) : Option Document :=
  if atEnd ts then some blank
  else match ts with
    | .documentEnd :: _ => none
    | _ => content? handles ts

/-- The only document of a text. A text that only holds comments has an empty one. -/
def ofTokens? (ts : List Token) : Option Document :=
  match ts with
  | .textEnd :: _ => some blank
  | .documentStart :: rest => marked? [] rest
  | .version .. :: _ | .tagHandle .. :: _ =>
    match Parser.directives? false [] ts with
    | some (handles, .documentStart :: rest) => marked? handles rest
    | _ => none
  | _ => content? [] ts

/-- The document that a text is. -/
def read? (text : String) : Option Document :=
  (Token.scan? text).bind ofTokens?

end Document

end Yaml

end Mise
