import LogOperator.Yaml.Node
import LogOperator.Yaml.Token.Reader

/-!
# LogOperator.Yaml.Node.Reader

The document of a YAML stream, by the grammar of nodes.  A stream must hold exactly one document.

A missing node reads as a plain scalar without text.  The readers share one state: the tokens that
are left and the anchors so far.
-/

namespace LogOperator.Yaml

/-! ## State -/

/-- A document that is partly read. -/
structure Reading where
  rest : List Token
  /-- What the handles of tags stand for. -/
  handles : List (String × String)
  /-- The numbers of the anchors, by name. -/
  names : List (String × Nat)
  /-- How many anchors there are so far. -/
  count : Nat
  /-- The marked nodes that are complete. -/
  marked : List Marked

namespace Reading

/-- A step that may fail. -/
abbrev Step := StateT Reading Option

def peek : Step (Option Token) := do
  return (← get).rest.head?

def next : Step Unit :=
  modify fun r => { r with rest := r.rest.tail }

/-- The next token is one of those given. -/
def sees (ts : List Token) : Step Bool := do
  return (← peek).any ts.contains

def missing : Node := .scalar none .plain ""

/-! ## Anchors and tags -/

/-- Numbers a new anchor by how many names are known, and gives its number and its position. -/
def newAnchor (name : String) : Step (Nat × Nat) := do
  let r ← get
  let number := r.names.length
  set { r with
    names := (name, number) :: r.names.filter (·.1 != name)
    count := r.count + 1 }
  return (number, r.count)

/-- The number of the anchor that an alias names. -/
def anchorNumber (name : String) : Step Nat := do
  (← get).names.lookup name

def tagText (handle suffix : String) : Step String := do
  if handle.isEmpty then return suffix
  else
    let start ← (← get).handles.lookup handle
    return start ++ suffix

/-- The anchor and the tag before a node, in either order. -/
def properties : Step (Option String × Option String) := do
  match ← peek with
  | some (.anchor name) =>
    next
    match ← peek with
    | some (.tag handle suffix) =>
      next
      return (some name, some (← tagText handle suffix))
    | _ => return (some name, none)
  | some (.tag handle suffix) =>
    next
    match ← peek with
    | some (.anchor name) =>
      next
      return (some name, some (← tagText handle suffix))
    | _ => return (none, some (← tagText handle suffix))
  | _ => return (none, none)

/-! ## Nodes -/

/-- Where a node stands. -/
inductive Place where
  | flow
  | block
  /-- After a key or a colon in a block, where a sequence needs no indentation. -/
  | member

mutual

def node (place : Place) : Nat → Step Node
  | 0 => failure
  | n + 1 => do
    if let some (.alias name) ← peek then
      next
      return .alias (← anchorNumber name)
    let (anchor, tag) ← properties
    match anchor with
    | none => content place tag false n
    | some name =>
      let (number, position) ← newAnchor name
      let found ← content place tag true n
      modify fun r => { r with marked := ⟨number, position, found⟩ :: r.marked }
      return found

/-- A node after its anchor and tag. -/
def content (place : Place) (tag : Option String) (anchored : Bool) : Nat → Step Node
  | 0 => failure
  | n + 1 => do
    match place, ← peek with
    | .member, some .item => return .sequence tag (← bareItems n)
    | _, some (.scalar style text) =>
      next
      return .scalar (if tag = some "!" then none else tag) style text
    | _, some .flowSequenceStart =>
      next
      return .sequence tag (← flowItems true n)
    | _, some .flowMappingStart =>
      next
      return .mapping tag (← flowMembers true n)
    | .flow, _ => absent
    | _, some .blockSequenceStart =>
      next
      return .sequence tag (← blockItems n)
    | _, some .blockMappingStart =>
      next
      return .mapping tag (← blockMembers n)
    | _, _ => absent
where
  /-- Nothing follows, which only an anchor or a tag allows. -/
  absent : Step Node :=
    if anchored || tag.isSome then return .scalar tag .plain "" else failure

/-- A node, or a missing one where one of the given tokens is next. -/
def nodeUnless (ends : List Token) (place : Place) : Nat → Step Node
  | 0 => failure
  | n + 1 => do
    if ← sees ends then return missing else node place n

def blockItems : Nat → Step (List Node)
  | 0 => failure
  | n + 1 => do
    match ← peek with
    | some .item =>
      next
      let v ← nodeUnless [.item, .blockEnd] .block n
      return v :: (← blockItems n)
    | some .blockEnd =>
      next
      return []
    | _ => failure

/-- The items of a sequence that is not indented. -/
def bareItems : Nat → Step (List Node)
  | 0 => failure
  | n + 1 => do
    match ← peek with
    | some .item =>
      next
      let v ← nodeUnless [.item, .key, .value, .blockEnd] .block n
      return v :: (← bareItems n)
    | _ => return []

def blockMembers : Nat → Step (List (Node × Node))
  | 0 => failure
  | n + 1 => do
    match ← peek with
    | some .key =>
      next
      let k ← nodeUnless [.key, .value, .blockEnd] .member n
      let v ← if ← sees [.value] then do
          next
          nodeUnless [.key, .value, .blockEnd] .member n
        else pure missing
      return (k, v) :: (← blockMembers n)
    | some .blockEnd =>
      next
      return []
    | _ => failure

/-- The items of a flow sequence to its end.  A member of a mapping may stand as an item. -/
def flowItems (first : Bool) : Nat → Step (List Node)
  | 0 => failure
  | n + 1 => do
    if ← sees [.flowSequenceEnd] then
      next
      return []
    unless first do
      if ← sees [.comma] then next else failure
    match ← peek with
    | some .flowSequenceEnd =>
      next
      return []
    | some .key =>
      next
      let k ← if ← sees [.value, .comma, .flowSequenceEnd] then do
          next
          pure missing
        else node .flow n
      let v ← if ← sees [.value] then do
          next
          nodeUnless [.comma, .flowSequenceEnd] .flow n
        else pure missing
      return .mapping none [(k, v)] :: (← flowItems false n)
    | _ =>
      let v ← node .flow n
      return v :: (← flowItems false n)

def flowMembers (first : Bool) : Nat → Step (List (Node × Node))
  | 0 => failure
  | n + 1 => do
    if ← sees [.flowMappingEnd] then
      next
      return []
    unless first do
      if ← sees [.comma] then next else failure
    match ← peek with
    | some .flowMappingEnd =>
      next
      return []
    | some .key =>
      next
      let k ← nodeUnless [.value, .comma, .flowMappingEnd] .flow n
      let v ← if ← sees [.value] then do
          next
          nodeUnless [.comma, .flowMappingEnd] .flow n
        else pure missing
      return (k, v) :: (← flowMembers false n)
    | _ =>
      let k ← node .flow n
      return (k, missing) :: (← flowMembers false n)

end

/-! ## Documents -/

/-- The version of the format that a document may claim. -/
def isSupported (major minor : Nat) : Bool :=
  major == 1 && (minor == 1 || minor == 2)

/-- The directives before a document: whether a version was claimed, and the handles explained. -/
def directives (claimed : Bool) (handles : List (String × String)) :
    List Token → Option ((Bool × List (String × String)) × List Token)
  | .version major minor :: ts =>
    if claimed || !isSupported major minor then none else directives true handles ts
  | .handle name start :: ts =>
    if (handles.lookup name).isSome then none else directives claimed ((name, start) :: handles) ts
  | ts => some ((claimed, handles), ts)

/-- The handles that every document has, unless it explains them itself. -/
def standardHandles : List (String × String) :=
  [("!", "!"), ("!!", "tag:yaml.org,2002:")]

/-- The root of a document and the tokens after it. -/
def document? (ts : List Token) : Option (Value × List Token) := do
  let ((claimed, handles), content) ← directives false [] ts
  let explicit := claimed || !handles.isEmpty || content.head? == some .documentStart
  let content ← if !explicit then some content
    else if content.head? = some .documentStart then some content.tail else none
  let ends := [Token.documentStart, .documentEnd]
  let isDirective : Token → Bool
    | .version .. | .handle .. => true
    | _ => false
  let isEmpty := explicit && content.head?.all fun t => ends.contains t || isDirective t
  let start : Reading := ⟨content, handles ++ standardHandles, [], 0, []⟩
  let (root, r) ← if isEmpty then some (missing, start)
    else (node .block (3 * content.length + 3)).run start
  return (⟨r.marked, root⟩, r.rest)

end Reading

/-- The document of a stream that holds nothing but it. -/
def Value.ofTokens? (ts : List Token) : Option Value := do
  let (v, rest) ← Reading.document? ts
  if rest.all (· == .documentEnd) then return v else none

/-- The document of a text. -/
def Value.ofText? (s : String) : Option Value :=
  (Token.ofText? s).bind ofTokens?

end LogOperator.Yaml
