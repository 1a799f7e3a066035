import CmsMarkup.Yaml.Kind
import CmsMarkup.Yaml.Token

/-! The tree of nodes that the tokens of a YAML document describe. Every node knows its
kind, and an alias is replaced by the node it stands for. -/

namespace CmsMarkup.Yaml

inductive Node where
  | scalar (kind : Kind) (content : List Char)
  | sequence (kind : Kind) (items : List Node)
  | mapping (kind : Kind) (entries : List (Node × Node))
  /-- An alias of a collection that holds it. -/
  | enclosing (mapping : Bool)
  deriving Repr

namespace Node

def empty : Node := .scalar .null []

/-- The tokens left, and the nodes that names stand for, the newest first. -/
structure Reading where
  tokens : List Token
  anchors : List (List Char × Node)
  deriving Repr

namespace Reading

def advance (r : Reading) : Reading := { r with tokens := r.tokens.drop 1 }

def next? (r : Reading) : Option Token := r.tokens.head?

def bind (name : Option (List Char)) (n : Node) (r : Reading) : Reading :=
  match name with
  | some name => { r with anchors := (name, n) :: r.anchors }
  | none => r

end Reading

/-- What stands in front of a node. -/
structure Properties where
  anchor : Option (List Char)
  /-- The full tag. -/
  tag : Option (List Char)
  deriving Repr

def Properties.none : Properties := ⟨Option.none, Option.none⟩

/-- Handles that stand for the beginnings of tags. -/
abbrev Handles := List (List Char × List Char)

def resolveTag (handles : Handles) (handle suffix : List Char) : Option (List Char) :=
  if handle.isEmpty then some suffix else (handles.lookup handle).map (· ++ suffix)

/-- An anchor and a tag, in either order. -/
def properties (handles : Handles) (r : Reading) : Option (Properties × Reading) :=
  let withTag (handle suffix : List Char) (anchor : Option (List Char)) (r : Reading) :=
    (resolveTag handles handle suffix).map fun tag => (Properties.mk anchor (some tag), r)
  match r.tokens with
  | .anchor name :: .tag handle suffix :: rest => withTag handle suffix (some name) { r with tokens := rest }
  | .tag handle suffix :: .anchor name :: rest => withTag handle suffix (some name) { r with tokens := rest }
  | .anchor name :: rest => some (⟨some name, none⟩, { r with tokens := rest })
  | .tag handle suffix :: rest => withTag handle suffix none { r with tokens := rest }
  | _ => some (.none, r)

/-- The kind of a scalar. The tag of a single mark makes it plain. -/
def scalarKind (tag : Option (List Char)) (plain : Bool) (content : List Char) : Kind :=
  match tag with
  | some ['!'] => .ofPlain content
  | some tag => .ofTag tag
  | none => if plain then .ofPlain content else .str

/-- The kind of a node with properties and no content. -/
def emptyKind : Option (List Char) → Kind
  | some ['!'] => .str
  | some tag => .ofTag tag
  | none => .null

def collectionKind (tag : Option (List Char)) (mapping : Bool) : Kind :=
  match tag with
  | some ['!'] => if mapping then .map else .seq
  | some tag => .ofTag tag
  | none => if mapping then .map else .seq

mutual

/-- A node. `block` admits block collections, and `bare` also sequences that no
indentation begins. -/
def parse (handles : Handles) : Nat → Bool → Bool → Reading → Option (Node × Reading)
  | 0, _, _, _ => none
  | fuel + 1, block, bare, r =>
    match r.tokens with
    | .alias name :: _ => (r.anchors.lookup name).map fun n => (n, r.advance)
    | _ => do
      let (props, r) ← properties handles r
      guard (props.anchor.all fun name => (r.anchors.lookup name).isNone)
      let sequence (items : Reading → Option (List Node × Reading)) := do
        let (items, r) ← items (r.bind props.anchor (.enclosing false))
        let n := Node.sequence (collectionKind props.tag false) items
        some (n, r.bind props.anchor n)
      let mapping (entries : Reading → Option (List (Node × Node) × Reading)) := do
        let (entries, r) ← entries (r.bind props.anchor (.enclosing true))
        let n := Node.mapping (collectionKind props.tag true) entries
        some (n, r.bind props.anchor n)
      match r.next? with
      | some (.scalar content plain) =>
        let n := Node.scalar (scalarKind props.tag plain content) content
        some (n, r.advance.bind props.anchor n)
      | some .flowSequenceStart => sequence fun r => flowItems handles fuel true r.advance
      | some .flowMappingStart => mapping fun r => flowEntries handles fuel true r.advance
      | next =>
        if bare && next == some .blockEntry then sequence (bareItems handles fuel)
        else if block && next == some .blockSequenceStart then
          sequence fun r => blockItems handles fuel r.advance
        else if block && next == some .blockMappingStart then
          mapping fun r => blockEntries handles fuel r.advance
        else if props.anchor.isSome || props.tag.isSome then
          let n := Node.scalar (emptyKind props.tag) []
          some (n, r.bind props.anchor n)
        else none

/-- A node, or the empty one before a token that can not begin one here. -/
def parseOr (handles : Handles) : Nat → Bool → Bool → List Token → Reading →
    Option (Node × Reading)
  | 0, _, _, _, _ => none
  | fuel + 1, block, bare, ends, r =>
    if r.next?.any (· ∈ ends) then some (.empty, r) else parse handles fuel block bare r

def blockItems (handles : Handles) : Nat → Reading → Option (List Node × Reading)
  | 0, _ => none
  | fuel + 1, r =>
    match r.next? with
    | some .blockEntry => do
      let (n, r) ← parseOr handles fuel true false [.blockEntry, .blockEnd] r.advance
      let (ns, r) ← blockItems handles fuel r
      some (n :: ns, r)
    | some .blockEnd => some ([], r.advance)
    | _ => none

def bareItems (handles : Handles) : Nat → Reading → Option (List Node × Reading)
  | 0, _ => none
  | fuel + 1, r =>
    match r.next? with
    | some .blockEntry => do
      let (n, r) ← parseOr handles fuel true false [.blockEntry, .key, .value, .blockEnd] r.advance
      let (ns, r) ← bareItems handles fuel r
      some (n :: ns, r)
    | _ => some ([], r)

def blockEntries (handles : Handles) : Nat → Reading → Option (List (Node × Node) × Reading)
  | 0, _ => none
  | fuel + 1, r =>
    match r.next? with
    | some .key => do
      let (k, r) ← parseOr handles fuel true true [.key, .value, .blockEnd] r.advance
      let (v, r) ← match r.next? with
        | some .value => parseOr handles fuel true true [.key, .value, .blockEnd] r.advance
        | _ => some (.empty, r)
      let (entries, r) ← blockEntries handles fuel r
      some ((k, v) :: entries, r)
    | some .blockEnd => some ([], r.advance)
    | _ => none

/-- The value behind a key in a flow collection that ends with `close`. -/
def flowValue (handles : Handles) : Nat → Token → Reading → Option (Node × Reading)
  | 0, _, _ => none
  | fuel + 1, close, r =>
    match r.next? with
    | some .value => parseOr handles fuel false false [.flowEntry, close] r.advance
    | _ => some (.empty, r)

/-- The items of a flow sequence. One that begins with a key is a mapping of one entry; a
key without content takes up the token behind it. -/
def flowItems (handles : Handles) : Nat → Bool → Reading → Option (List Node × Reading)
  | 0, _, _ => none
  | fuel + 1, first, r => do
    if r.next? == some .flowSequenceEnd then some ([], r.advance)
    else
      guard (first || r.next? == some .flowEntry)
      let r := if first then r else r.advance
      match r.next? with
      | some .flowSequenceEnd => some ([], r.advance)
      | some .key =>
        let r := r.advance
        let (k, r) ←
          if r.next?.any (· ∈ [.value, .flowEntry, .flowSequenceEnd]) then some (Node.empty, r.advance)
          else parse handles fuel false false r
        let (v, r) ← flowValue handles fuel .flowSequenceEnd r
        let (ns, r) ← flowItems handles fuel false r
        some (.mapping .map [(k, v)] :: ns, r)
      | _ =>
        let (n, r) ← parse handles fuel false false r
        let (ns, r) ← flowItems handles fuel false r
        some (n :: ns, r)

def flowEntries (handles : Handles) : Nat → Bool → Reading → Option (List (Node × Node) × Reading)
  | 0, _, _ => none
  | fuel + 1, first, r => do
    if r.next? == some .flowMappingEnd then some ([], r.advance)
    else
      guard (first || r.next? == some .flowEntry)
      let r := if first then r else r.advance
      match r.next? with
      | some .flowMappingEnd => some ([], r.advance)
      | some .key =>
        let (k, r) ← parseOr handles fuel false false [.value, .flowEntry, .flowMappingEnd] r.advance
        let (v, r) ← flowValue handles fuel .flowMappingEnd r
        let (entries, r) ← flowEntries handles fuel false r
        some ((k, v) :: entries, r)
      | _ =>
        let (k, r) ← parse handles fuel false false r
        let (entries, r) ← flowEntries handles fuel false r
        some ((k, .empty) :: entries, r)

end

/-! ### Documents -/

def defaultHandles : Handles := [(['!'], ['!']), (['!', '!'], Kind.standardLead)]

/-- Directives give one version at most, and no handle twice. -/
def directives (version : Bool) (handles : Handles) : List Token → Option (Handles × List Token)
  | .directive (.version major minor) :: rest => do
    guard (!version && major == 1 && (minor == 1 || minor == 2))
    directives true handles rest
  | .directive (.tag handle lead) :: rest => do
    guard (handles.lookup handle).isNone
    directives version ((handle, lead) :: handles) rest
  | rest => some (handles, rest)

/-- The root of a document behind its directives; none if it has no content. -/
def root (handles : Handles) (tokens : List Token) : Option (Node × List Token) := do
  let (n, r) ← parse handles (2 * tokens.length + 2) true false ⟨tokens, []⟩
  return (n, r.tokens)

/-- The one document of a token list. Without tokens it is empty. -/
def ofTokens? (tokens : List Token) : Option Node := do
  let (n, rest) ←
    match tokens with
    | [] => some (.empty, [])
    | .directive _ :: _ => do
      let (own, rest) ← directives false [] tokens
      match rest with
      | .documentStart :: rest => content (own ++ defaultHandles) rest
      | _ => none
    | .documentStart :: rest => content defaultHandles rest
    | _ => root defaultHandles tokens
  guard (rest.all (· == .documentEnd))
  return n
where
  content (handles : Handles) (tokens : List Token) : Option (Node × List Token) :=
    match tokens with
    | [] => some (.empty, [])
    | .directive _ :: _ => some (.empty, tokens)
    | .documentStart :: _ => some (.empty, tokens)
    | .documentEnd :: _ => some (.empty, tokens)
    | _ => root handles tokens

def ofText? (cs : List Char) : Option Node := do ofTokens? (← tokens? cs)

end Node

end CmsMarkup.Yaml
