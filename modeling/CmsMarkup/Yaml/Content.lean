import CmsMarkup.Text.Base64
import CmsMarkup.Value
import CmsMarkup.Yaml.Node

/-! The values that the nodes of a document stand for. A fault of an outer collection comes
before those of the collections in it, and of one depth the first one counts. -/

namespace CmsMarkup.Yaml

inductive Fault where
  /-- The text is no document, or a node does not fit its kind. -/
  | malformed
  | number (f : NumberFault)
  | noTruthValue
  | noTimestamp
  /-- A time is looked for in a mapping. -/
  | noText
  | calendar (f : CalendarFault)
  deriving DecidableEq, Repr

/-- The message of a fault, for those that have one. -/
def Fault.message? : Fault → Option String
  | .number f => f.message?
  | .calendar f => some f.message
  | _ => none

/-- A value with the faults found in it and their depths. -/
structure Built where
  value : Value
  faults : List (Nat × Fault)
  deriving Repr

namespace Built

def fault (depth : Nat) (f : Fault) : Built := ⟨.null, [(depth, f)]⟩

def ofExcept (depth : Nat) : Except Fault Value → Built
  | .ok v => ⟨v, []⟩
  | .error f => fault depth f

/-- Faults of lesser depth win. -/
def first? (faults : List (Nat × Fault)) : Option (Nat × Fault) :=
  faults.foldl (fun best f =>
    match best with
    | none => some f
    | some b => if f.1 < b.1 then some f else some b) none

end Built

def timestampValue (cs : List Char) : Except Fault Value :=
  match Timestamp.read? (Kind.withoutLastBreak cs) with
  | none => .error .noTimestamp
  | some ⟨date, _, none⟩ => (date.check.map Value.date).mapError .calendar
  | some ⟨date, _, some t⟩ =>
    let moment : Moment :=
      ⟨date, t.hour, t.minute, t.second, Timestamp.microseconds t.fraction, t.offset⟩
    (moment.check.map Value.moment).mapError .calendar

def binaryValue (cs : List Char) : Except Fault Value :=
  if cs.all (·.toNat < 0x80) then
    match Base64.decode? cs with
    | some content => .ok (.bytes content)
    | none => .error .malformed
  else .error .malformed

/-- The value of a text of some kind; collections have none. -/
def scalarValue (kind : Kind) (cs : List Char) : Except Fault Value :=
  match kind with
  | .null => .ok .null
  | .bool =>
    match Kind.boolTexts.lookup (String.ofList (lowercase cs)) with
    | some b => .ok (.bool b)
    | none => .error .noTruthValue
  | .int => ((integerOf cs).map Value.int).mapError .number
  | .float => ((doubleOf cs).map Value.double).mapError .number
  | .binary => binaryValue cs
  | .timestamp => timestampValue cs
  | .str => .ok (.text (String.ofList cs))
  | _ => .error .malformed

/-- Keys of maps and members of sets can not be changed later. -/
def isKey : Value → Bool
  | .list _ => false
  | .set _ => false
  | .map _ => false
  | .enclosing _ => false
  | _ => true

namespace Kind

def isCollection (k : Kind) : Bool := k == .seq || k == .map || k == .pairs || k == .set

end Kind

namespace Node

def kind : Node → Kind
  | .scalar k _ => k
  | .sequence k _ => k
  | .mapping k _ => k
  | .enclosing isMap => if isMap then .map else .seq

mutual

/-- The text of a scalar, or of the entry that stands for its mapping. -/
def content? : Node → Option (List Char)
  | .scalar _ cs => some cs
  | .mapping _ entries => entryContent? entries
  | _ => none

def entryContent? : List (Node × Node) → Option (List Char)
  | [] => none
  | (k, v) :: rest => if k.kind = .value then content? v else entryContent? rest

end

/-- The value of a mapping that is taken for a text of some kind. A time is read off the
mapping itself, which is no text. -/
def entryValue (kind : Kind) (cs : List Char) : Except Fault Value :=
  if kind = .timestamp then .error .noText else scalarValue kind cs

/-- A mapping, or a key that stands for one, that should have a text. -/
def ofContent (depth : Nat) (kind : Kind) (content : Option (List Char)) : Built :=
  match content with
  | some cs => .ofExcept depth (entryValue kind cs)
  | none => .fault depth .malformed

/-- Keys and values as a map. -/
def assemble (depth : Nat) (pairs : List (Built × Built)) : Built :=
  ⟨.map (pairs.foldl (fun entries (k, v) => Value.put k.value v.value entries) []),
   pairs.flatMap fun (k, v) =>
     k.faults ++ (if isKey k.value then [] else [(depth, Fault.malformed)]) ++ v.faults⟩

def keysOf : Value → Value
  | .map entries => .set (entries.map (·.1))
  | v => v

mutual

/-- The value of a node at a depth; what a collection holds lies one deeper. -/
def build (depth : Nat) : Node → Built
  | .scalar kind cs =>
    if kind.isCollection then .fault (depth + 1) .malformed
    else .ofExcept depth (scalarValue kind cs)
  | .sequence kind items =>
    if kind = .seq then
      let built := buildItems (depth + 1) items
      ⟨.list (built.map Built.value), built.flatMap Built.faults⟩
    else if kind = .pairs then
      let built := buildPairs (depth + 1) items
      ⟨.list (built.map Built.value), built.flatMap Built.faults⟩
    else .fault (if kind.isCollection then depth + 1 else depth) .malformed
  | .mapping kind entries =>
    if kind = .map || kind = .set then
      match buildEntries (depth + 1) entries with
      | none => .fault (depth + 1) .malformed
      | some (merged, own) =>
        let built := assemble (depth + 1) (merged ++ own)
        if kind = .map then built else ⟨keysOf built.value, built.faults⟩
    else if kind.isCollection then .fault (depth + 1) .malformed
    else ofContent depth kind (entryContent? entries)
  | .enclosing isMap => ⟨.enclosing isMap, []⟩

def buildItems (depth : Nat) : List Node → List Built
  | [] => []
  | n :: rest => build depth n :: buildItems depth rest

/-- Every item is a mapping of one entry. -/
def buildPairs (depth : Nat) : List Node → List Built
  | [] => []
  | n :: rest => buildPair depth n :: buildPairs depth rest

def buildPair (depth : Nat) : Node → Built
  | .mapping _ [(k, v)] =>
    let k := build depth k
    let v := build depth v
    ⟨.pair k.value v.value, k.faults ++ v.faults⟩
  | _ => .fault depth .malformed

/-- The entries merged into a mapping, and its own; none if something else than mappings
should be merged. -/
def buildEntries (depth : Nat) :
    List (Node × Node) → Option (List (Built × Built) × List (Built × Built))
  | [] => some ([], [])
  | (k, v) :: rest =>
    if k.kind = .merge then
      match mergedEntries depth v, buildEntries depth rest with
      | some entries, some (merged, own) => some (entries ++ merged, own)
      | _, _ => none
    else
      let key := if k.kind = .value then ofContent depth .str (content? k) else build depth k
      let value := build depth v
      (buildEntries depth rest).map fun (merged, own) => (merged, (key, value) :: own)

/-- The entries of a mapping, or of a sequence of mappings, the last one first. -/
def mergedEntries (depth : Nat) : Node → Option (List (Built × Built))
  | .mapping _ entries => (buildEntries depth entries).map fun (merged, own) => merged ++ own
  | .sequence _ items => mergedItems depth items
  | .enclosing _ => some []
  | .scalar .. => none

def mergedItems (depth : Nat) : List Node → Option (List (Built × Built))
  | [] => some []
  | n :: rest =>
    match mergedMapping depth n, mergedItems depth rest with
    | some entries, some later => some (later ++ entries)
    | _, _ => none

def mergedMapping (depth : Nat) : Node → Option (List (Built × Built))
  | .mapping _ entries => (buildEntries depth entries).map fun (merged, own) => merged ++ own
  | .enclosing _ => some []
  | _ => none

end

def value (n : Node) : Except Fault Value :=
  let built := n.build 0
  match Built.first? built.faults with
  | some (_, f) => .error f
  | none => .ok built.value

end Node

/-- The value that a text stands for. -/
def read (cs : List Char) : Except Fault Value :=
  match Node.ofText? cs with
  | some n => n.value
  | none => .error .malformed

end CmsMarkup.Yaml
