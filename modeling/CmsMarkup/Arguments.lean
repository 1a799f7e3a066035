import CmsMarkup.Text.Quoted

/-! The arguments of the command line. -/

namespace CmsMarkup

structure Arguments where
  inputs : List String
  output : Option String
  css : Bool
  verbose : Bool
  deriving DecidableEq, Repr

inductive Flag where
  | help
  | output
  | css
  | verbose
  deriving DecidableEq, Repr

/-- Why a program ends before it converts anything. -/
inductive UsageStop where
  | help
  | ambiguous (word : String)
  /-- A value for a flag that takes none. -/
  | ignoredValue (flag : Flag) (value : List Char)
  | missingValue (flag : Flag)
  | noInput
  | unrecognized (words : List String)
  /-- One output file can not take several documents. -/
  | severalInputs
  deriving DecidableEq, Repr

namespace Flag

def all : List Flag := [.help, .output, .css, .verbose]

def longName : Flag → String
  | .help => "--help"
  | .output => "--output"
  | .css => "--css"
  | .verbose => "--verbose"

def letter? : Flag → Option Char
  | .help => some 'h'
  | .output => some 'o'
  | .css => none
  | .verbose => some 'v'

/-- The name of a flag in messages. -/
def label (f : Flag) : String :=
  match f.letter? with
  | some c => "-" ++ c.toString ++ "/" ++ f.longName
  | none => f.longName

def ofLetter? (c : Char) : Option Flag := all.find? fun f => f.letter? = some c

def takesValue (f : Flag) : Bool := f == .output

end Flag

namespace Arguments

/-- A word of a command line. A group holds the letters behind one hyphen. -/
inductive Word where
  | plain (text : String)
  | separator
  | long (flag : Flag) (value : Option (List Char))
  | group (letters : List Char)
  /-- A letter with a value behind an equals sign. -/
  | assigned (flag : Flag) (value : List Char)
  | unknown (text : String)
  deriving DecidableEq, Repr

/-- A negative number, which is no flag. -/
def isNegativeNumber : List Char → Bool
  | '-' :: cs =>
    let (whole, tail) := cs.span Char.isDigit
    match tail with
    | [] => !whole.isEmpty
    | '.' :: fraction => !fraction.isEmpty && fraction.all Char.isDigit
    | _ => false
  | _ => false

def longWord (text : String) (name : List Char) (value : Option (List Char)) :
    Except UsageStop Word :=
  match Flag.all.filter fun f => name.isPrefixOf f.longName.toList with
  | [] => .ok (if ' ' ∈ text.toList then .plain text else .unknown text)
  | [f] => .ok (.long f value)
  | _ => .error (.ambiguous text)

/-- A word in front of the separator. Long names may be cut short. -/
def wordOf (text : String) : Except UsageStop Word :=
  match text.toList with
  | '-' :: '-' :: cs =>
    match ('-' :: '-' :: cs).span (· != '=') with
    | (name, _ :: value) => longWord text name (some value)
    | (name, []) => longWord text name none
  | '-' :: c :: cs =>
    match Flag.ofLetter? c, cs with
    | some f, '=' :: value =>
      .ok (if f.takesValue || value.isEmpty then .assigned f value else .group (c :: value))
    | some _, _ => .ok (.group (c :: cs))
    | none, _ =>
      .ok (if isNegativeNumber text.toList || ' ' ∈ text.toList then .plain text else .unknown text)
  | _ => .ok (.plain text)

/-- All words; behind the separator every one of them is plain. -/
def wordsOf : List String → Except UsageStop (List Word)
  | [] => .ok []
  | text :: rest =>
    if text == "--" then .ok (.separator :: rest.map .plain)
    else do
      let word ← wordOf text
      let words ← wordsOf rest
      return word :: words

/-- What has been read. Only one run of plain words is taken as the inputs. -/
structure Reading where
  inputs : List String
  /-- A flag stands behind the inputs. -/
  closed : Bool
  extras : List String
  output : Option String
  css : Bool
  verbose : Bool
  /-- A flag waits for its value. -/
  pending : Option Flag
  deriving Repr

namespace Reading

def start : Reading := ⟨[], false, [], none, false, false, none⟩

def close (r : Reading) : Reading := { r with closed := r.closed || !r.inputs.isEmpty }

def plain (text : String) (r : Reading) : Reading :=
  match r.pending with
  | some _ => { r with output := some text, pending := none }
  | none =>
    if r.closed then { r with extras := r.extras ++ [text] }
    else { r with inputs := r.inputs ++ [text] }

def raise (f : Flag) (r : Reading) : Except UsageStop Reading :=
  match f with
  | .help => .error .help
  | .output => .ok { r with pending := some .output }
  | .css => .ok { r with css := true }
  | .verbose => .ok { r with verbose := true }

/-- A value of two hyphens is dropped, as if nothing had been given. -/
def giveOutput (value : List Char) (r : Reading) : Reading :=
  { r with output := if value = ['-', '-'] then none else some (String.ofList value) }

/-- The flags of a group. What follows a letter that takes a value is its value. -/
def groupFlags : List Char → Except UsageStop (List (Flag × Option (List Char)))
  | [] => .ok []
  | c :: cs =>
    match Flag.ofLetter? c with
    | none => .ok []
    | some f =>
      if f.takesValue then .ok [(f, if cs.isEmpty then none else some cs)]
      else
        match cs with
        | [] => .ok [(f, none)]
        | d :: _ =>
          if (Flag.ofLetter? d).isNone then .error (.ignoredValue f cs)
          else (groupFlags cs).map ((f, none) :: ·)

def raiseAll : List (Flag × Option (List Char)) → Reading → Except UsageStop Reading
  | [], r => .ok r
  | (f, value) :: rest, r =>
    match value with
    | some value => raiseAll rest (r.giveOutput value)
    | none =>
      match r.raise f with
      | .ok r => raiseAll rest r
      | .error stop => .error stop

/-- A flag with a value. -/
def assign (f : Flag) (value : List Char) (r : Reading) : Except UsageStop Reading :=
  if f.takesValue then .ok (r.giveOutput value) else .error (.ignoredValue f value)

def word (w : Word) (r : Reading) : Except UsageStop Reading :=
  match w, r.pending with
  | .plain text, _ => .ok (r.plain text)
  | _, some f => .error (.missingValue f)
  | .separator, none => .ok (if r.closed then { r with extras := r.extras ++ ["--"] } else r)
  | .long f none, none => r.close.raise f
  | .long f (some value), none => r.close.assign f value
  | .assigned f value, none => r.close.assign f value
  | .group letters, none => (groupFlags letters).bind fun flags => raiseAll flags r.close
  | .unknown text, none => .ok { r.close with extras := r.close.extras ++ [text] }

def words : List Word → Reading → Except UsageStop Reading
  | [], r => .ok r
  | w :: rest, r =>
    match r.word w with
    | .ok r => words rest r
    | .error stop => .error stop

def finish (r : Reading) : Except UsageStop Arguments :=
  match r.pending with
  | some f => .error (.missingValue f)
  | none =>
    if r.inputs.isEmpty then .error .noInput
    else if !r.extras.isEmpty then .error (.unrecognized r.extras)
    else if (r.output.any fun text => !text.isEmpty) && 1 < r.inputs.length then
      .error .severalInputs
    else .ok ⟨r.inputs, r.output, r.css, r.verbose⟩

end Reading

def parse (texts : List String) : Except UsageStop Arguments := do
  let words ← wordsOf texts
  let reading ← Reading.words words .start
  reading.finish

end Arguments

namespace UsageStop

def usage : String := "usage: md2drupal [-h] [-o OUTPUT] [--css] [-v] INPUT [INPUT ...]\n"

def helpText : String :=
  usage ++ "\nConvert Markdown files to HTML ready to paste into the CMS\n" ++
  "\npositional arguments:\n" ++
  "  INPUT                 Markdown file(s) to convert\n" ++
  "\noptions:\n" ++
  "  -h, --help            show this help message and exit\n" ++
  "  -o OUTPUT, --output OUTPUT\n" ++
  "                        Output HTML file (single input only; default: INPUT\n" ++
  "                        with .html suffix)\n" ++
  "  --css                 Link GitHub Markdown CSS and add body padding\n" ++
  "  -v, --verbose         Enable debug logging\n"

/-- What is wrong with the arguments; a call for help is no fault. -/
def message? : UsageStop → Option String
  | .help => none
  | .ambiguous word =>
    some ("ambiguous option: " ++ word ++ " could match " ++
      ", ".intercalate (Flag.all.map Flag.longName))
  | .ignoredValue flag value =>
    some ("argument " ++ flag.label ++ ": ignored explicit argument " ++
      String.ofList (Quoted.encode value))
  | .missingValue flag => some ("argument " ++ flag.label ++ ": expected one argument")
  | .noInput => some "the following arguments are required: INPUT"
  | .unrecognized words => some ("unrecognized arguments: " ++ " ".intercalate words)
  | .severalInputs => some "--output can only be used with a single input file"

def standardOutput (stop : UsageStop) : String :=
  match stop.message? with
  | none => helpText
  | some _ => ""

def standardError (stop : UsageStop) : String :=
  match stop.message? with
  | none => ""
  | some message => usage ++ "md2drupal: error: " ++ message ++ "\n"

def exitCode (stop : UsageStop) : Nat :=
  match stop.message? with
  | none => 0
  | some _ => 2

end UsageStop

end CmsMarkup
