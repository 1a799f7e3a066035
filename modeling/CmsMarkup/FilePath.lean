import CmsMarkup.Text.Quoted

/-! Paths of files, without empty parts and parts that stand for the same directory. -/

namespace CmsMarkup

/-- `root` holds the slashes of an absolute path: one, or two where they mean something else. -/
structure FilePath where
  root : String
  names : List String
  deriving DecidableEq, Repr

namespace FilePath

/-- The parts of a path between its slashes. -/
def parts : List Char → List (List Char)
  | [] => [[]]
  | c :: cs =>
    if c == '/' then [] :: parts cs
    else
      match parts cs with
      | part :: rest => (c :: part) :: rest
      | [] => [[c]]

def rootOf : List Char → String
  | ['/', '/'] => "//"
  | '/' :: '/' :: c :: _ => if c == '/' then "/" else "//"
  | '/' :: _ => "/"
  | _ => ""

def ofText (s : String) : FilePath :=
  let names := (parts s.toList).filter fun part => !part.isEmpty && part != ['.']
  ⟨rootOf s.toList, names.map String.ofList⟩

def text (p : FilePath) : String :=
  if p.root.isEmpty && p.names.isEmpty then "." else p.root ++ "/".intercalate p.names

/-- The directory of a path; a path without names is its own. -/
def parent (p : FilePath) : FilePath := { p with names := p.names.dropLast }

/-- A name without its last full stop and what follows it. A full stop at either end of the
name does not count. -/
def stem (name : List Char) : List Char :=
  let tail := name.reverse.takeWhile (· != '.')
  let before := (name.reverse.dropWhile (· != '.')).drop 1
  if tail.isEmpty || before.isEmpty then name else before.reverse

/-- The path with another suffix; none for a path without a name. -/
def withSuffix? (suffix : String) (p : FilePath) : Option FilePath :=
  p.names.getLast?.map fun name =>
    { p with names := p.names.dropLast ++ [String.ofList (stem name.toList) ++ suffix] }

/-- The message for a path without a name. -/
def noNameMessage (p : FilePath) : String :=
  "PosixPath(" ++ quotedText p.text ++ ") has an empty name"

/-- A path with the character U+0000 can not be given to the system. -/
def hasNull (p : FilePath) : Bool := p.names.any fun name => name.toList.any (·.toNat == 0)

end FilePath

end CmsMarkup
