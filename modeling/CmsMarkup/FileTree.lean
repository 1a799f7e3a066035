import CmsMarkup.FilePath

/-! Files and directories below a working directory, and what the system does with them. -/

namespace CmsMarkup

inductive FileItem where
  | directory
  | file (content : List UInt8)
  deriving DecidableEq, Repr

/-- Where a path leads: names from the working directory on. A location may begin with steps
upward, or with a slash as the name of the root. -/
abbrev Location := List String

structure FileTree where
  entries : List (Location × FileItem)
  deriving Repr

inductive FileFault where
  | notFound
  | alreadyThere
  | notDirectory
  | isDirectory
  | nameTooLong
  deriving DecidableEq, Repr

/-- The system's message about a path. -/
def FileFault.message (path : FilePath) (f : FileFault) : String :=
  let text :=
    match f with
    | .notFound => "[Errno 2] No such file or directory"
    | .alreadyThere => "[Errno 17] File exists"
    | .notDirectory => "[Errno 20] Not a directory"
    | .isDirectory => "[Errno 21] Is a directory"
    | .nameTooLong => "[Errno 36] File name too long"
  text ++ ": " ++ quotedText path.text

namespace Location

/-- Whether a location is above all entries of a tree. -/
def isAbove (loc : Location) : Bool := loc == ["/"] || loc.all (· == "..")

def up (loc : Location) : Location :=
  if loc == ["/"] then loc else if loc.all (· == "..") then loc ++ [".."] else loc.dropLast

end Location

namespace FileTree

def empty : FileTree := ⟨[]⟩

/-- What stands at a location; the working directory and those above it are always there. -/
def get? (t : FileTree) (loc : Location) : Option FileItem :=
  if loc.isAbove then some .directory else t.entries.lookup loc

def putEntry (loc : Location) (item : FileItem) :
    List (Location × FileItem) → List (Location × FileItem)
  | [] => [(loc, item)]
  | (l, i) :: rest => if l = loc then (l, item) :: rest else (l, i) :: putEntry loc item rest

def put (loc : Location) (item : FileItem) (t : FileTree) : FileTree :=
  ⟨putEntry loc item t.entries⟩

def longestName : Nat := 255

def longestPath : Nat := 4095

/-- Follows names from a location. Each of them has to stand in a directory. -/
def walk (t : FileTree) (loc : Location) : List String → Except FileFault Location
  | [] => .ok loc
  | name :: rest =>
    match t.get? loc with
    | none => .error .notFound
    | some (.file _) => .error .notDirectory
    | some .directory =>
      if name == ".." then t.walk loc.up rest
      else if longestName < name.utf8ByteSize then .error .nameTooLong
      else t.walk (loc ++ [name]) rest

/-- The location that a path leads to. -/
def locate (t : FileTree) (p : FilePath) : Except FileFault Location :=
  if longestPath < p.text.utf8ByteSize then .error .nameTooLong
  else t.walk (if p.root.isEmpty then [] else ["/"]) p.names

def read (t : FileTree) (p : FilePath) : Except FileFault (List UInt8) :=
  match t.locate p with
  | .error f => .error f
  | .ok loc =>
    match t.get? loc with
    | none => .error .notFound
    | some .directory => .error .isDirectory
    | some (.file content) => .ok content

def write (p : FilePath) (content : List UInt8) (t : FileTree) : Except FileFault FileTree :=
  match t.locate p with
  | .error f => .error f
  | .ok loc =>
    match t.get? loc with
    | some .directory => .error .isDirectory
    | _ => .ok (t.put loc (.file content))

def isDirectory (t : FileTree) (p : FilePath) : Bool :=
  match t.locate p with
  | .error _ => false
  | .ok loc => t.get? loc == some .directory

/-- Adds one directory; its parent has to be there. -/
def addDirectory (p : FilePath) (t : FileTree) : Except FileFault FileTree :=
  match t.locate p with
  | .error f => .error f
  | .ok loc =>
    match t.get? loc with
    | some _ => .error .alreadyThere
    | none => .ok (t.put loc .directory)

/-- Adds a directory unless it is there. -/
def ensureOne (p : FilePath) (t : FileTree) : Except (FilePath × FileFault) Unit × FileTree :=
  match t.addDirectory p with
  | .ok t => (.ok (), t)
  | .error f => (if t.isDirectory p then .ok () else .error (p, f), t)

/-- Adds a directory and the missing ones above it, from the names of its path, the last one
first. Directories that were added before a fault stay. -/
def ensureNames (root : String) :
    List String → FileTree → Except (FilePath × FileFault) Unit × FileTree
  | [], t => t.ensureOne ⟨root, []⟩
  | name :: above, t =>
    let p : FilePath := ⟨root, (name :: above).reverse⟩
    match t.addDirectory p with
    | .error .notFound =>
      match ensureNames root above t with
      | (.ok (), t) => t.ensureOne p
      | (.error f, t) => (.error f, t)
    | .ok t => (.ok (), t)
    | .error f => (if t.isDirectory p then .ok () else .error (p, f), t)

def ensureDirectory (p : FilePath) (t : FileTree) :
    Except (FilePath × FileFault) Unit × FileTree :=
  ensureNames p.root p.names.reverse t

end FileTree

end CmsMarkup
