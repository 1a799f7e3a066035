import CmsMarkup.Json
import CmsMarkup.Text.Blank
import CmsMarkup.Text.Digit

/-! What is asked of Pandoc, the program that reads Markdown and writes HTML. -/

namespace CmsMarkup

namespace Pandoc

/-- The Markdown dialect of the input. Ids of headings are given later. -/
def markdownFormat : String := "gfm-gfm_auto_identifiers"

def treeFormat : String := "json"

def htmlFormat : String := "html5"

/-- Text nodes keep the lines of the source. -/
def writerArguments : List String := ["--wrap=none"]

/-- How code blocks are kept free of colours. -/
inductive Switch where
  | current
  | legacy
  deriving DecidableEq, Repr

def Switch.arguments : Switch → List String
  | .current => ["--syntax-highlighting=none"]
  | .legacy => ["--no-highlight"]

/-- All arguments with which HTML is written. -/
def Switch.written (switch : Switch) : List String := writerArguments ++ switch.arguments

/-- The first version that knows the current switch. -/
def currentSince : List Nat := [3, 8]

/-- The digits of the first two numbers in a version. -/
def versionDigits (version : String) : List (List Char) :=
  (runs (fun c => (decimal? c).isNone) version.toList).take 2

/-- The length of the first of these numbers that is too long to be read. -/
def longNumber? (version : String) : Option Nat :=
  (versionDigits version).findSome? fun digits =>
    if longestNumeral < digits.length then some digits.length else none

def versionNumbers (version : String) : List Nat :=
  (versionDigits version).map fun digits =>
    digits.foldl (fun n d => n * 10 + (decimal? d).getD 0) 0

/-- Versions are compared number by number, and a shorter one comes first. -/
def notBefore : List Nat → List Nat → Bool
  | _, [] => true
  | [], _ :: _ => false
  | m :: ms, n :: ns => n < m || (m == n && notBefore ms ns)

def Switch.of (version : String) : Switch :=
  if notBefore (versionNumbers version) currentSince then .current else .legacy

inductive Request where
  /-- The tree of a Markdown text. -/
  | read (markdown : String)
  /-- The HTML of a tree, written with these arguments. -/
  | write (arguments : List String) (tree : Json)
  | version
  deriving Repr

inductive Fault where
  /-- The program is not there or can not be run. -/
  | system (message : String)
  /-- The program gave up. -/
  | runtime (message : String)
  /-- The request was not accepted. -/
  | value (message : String)
  deriving DecidableEq, Repr

end Pandoc

/-- A behaviour of Pandoc: its answer to a request after earlier ones. -/
abbrev Pandoc := List Pandoc.Request → Pandoc.Request → Except Pandoc.Fault String

end CmsMarkup
