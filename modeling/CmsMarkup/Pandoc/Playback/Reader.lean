import CmsMarkup.Json.Printer
import CmsMarkup.Pandoc.Playback

/-! Recorded answers from a JSON object: the member `version`, and `pandoc` with one entry
for every document. -/

namespace CmsMarkup.Pandoc

namespace Fault

def textMember (key : CodeText) (v : Json) : String :=
  match v.get? key with
  | some (.string (.text s)) => s
  | _ => ""

def ofJson (spec : Json) : Fault :=
  let message := textMember "message" spec
  if textMember "kind" spec == "OSError" then .system message
  else if textMember "kind" spec == "RuntimeError" then .runtime message
  else .value message

end Fault

namespace Recording

/-- The text of one member, or the fault of another. -/
def answerOf (key faultKey : CodeText) (entry : Json) : Except Fault String :=
  match entry.get? faultKey with
  | some spec => .error (.ofJson spec)
  | none => .ok (Fault.textMember key entry)

/-- A tree is given as it is, or by its text. -/
def ofJson (entry : Json) : Recording :=
  let tree :=
    match entry.get? "json" with
    | some tree => .ok (String.ofList tree.print)
    | none => answerOf "json_text" "json_error" entry
  ⟨tree, answerOf "html" "html_error" entry⟩

end Recording

namespace Playback

def defaultVersion : String := "3.9"

def ofJson (v : Json) : Playback :=
  let version :=
    match v.get? "version" with
    | none => .ok defaultVersion
    | some (.string (.text s)) => .ok s
    | some spec => .error (.ofJson spec)
  let recordings :=
    match v.get? "pandoc" with
    | some (.array entries) => entries.map Recording.ofJson
    | _ => []
  ⟨version, recordings⟩

end Playback

end CmsMarkup.Pandoc
