import CmsMarkup.Pandoc

/-! Recorded answers of Pandoc. -/

namespace CmsMarkup.Pandoc

/-- The two answers for one document. -/
structure Recording where
  tree : Except Fault String
  html : Except Fault String
  deriving Repr

structure Playback where
  version : Except Fault String
  recordings : List Recording
  deriving Repr

namespace Playback

def nothingLeft : Fault := .runtime "no recorded answer"

def isRead : Request → Bool
  | .read _ => true
  | _ => false

/-- Every reading takes the next recording, and the writing after it takes the same one. -/
def pandoc (p : Playback) : Pandoc := fun earlier request =>
  let readings := earlier.countP isRead
  match request with
  | .version => p.version
  | .read _ =>
    match p.recordings[readings]? with
    | some r => r.tree
    | none => .error nothingLeft
  | .write .. =>
    match p.recordings[readings - 1]? with
    | some r => r.html
    | none => .error nothingLeft

end Playback

end CmsMarkup.Pandoc
