import CmsMarkup.Text.Utf8

/-! Texts of code points. A surrogate can stand in one without its other half, and then the text has
no bytes in UTF-8. -/

namespace CmsMarkup

/-- A surrogate, counted from U+D800 on. -/
abbrev Surrogate := Fin 0x800

inductive CodeText where
  | text (s : String)
  /-- The first surrogate that stands alone, between the text before it and the rest. -/
  | lone (before : String) (unit : Surrogate) (rest : CodeText)
  deriving DecidableEq, Repr

/-- The first surrogates in a row that stand alone: where they begin and how many there are. -/
structure EncodeFault where
  position : Nat
  unit : Surrogate
  count : Nat
  deriving DecidableEq, Repr

namespace CodeText

instance : Coe String CodeText := ⟨text⟩

def isEmpty : CodeText → Bool
  | .text s => s.isEmpty
  | .lone .. => false

/-- The number of code points. -/
def length : CodeText → Nat
  | .text s => s.length
  | .lone before _ rest => before.length + 1 + rest.length

/-- The text of one code point. -/
def at? (i : Nat) : CodeText → Option CodeText
  | .text s => s.toList[i]?.map fun c => .text c.toString
  | .lone before unit rest =>
    match before.toList[i]? with
    | some c => some (.text c.toString)
    | none =>
      match i - before.length with
      | 0 => some (.lone "" unit (.text ""))
      | i + 1 => rest.at? i

/-- A text in front of another. -/
def after (s : String) : CodeText → CodeText
  | .text t => .text (s ++ t)
  | .lone before unit rest => .lone (s ++ before) unit rest

/-- Two surrogates that come together so make no character. -/
def append : CodeText → CodeText → CodeText
  | .text s, t => t.after s
  | .lone before unit rest, t => .lone before unit (rest.append t)

instance : Append CodeText := ⟨append⟩

def join (texts : List CodeText) : CodeText := texts.foldr (· ++ ·) ""

def intercalate (separator : String) : List CodeText → CodeText
  | [] => ""
  | [t] => t
  | t :: rest => t ++ separator ++ intercalate separator rest

/-- Changes what stands between the surrogates. -/
def mapTexts (f : String → String) : CodeText → CodeText
  | .text s => .text (f s)
  | .lone before unit rest => .lone (f before) unit (rest.mapTexts f)

/-- How many surrogates a text begins with. -/
def leading : CodeText → Nat
  | .text _ => 0
  | .lone before _ rest => if before.isEmpty then rest.leading + 1 else 0

def encode : CodeText → Except EncodeFault (List UInt8)
  | .text s => .ok (Utf8.encode s.toList)
  | .lone before unit rest => .error ⟨before.length, unit, rest.leading + 1⟩

/-! ### Laws -/

@[simp]
theorem text_append (s t : String) : (text s ++ text t : CodeText) = text (s ++ t) := rfl

@[simp]
theorem text_append_lone (s before : String) (unit : Surrogate) (rest : CodeText) :
    text s ++ lone before unit rest = lone (s ++ before) unit rest := rfl

@[simp]
theorem lone_append (before : String) (unit : Surrogate) (rest t : CodeText) :
    lone before unit rest ++ t = lone before unit (rest ++ t) := rfl

@[simp]
theorem empty_append (t : CodeText) : text "" ++ t = t := by
  cases t <;> simp

@[simp]
theorem append_empty (t : CodeText) : t ++ text "" = t := by
  induction t with
  | text s => simp
  | lone before unit rest ih => rw [lone_append, ih]

theorem append_assoc (s t u : CodeText) : s ++ t ++ u = s ++ (t ++ u) := by
  induction s with
  | lone before unit rest ih => rw [lone_append, lone_append, lone_append, ih]
  | text s =>
    cases t with
    | text t => cases u <;> simp [String.append_assoc]
    | lone before unit rest => simp

@[simp]
theorem join_nil : join [] = "" := rfl

@[simp]
theorem join_cons (t : CodeText) (texts : List CodeText) : join (t :: texts) = t ++ join texts := rfl

theorem join_append (texts more : List CodeText) :
    join (texts ++ more) = join texts ++ join more := by
  induction texts with
  | nil => simp
  | cons t texts ih => rw [List.cons_append, join_cons, join_cons, ih, append_assoc]

theorem intercalate_text (separator : String) (texts : List String) :
    intercalate separator (texts.map text) = text (separator.intercalate texts) := by
  induction texts with
  | nil => rfl
  | cons t texts ih =>
    cases texts with
    | nil => simp [intercalate]
    | cons next texts =>
      rw [List.map_cons, List.map_cons, intercalate, ← List.map_cons, ih,
        String.intercalate_cons_cons, text_append, text_append]
      exact nofun

end CodeText

namespace EncodeFault

def message (f : EncodeFault) : String :=
  let place :=
    if f.count = 1 then
      "character '\\u" ++ String.ofList (Nat.toDigits 16 (0xD800 + f.unit)) ++ "' in position " ++
        toString f.position
    else
      "characters in position " ++ toString f.position ++ "-" ++
        toString (f.position + f.count - 1)
  "'utf-8' codec can't encode " ++ place ++ ": surrogates not allowed"

end EncodeFault

end CmsMarkup
