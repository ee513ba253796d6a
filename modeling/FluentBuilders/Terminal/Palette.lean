/-
  Palettes — which colour each kind of text has, on a dark and on a light background.
-/
import FluentBuilders.Terminal.Color

namespace FluentBuilders.Terminal

/-! ## Choices -/

/-- Whether colours are wanted. -/
inductive ColorMode
  | always
  | automatic
  | never
  deriving DecidableEq, Repr

/-- Whether colours are used, given whether the output is a terminal. -/
def ColorMode.isEnabled (terminal : Bool) : ColorMode → Bool
  | .always => true
  | .automatic => terminal
  | .never => false

/-- What is behind the text. -/
inductive Theme
  | dark
  | light
  deriving DecidableEq, Repr

/-- What is said to be behind the text. -/
inductive ThemeMode
  | dark
  | light
  | automatic
  deriving DecidableEq, Repr

/-! ## The background -/

/-- The fields of a text between semicolons. -/
def fieldsOf : List Char → List (List Char)
  | [] => [[]]
  | ';' :: r => [] :: fieldsOf r
  | c :: r =>
    match fieldsOf r with
    | [] => [[c]]
    | f :: fs => (c :: f) :: fs

/-- The number that some digits write. -/
def decimal? (cs : List Char) : Option Nat :=
  if cs.isEmpty || !cs.all Char.isDigit then none
  else some (cs.foldl (fun n c => 10 * n + (c.toNat - '0'.toNat)) 0)

/-- The number of eight bits that a text writes, with or without a plus sign. -/
def byte? (cs : List Char) : Option Nat :=
  (decimal? (match cs with
    | '+' :: r => r
    | cs => cs)).filter (· < 256)

/-- The theme of a terminal that describes its colours as foreground and background.  Background
    colours from the eighth on are light; whatever cannot be read is dark. -/
def themeOf (description : Option String) : Theme :=
  match description.bind fun s => (fieldsOf s.toList).getLast?.bind byte? with
  | some n => if 8 ≤ n then .light else .dark
  | none => .dark

/-- The theme that is used. -/
def ThemeMode.resolve (description : Option String) : ThemeMode → Theme
  | .dark => .dark
  | .light => .light
  | .automatic => themeOf description

/-! ## The palette -/

/-- What a palette depends on. -/
structure Palette where
  enabled : Bool
  theme : Theme
  deriving DecidableEq, Repr

namespace Palette

/-- One of two colours, or none if colours are not used. -/
def pick (p : Palette) (dark light : Color) : Color :=
  if !p.enabled then .reset
  else match p.theme with
    | .dark => dark
    | .light => light

/-- The colour of the time of day. -/
def timestamp (p : Palette) : Color := p.pick (.mixed 122 148 170) (.mixed 74 84 102)

/-- The colour of plain messages. -/
def primary (p : Palette) : Color := p.pick (.mixed 196 204 214) (.mixed 40 46 58)

/-- The colour of what needs attention. -/
def accent (p : Palette) : Color := p.pick (.mixed 214 112 86) (.mixed 186 64 44)

/-- The colour of further information. -/
def info (p : Palette) : Color := p.pick (.mixed 110 176 196) (.mixed 36 104 150)

/-- The colour of success. -/
def success (p : Palette) : Color := p.pick (.mixed 128 190 130) (.mixed 40 128 72)

/-- The colour of labels. -/
def label (p : Palette) : Color := p.pick (.mixed 136 160 230) (.mixed 62 82 168)

/-- The colour of values. -/
def value (p : Palette) : Color := p.pick (.mixed 232 200 112) (.mixed 150 104 30)

end Palette

end FluentBuilders.Terminal
