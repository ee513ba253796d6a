/-
  Colours of a terminal, and text in colour.

  A coloured text is put between two control sequences.  The second one sets the colour of the
  terminal itself again.  Where colours are forbidden the sequences stay but say nothing.
-/

namespace FluentBuilders.Terminal

/-- The colours that have a name. -/
inductive NamedColor
  | reset
  | black
  | darkGrey
  | red
  | darkRed
  | green
  | darkGreen
  | yellow
  | darkYellow
  | blue
  | darkBlue
  | magenta
  | darkMagenta
  | cyan
  | darkCyan
  | white
  | grey
  deriving DecidableEq, Repr

/-- A colour. -/
inductive Color
  | named (name : NamedColor)
  /-- A colour of the palette of 256. -/
  | indexed (index : UInt8)
  | mixed (red green blue : UInt8)
  deriving DecidableEq, Repr

/-- The colours with their names. -/
def NamedColor.names : List (String × NamedColor) :=
  [("Reset", .reset), ("Black", .black), ("DarkGrey", .darkGrey), ("Red", .red),
   ("DarkRed", .darkRed), ("Green", .green), ("DarkGreen", .darkGreen), ("Yellow", .yellow),
   ("DarkYellow", .darkYellow), ("Blue", .blue), ("DarkBlue", .darkBlue), ("Magenta", .magenta),
   ("DarkMagenta", .darkMagenta), ("Cyan", .cyan), ("DarkCyan", .darkCyan), ("White", .white),
   ("Grey", .grey)]

/-- The colour with a name. -/
def NamedColor.ofName? (s : String) : Option NamedColor := names.lookup s

/-- The name of a colour. -/
def NamedColor.name (c : NamedColor) : String :=
  match names.find? (·.2 == c) with
  | some (s, _) => s
  | none => ""

namespace Color

/-- The colour of the terminal itself. -/
def reset : Color := .named .reset

/-- A colour in words. -/
def describe : Color → String
  | .named c => c.name
  | .indexed n => "AnsiValue(" ++ toString n.toNat ++ ")"
  | .mixed r g b =>
    "Rgb \x7b r: " ++ toString r.toNat ++ ", g: " ++ toString g.toNat ++ ", b: "
      ++ toString b.toNat ++ " \x7d"

/-- The number of a named colour in a control sequence; the terminal's own colour has none. -/
def indexOf? : NamedColor → Option Nat
  | .reset => none
  | .black => some 0
  | .darkRed => some 1
  | .darkGreen => some 2
  | .darkYellow => some 3
  | .darkBlue => some 4
  | .darkMagenta => some 5
  | .darkCyan => some 6
  | .grey => some 7
  | .darkGrey => some 8
  | .red => some 9
  | .green => some 10
  | .yellow => some 11
  | .blue => some 12
  | .magenta => some 13
  | .cyan => some 14
  | .white => some 15

/-- What a control sequence says to set a colour. -/
def parameters : Color → String
  | .named c =>
    match indexOf? c with
    | some n => "38;5;" ++ toString n
    | none => "39"
  | .indexed n => "38;5;" ++ toString n.toNat
  | .mixed r g b =>
    "38;2;" ++ toString r.toNat ++ ";" ++ toString g.toNat ++ ";" ++ toString b.toNat

end Color

/-- A control sequence. -/
def sequence (parameters : String) : String := "\x1b[" ++ parameters ++ "m"

/-- A text in a colour. -/
def styled (forbidden : Bool) (c : Color) (text : String) : String :=
  if forbidden then sequence "" ++ text ++ sequence ""
  else sequence c.parameters ++ text ++ sequence Color.reset.parameters

end FluentBuilders.Terminal
