/-
  Documents — text whose line breaks are not yet chosen.

  A document is a list of texts, gaps and boxes.  A gap is a number of blanks or a line break; a
  box is a group of documents that is written on one line if it fits there.  In a consistent box
  that does not fit every gap breaks; in an inconsistent one a gap breaks only if what follows it
  up to the next gap does not fit.  A gap that is wider than any line makes its box break.

  Writing goes over the atoms of a document, which are its texts, its gaps and the two ends of its
  boxes.
-/

namespace FluentBuilders.Layout

/-! ## Documents -/

/-- A place where a line may end. -/
structure Gap where
  /-- The blanks that are written if the line does not end here. -/
  blank : Nat := 0
  /-- How much further than its box the next line is indented. -/
  offset : Int := 0
  /-- What stands in front of the line break, if the line ends here. -/
  before : String := ""
  /-- What the next line begins with. -/
  after : String := ""
  /-- What stands here if the line does not end. -/
  instead : String := ""
  /-- Whether the gap is left out at the end of a box. -/
  ifNonempty : Bool := false
  /-- Whether the line never ends here. -/
  never : Bool := false
  deriving DecidableEq, Repr

/-- Which gaps of a box break if it does not fit. -/
inductive Breaks
  | consistent
  | inconsistent
  deriving DecidableEq, Repr

/-- What a document is made of. -/
inductive Doc
  | text (s : String)
  | gap (g : Gap)
  /-- A group.  Its lines are indented by `offset` more; it breaks in any case if it is wider than
      the limit. -/
  | box (breaks : Breaks) (offset : Int) (limit : Option Nat) (body : List Doc)

/-- The least unit of writing. -/
inductive Atom
  | text (s : String)
  | gap (g : Gap)
  | opening (breaks : Breaks) (offset : Int)
  | closing
  /-- A text without characters that fits on no line. -/
  | strut
  deriving DecidableEq, Repr

/-- A width that fits on no line. -/
def unbounded : Nat := 65535

/-- The width of an atom on a line. -/
def Atom.width : Atom → Nat
  | .text s => s.utf8ByteSize
  | .gap g => g.blank
  | .opening _ _ | .closing => 0
  | .strut => unbounded

/-- The width of some atoms on one line. -/
def width (as : List Atom) : Nat := as.foldr (fun a n => a.width + n) 0

/-- The contents of a box without a gap at the end that is only there for what follows it. -/
def withoutLastGap (as : List Atom) : List Atom :=
  match as.getLast? with
  | some (.gap g) => if g.ifNonempty then as.dropLast else as
  | _ => as

/-- The atoms of a box.  A box that holds nothing but a gap is left out. -/
def boxAtoms (breaks : Breaks) (offset : Int) (limit : Option Nat) (body : List Atom) : List Atom :=
  match body with
  | [.gap _] => []
  | _ =>
    let body := match limit with
      | some n => if n < width body then body ++ [.strut] else body
      | none => body
    .opening breaks offset :: withoutLastGap body ++ [.closing]

mutual

/-- The atoms of a document. -/
def Doc.atoms : Doc → List Atom
  | .text s => [.text s]
  | .gap g => [.gap g]
  | .box breaks offset limit body => boxAtoms breaks offset limit (Doc.atomsList body)

/-- The atoms of several documents. -/
def Doc.atomsList : List Doc → List Atom
  | [] => []
  | d :: ds => d.atoms ++ Doc.atomsList ds

end

/-! ## What fits -/

/-- Whether the room on a line is too small for what comes up to the next gap outside of the
    `depth` innermost open boxes.  Text behind a box up to that gap counts. -/
def overflows (room : Int) (depth : Nat) : List Atom → Bool
  | [] => decide (room < 0)
  | .text s :: r => decide (room < 0) || overflows (room - s.utf8ByteSize) depth r
  | .strut :: r => decide (room < 0) || overflows (room - unbounded) depth r
  | .opening _ _ :: r => decide (room < 0) || overflows room (depth + 1) r
  | .closing :: r => decide (room < 0) || overflows room (depth - 1) r
  | .gap g :: r =>
    decide (room < 0) || (depth != 0 && overflows (room - g.blank) depth r)

/-! ## Writing -/

/-- What is known about an open box. -/
inductive Frame
  /-- It fits, so that no gap in it breaks. -/
  | fits
  /-- It does not fit.  The indentation around it is kept. -/
  | broken (breaks : Breaks) (outer : Int)
  deriving DecidableEq, Repr

/-- Where writing stands. -/
structure Pen where
  /-- The columns left on the line. -/
  room : Int
  /-- The indentation of the innermost broken box. -/
  indent : Int := 0
  /-- The blanks to be written in front of the next text. -/
  pending : Nat := 0
  /-- The open boxes, the innermost first. -/
  frames : List Frame := []
  deriving DecidableEq, Repr

/-- The columns of a line. -/
def margin : Int := 89

/-- The columns that a line has in any case behind its indentation. -/
def minRoom : Int := 60

/-- The blanks in front of the next text. -/
def Pen.blanks (p : Pen) : List Char := List.replicate p.pending ' '

/-- The pen after a text. -/
def Pen.afterText (p : Pen) (s : String) : Pen :=
  { p with pending := 0, room := p.room - s.utf8ByteSize }

/-- The pen after the beginning of a box. -/
def Pen.enter (p : Pen) (breaks : Breaks) (offset : Int) (rest : List Atom) : Pen :=
  if overflows p.room 1 rest then
    { p with indent := p.indent + offset, frames := .broken breaks p.indent :: p.frames }
  else { p with frames := .fits :: p.frames }

/-- The pen after the end of a box. -/
def Pen.leave (p : Pen) : Pen :=
  match p.frames with
  | .broken _ outer :: r => { p with indent := outer, frames := r }
  | .fits :: r => { p with frames := r }
  | [] => p

/-- Whether a gap breaks, given what follows it.  Outside of all boxes gaps break as in an
    inconsistent one. -/
def Pen.breaksAt (p : Pen) (g : Gap) (rest : List Atom) : Bool :=
  !g.never && match p.frames with
    | .fits :: _ => false
    | .broken .consistent _ :: _ => true
    | .broken .inconsistent _ :: _ | [] => overflows (p.room - g.blank) 0 rest

/-- The pen after a gap that does not break. -/
def Pen.space (p : Pen) (g : Gap) : Pen :=
  { p with pending := p.pending + g.blank, room := p.room - g.blank }

/-- The pen on a new line. -/
def Pen.newline (p : Pen) (g : Gap) : Pen :=
  let indent := p.indent + g.offset
  { p with pending := indent.toNat, room := max (margin - indent) minRoom }

/-- What is written for a text, with the blanks in front of it.  The empty text needs none. -/
def Pen.written (p : Pen) (s : String) : List Char := if s.isEmpty then [] else p.blanks ++ s.toList

/-- The pen after a text that may be empty. -/
def Pen.afterWritten (p : Pen) (s : String) : Pen := if s.isEmpty then p else p.afterText s

/-- Writes atoms, choosing the line breaks. -/
def write (p : Pen) : List Atom → List Char
  | [] => []
  | .text s :: r => p.blanks ++ s.toList ++ write (p.afterText s) r
  | .strut :: r => write p r
  | .opening breaks offset :: r => write (p.enter breaks offset r) r
  | .closing :: r => write p.leave r
  | .gap g :: r =>
    if p.breaksAt g r then
      p.written g.before ++ '\n' :: (p.newline g).written g.after
        ++ write ((p.newline g).afterWritten g.after) r
    else (p.space g).written g.instead ++ write ((p.space g).afterWritten g.instead) r

/-- The text of some documents one after the other. -/
def render (ds : List Doc) : String :=
  String.ofList (write { room := margin } (Doc.atomsList ds))

/-! ## Building documents -/

/-- A consistent box. -/
def cbox (offset : Int) (body : List Doc) : Doc := .box .consistent offset none body

/-- An inconsistent box. -/
def ibox (offset : Int) (body : List Doc) : Doc := .box .inconsistent offset none body

/-- A gap without blanks. -/
def zeroBreak (offset : Int) : Doc := .gap { offset }

/-- A gap of one blank. -/
def space : Doc := .gap { blank := 1 }

/-- A gap at which no line ends. -/
def neverBreak : Doc := .gap { never := true }

/-- A gap that always breaks. -/
def hardBreak (offset : Int) : Doc := .gap { blank := unbounded, offset }

/-- A gap that always breaks unless nothing follows it in its box. -/
def hardBreakIfNonempty (offset : Int) : Doc :=
  .gap { blank := unbounded, offset, ifNonempty := true }

/-- Items with commas between them, and one behind the last if the lines break there.  The line
    after the last of them is indented by `last` more than the lines before. -/
def commaItems (last : Int) : List (List Doc) → List Doc
  | [] => []
  | [item] => item ++ [.gap { offset := last, before := "," }]
  | item :: next :: r => item ++ .text "," :: space :: commaItems last (next :: r)

/-- Items behind an opening bracket, each on a line of its own if the lines break. -/
def commaList (last : Int) (items : List (List Doc)) : List Doc :=
  zeroBreak (if items.isEmpty then last else 0) :: commaItems last items

end FluentBuilders.Layout
