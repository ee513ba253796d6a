/-
  Laid-out tokens — tokens that no grammar has read, with blanks where a reader of the language
  would put them.

  Whether a blank stands in front of a token depends on the token and on what came before it in the
  same pair of brackets, which is all that `Before` keeps.
-/
import FluentBuilders.Code.Token
import FluentBuilders.Layout.Doc

namespace FluentBuilders.Code

open Layout

/-- The indentation of what stands inside something else. -/
def step : Int := 4

/-- What came before a token between the same brackets. -/
inductive Before
  | nothing
  | dollar
  | dollarParens
  | dollarSeparator
  | hash
  | hashBang
  | dot
  | colon
  | separator
  | name
  | nameBang
  | parens
  | other
  deriving DecidableEq, Repr

/-- The words that a blank is put around. -/
def spacedWords : List String :=
  ["as", "async", "await", "box", "break", "const", "continue", "dyn", "else", "enum", "extern",
   "fn", "for", "if", "impl", "in", "let", "loop", "macro", "match", "mod", "move", "mut", "pub",
   "ref", "return", "static", "struct", "trait", "type", "unsafe", "use", "where", "while",
   "yield"]

namespace Before

/-- Whether a blank stands in front of an opening bracket, and what it then is before others. -/
def bracket (c : Char) : Before → Bool × Before
  | .dollar =>
    if c == '(' then (false, .dollarParens) else (true, if c == '[' then .parens else .other)
  | .hash | .hashBang =>
    if c == '[' then (false, .other) else (true, if c == '(' then .parens else .other)
  | .name => if c == '\x7b' then (true, .other) else (false, .parens)
  | .nameBang => if c == '\x7b' then (true, .other) else (false, .other)
  | _ => (true, if c == '\x7b' then .other else .parens)

/-- Whether a blank stands in front of a word, and what it then is before others. -/
def word (w : String) : Before → Bool × Before
  | .dollarParens => (false, .dollarSeparator)
  | b =>
    if spacedWords.contains w then (true, .other) else (b != .dot && b != .separator, .name)

/-- Whether a blank stands in front of a literal, and what it then is before others. -/
def literal : Before → Bool × Before
  | .dollarParens => (false, .dollarSeparator)
  | b => (b != .dot, .name)

/-- Whether a blank stands in front of a mark, and what it then is before others. -/
def mark (c : Char) (joint : Bool) (b : Before) : Bool × Before :=
  match b, c, joint with
  | .dollarParens, '+', false | .dollarParens, '*', false | .dollarParens, '?', false =>
    (false, .other)
  | .dollarParens, _, true => (false, .dollarParens)
  | .dollarParens, _, false => (false, .dollarSeparator)
  | .dollarSeparator, '+', _ | .dollarSeparator, '*', _ => (false, .other)
  | .hash, '!', _ => (false, .hashBang)
  | .name, '!', false => (false, .nameBang)
  | .colon, ':', _ => (false, .separator)
  | _, ',', _ | _, ';', _ => (false, .other)
  | _, '.', _ => (b != .name && b != .parens, .dot)
  | _, ':', true => (b != .name, .colon)
  | _, '$', _ => (true, .dollar)
  | _, '#', _ => (true, .hash)
  | _, _, _ => (true, .other)

end Before

/-- The gap in front of a token.  The line may end in front of a dot without a blank. -/
def gapBefore (joint blank : Bool) (t : Token) : List Doc :=
  if joint then []
  else if blank then [space]
  else match t with
    | .mark '.' _ => [zeroBreak 0]
    | _ => []

/-- Tokens with blanks.  `outer` is what came before in the brackets around, from the innermost, and
`joint` says that the token in front belongs to the next. -/
def tokenDocs : (outer : List Before) → Before → (joint : Bool) → List Token → List Doc
  | _, _, _, [] => []
  | outer, b, joint, .word w :: ts =>
    let (blank, next) := b.word w
    gapBefore joint blank (.word w) ++ .text w :: tokenDocs outer next false ts
  | outer, b, joint, .literal s :: ts =>
    let (blank, next) := b.literal
    gapBefore joint blank (.literal s) ++ .text s :: tokenDocs outer next false ts
  | outer, b, joint, .mark c j :: ts =>
    let text := Doc.text (String.singleton c)
    if (Token.closing? c).isSome then
      let (blank, next) := b.bracket c
      gapBefore joint blank (.mark c j) ++ text
        :: (if c == '\x7b' && ts.head? != some (.mark '\x7d') then [space] else [])
        ++ tokenDocs (next :: outer) .nothing true ts
    else if Token.isClosing c then
      (if c == '\x7d' && b != .nothing then [space] else []) ++ text
        :: tokenDocs outer.tail (outer.headD .other) false ts
    else
      let (blank, next) := b.mark c j
      gapBefore joint blank (.mark c j) ++ text :: tokenDocs outer next (j || c == '$') ts

/-- Tokens between brackets, the brackets included, behind a name. -/
def bodyDocs (body : List Token) : List Doc :=
  match body.head?, body.getLast?, body.tail.dropLast with
  | some first, some last, inner =>
    let (opening, gap) := match first with
      | .mark '\x7b' _ => (" \x7b", hardBreak)
      | t => (t.text, zeroBreak)
    .text opening
      :: (if inner.isEmpty then []
          else [cbox step [gap 0, ibox 0 (tokenDocs [] .nothing true inner), gap (-step)]])
      ++ [.text last.text]
  | _, _, _ => []

end FluentBuilders.Code
