/-
  Token texts — the tokens that a text of code is made of.

  Blanks and comments stand between tokens and leave no trace, except that documentation stands for
  the annotation it abbreviates.  A text has no tokens if a character belongs to none, if a comment
  or a literal is left open, or if its brackets are not closed in order.
-/
import FluentBuilders.Code.Literal
import FluentBuilders.Code.Token
import FluentBuilders.Name.Grammar
import FluentBuilders.Text.Blank

namespace FluentBuilders.Code.TokenText

/-! ## Blanks and comments -/

/-- Whether a character may stand between tokens: a blank or one of the two direction marks. -/
def isGap (c : Char) : Bool := Text.isBlank c || c == '\u200E' || c == '\u200F'

/-- What follows a comment, given how many comments are open around it. -/
def afterComment : Nat → List Char → Option (List Char)
  | _, [] => none
  | n, '/' :: '*' :: r => afterComment (n + 1) r
  | 0, '*' :: '/' :: r => some r
  | n + 1, '*' :: '/' :: r => afterComment n r
  | n, _ :: r => afterComment n r

/-- The rest of a line, and what follows it. -/
def restOfLine : List Char → List Char × List Char
  | [] => ([], [])
  | '\n' :: r => ([], '\n' :: r)
  | '\r' :: '\n' :: r => ([], '\n' :: r)
  | c :: r => let (line, rest) := restOfLine r; (c :: line, rest)

/-- Whether what follows two slashes makes them the beginning of documentation. -/
def isLineDoc : List Char → Bool
  | '!' :: _ => true
  | '/' :: '/' :: _ => false
  | '/' :: _ => true
  | _ => false

/-- Whether what follows a slash and a star makes them the beginning of documentation. -/
def isDoc : List Char → Bool
  | '!' :: _ => true
  | '*' :: '*' :: _ => false
  | '*' :: '/' :: _ => false
  | '*' :: _ => true
  | _ => false

/-- The text behind its blanks and comments.  Each step takes one from the given number of steps. -/
def afterGaps : Nat → List Char → List Char
  | 0, cs => cs
  | n + 1, '/' :: '/' :: r => if isLineDoc r then '/' :: '/' :: r else afterGaps n (restOfLine r).2
  | n + 1, '/' :: '*' :: r =>
    if isDoc r then '/' :: '*' :: r
    else
      match afterComment 0 r with
      | some rest => afterGaps n rest
      | none => '/' :: '*' :: r
  | n + 1, c :: r => if isGap c then afterGaps n r else c :: r
  | _ + 1, [] => []

/-! ## Documentation -/

/-- Whether every carriage return of a text ends a line together with the line feed behind it. -/
def hasWholeBreaks : List Char → Bool
  | [] => true
  | '\r' :: '\n' :: r => hasWholeBreaks r
  | '\r' :: _ => false
  | _ :: r => hasWholeBreaks r

/-- The annotation that documentation stands for. -/
def describing (inner : Bool) (text : List Char) : List Token :=
  .mark '#' :: (if inner then [.mark '!'] else [])
    ++ Token.between '[' ']'
      [.word "doc", .mark '=', .literal ("\"" ++ String.ofList text ++ "\"")]

/-- The annotation for the documentation that begins here, and what follows it. -/
def documentation? : List Char → Option (List Token × List Char)
  | '/' :: '/' :: k :: r =>
    if isLineDoc (k :: r) then
      let (line, rest) := restOfLine r
      if hasWholeBreaks line then some (describing (k == '!') line, rest) else none
    else none
  | '/' :: '*' :: k :: r => do
    if !isDoc (k :: r) then none
    let rest ← afterComment 0 r
    let text := r.take (r.length - rest.length - 2)
    if hasWholeBreaks text then some (describing (k == '!') text, rest) else none
  | _ => none

/-! ## Words and marks -/

/-- Whether a character is a mark. -/
def isMark (c : Char) : Bool := "~!@#$%^&*-=+|;:,<.>/?'".toList.contains c

/-- Whether a mark stands at the beginning of a text.  A slash that begins a comment is none. -/
def startsWithMark : List Char → Bool
  | '/' :: '/' :: _ => false
  | '/' :: '*' :: _ => false
  | c :: _ => isMark c
  | [] => false

/-- The word at the beginning of a text as an identifier, and what follows it.  A word that names a
place cannot be written raw. -/
def word? : List Char → Option (String × List Char)
  | 'r' :: '#' :: r => do
    let rest ← Literal.afterWord? r
    let w := String.ofList (r.take (r.length - rest.length))
    if Name.placeWords.contains w then none else some ("r#" ++ w, rest)
  | cs => do
    let rest ← Literal.afterWord? cs
    some (String.ofList (cs.take (cs.length - rest.length)), rest)

/-- The beginnings of texts and bytes, which begin no word where they do not go on as such. -/
def quoteBeginnings : List (List Char) :=
  ["r\"", "r#\"", "r##", "b\"", "b'", "br\"", "br#", "c\"", "cr\"", "cr#"].map String.toList

/-- The token at the beginning of a text that is neither blank nor a bracket, and what follows it.
A quote that begins no character begins a lifetime, which is not closed by another quote. -/
def leaf? (cs : List Char) : Option (Token × List Char) :=
  match Literal.after? cs, cs with
  | some rest, _ => some (.literal (String.ofList (cs.take (cs.length - rest.length))), rest)
  | none, '\'' :: r => do
    let (w, rest) ← word? r
    if rest.head? == some '\'' || rest.head? == some '#' && !w.startsWith "r#" then none
    else some (.mark '\'' true, r)
  | none, c :: r =>
    if startsWithMark (c :: r) then some (.mark c (startsWithMark r), r)
    else if quoteBeginnings.any (·.isPrefixOf (c :: r)) then none
    else (word? (c :: r)).map fun (w, rest) => (.word w, rest)
  | none, [] => none

/-! ## Texts -/

/-- The tokens of a text, given the brackets that have to be closed.  Each step takes one from the
given number of steps. -/
def tokens : Nat → (due : List Char) → List Char → Option (List Token)
  | 0, _, _ => none
  | n + 1, due, cs =>
    let cs := afterGaps cs.length cs
    match documentation? cs, cs with
    | some (ts, rest), _ => (ts ++ ·) <$> tokens n due rest
    | none, [] => if due.isEmpty then some [] else none
    | none, c :: r =>
      match Token.closing? c with
      | some d => (.mark c :: ·) <$> tokens n (d :: due) r
      | none =>
        if Token.isClosing c then
          if due.head? == some c then (.mark c :: ·) <$> tokens n due.tail r else none
        else do
          let (t, rest) ← leaf? (c :: r)
          (t :: ·) <$> tokens n due rest

/-- The text behind the mark that may stand at the beginning of a file. -/
def withoutMark : List Char → List Char
  | '\uFEFF' :: r => r
  | cs => cs

end FluentBuilders.Code.TokenText

namespace FluentBuilders.Code

/-- The tokens of a text, if it has any. -/
def Token.ofText? (s : String) : Option (List Token) :=
  let cs := TokenText.withoutMark s.toList
  TokenText.tokens (cs.length + 1) [] cs

end FluentBuilders.Code
