/-
  Sources — tokens on their way through a reader.

  A reader takes tokens from the front of a source or refuses them.  It can look at what comes next
  without taking it.  The end of what stands between brackets is an end like that of the source; if
  something is left over there, reading goes on behind the bracket, and the first such place is
  remembered until everything else is read.
-/
import FluentBuilders.Code.Ahead
import FluentBuilders.Code.Refusal

namespace FluentBuilders.Code

/-! ## Readers -/

/-- The tokens that are left, and the bracket in front of which something was left over. -/
structure Source where
  rest : List Token
  leftOver : Option Char := none
  deriving DecidableEq, Repr

/-- A reader of something. -/
abbrev Reader := StateT Source (Except Refusal)

namespace Reader

open Ahead

/-- The tokens that are left. -/
def rest : Reader (List Token) := do return (← get).rest

/-- Goes on with other tokens. -/
def setRest (ts : List Token) : Reader Unit := modify fun s => { s with rest := ts }

/-- Whether what comes next is of some kind. -/
def sees (test : List Token → Bool) : Reader Bool := do return test (← rest)

/-- Refuses what comes next, because something else is wanted. -/
def refuse {α : Type} (wants : List Want) : Reader α := do
  throw (.expected wants (isEnd (← rest)))

/-- Takes a sign. -/
def sign (s : String) : Reader Unit := do
  match afterSign? s.toList (← rest) with
  | some ts => setRest ts
  | none => throw (.wantedSign s)

/-- Takes a sign if it comes next, and says whether it did. -/
def sign? (s : String) : Reader Bool := do
  match afterSign? s.toList (← rest) with
  | some ts => setRest ts; return true
  | none => return false

/-- Takes a word of the language. -/
def word (w : String) : Reader Unit := do
  match ← rest with
  | .word v :: ts => if v == w then setRest ts else refuse [.sign w]
  | _ => refuse [.sign w]

/-- Takes a word of the language if it comes next, and says whether it did. -/
def word? (w : String) : Reader Bool := do
  if ← sees (isWord w) then
    word w
    return true
  else return false

/-- Takes an identifier. -/
def ident : Reader Ident := do
  match ← rest with
  | .word w :: ts =>
    if (Ident.ofWord w).isFree then
      setRest ts
      return Ident.ofWord w
    else throw (.reserved w)
  | _ => refuse [.identifier]

/-- Takes a word of any kind as an identifier. -/
def anyIdent : Reader Ident := do
  match ← rest with
  | .word w :: ts => setRest ts; return Ident.ofWord w
  | _ => refuse [.identifier]

/-- Takes the name or the number of a field. -/
def member : Reader Ident := do
  match ← rest with
  | .literal s :: ts =>
    if !isNumber s then refuse [.identifier, .integer]
    if !s.all Char.isDigit then throw .suffixedIndex
    setRest ts
    return ⟨s, false⟩
  | ts => if isIdent ts then ident else refuse [.identifier, .integer]

/-- Takes a lifetime. -/
def lifetime : Reader Ident := do
  match ← rest with
  | .mark '\'' true :: .word w :: ts => setRest ts; return Ident.ofWord w
  | _ => refuse [.lifetime]

/-- Takes a lifetime if one comes next. -/
def lifetime? : Reader (Option Ident) := do
  if ← sees isLifetime then some <$> lifetime else return none

/-- Takes an opening bracket. -/
def opening (c : Char) (want : Want) : Reader Unit := do
  match ← rest with
  | .mark d _ :: ts => if c == d then setRest ts else refuse [want]
  | _ => refuse [want]

/-- Takes a closing bracket, and what is left over in front of it. -/
def closing (c : Char) : Reader Unit := do
  let (left, behind) := splitGroup 0 (← rest)
  modify fun s =>
    { rest := behind.tail
      leftOver := if left.isEmpty then s.leftOver else s.leftOver <|> some c }

/-- Takes what stands between brackets of any kind, with the brackets. -/
def group : Reader (List Token) := do
  match ← rest with
  | .mark c j :: ts =>
    if (Token.closing? c).isSome then
      let (inner, behind) := splitGroup 0 ts
      setRest behind.tail
      return .mark c j :: inner ++ behind.take 1
    else refuse [.delimiter]
  | _ => refuse [.delimiter]

/-- What a reader makes of some tokens, if it takes all of them. -/
def run {α : Type} (r : Reader α) (ts : List Token) : Except Refusal α := do
  let (a, s) ← StateT.run r { rest := ts }
  if s.leftOver.isSome || !s.rest.isEmpty then .error (.leftOver s.leftOver) else .ok a

end Reader

end FluentBuilders.Code
