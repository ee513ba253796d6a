/-
  Arguments — from the words of a command line to what is to be done.

  Words are read from left to right.  The value of an option is only looked at when the next known
  option begins or the words end, so that an unknown word behind a bad value is what is reported.
  An option that takes one value, and a flag, may be given once at each level; lists add up; an
  option known at both levels counts as it was last given.
-/
import FluentBuilders.Command.Option
import FluentBuilders.Terminal.Palette

namespace FluentBuilders.Command

open Terminal

/-! ## Results -/

/-- Why a command line is not carried out. -/
inductive UsageError
  | argumentConflict
  | invalidValue
  | unknownArgument
  | tooManyValues
  | missingArgument
  | invalidCommand
  | missingCommand
  /-- Help was asked for. -/
  | help
  /-- Nothing was asked for. -/
  | helpInstead
  /-- The version was asked for. -/
  | version
  deriving DecidableEq, Repr

/-- What the command `generate` was told. -/
structure GenerateArguments where
  input : String
  output : Option String
  only : Option (List String)
  exclude : Option (List String)
  supportPath : String
  verbose : Bool
  quiet : Bool
  deriving DecidableEq, Repr

/-- A command. -/
inductive Action
  | list (input : String)
  | generate (arguments : GenerateArguments)
  deriving DecidableEq, Repr

/-- A command line. -/
structure Invocation where
  color : ColorMode
  theme : ThemeMode
  action : Action
  deriving DecidableEq, Repr

/-! ## Values -/

/-- The values given at one level. -/
structure Values where
  color : Option ColorMode := none
  theme : Option ThemeMode := none
  input : Option String := none
  output : Option String := none
  only : Option (List String) := none
  exclude : Option (List String) := none
  supportPath : Option String := none
  verbose : Bool := false
  quiet : Bool := false
  deriving DecidableEq, Repr

/-- The choices for colours. -/
def colorModes : List (String × ColorMode) :=
  [("always", .always), ("auto", .automatic), ("never", .never)]

/-- The choices for themes. -/
def themeModes : List (String × ThemeMode) :=
  [("dark", .dark), ("light", .light), ("auto", .automatic)]

/-- The items of a list written with commas. -/
def itemsOf : List Char → List (List Char)
  | [] => [[]]
  | ',' :: r => [] :: itemsOf r
  | c :: r =>
    match itemsOf r with
    | [] => [[c]]
    | i :: is => (c :: i) :: is

/-- A list of names written with commas. -/
def namesOf (s : String) : List String := (itemsOf s.toList).map String.ofList

/-- Accepts a value for an option that has none yet. -/
def once {α : Type} (old : Option α) (new : Option α) : Except UsageError (Option α) :=
  match old, new with
  | some _, _ => .error .argumentConflict
  | none, none => .error .invalidValue
  | none, some v => .ok (some v)

/-- A path, which is not empty. -/
def pathOf? (s : String) : Option String := if s.isEmpty then none else some s

namespace Values

/-- Takes the value of an option. -/
def give (v : Values) (o : Opt) (s : String) : Except UsageError Values :=
  match o with
  | .color => do .ok { v with color := ← once v.color (colorModes.lookup s) }
  | .theme => do .ok { v with theme := ← once v.theme (themeModes.lookup s) }
  | .input => do .ok { v with input := ← once v.input (pathOf? s) }
  | .output => do .ok { v with output := ← once v.output (pathOf? s) }
  | .only => .ok { v with only := some (v.only.getD [] ++ namesOf s) }
  | .exclude => .ok { v with exclude := some (v.exclude.getD [] ++ namesOf s) }
  | .supportPath => do .ok { v with supportPath := ← once v.supportPath (some s) }
  | .verbose | .quiet | .help | .version => .ok v

/-- Takes a flag. -/
def raise (v : Values) (o : Opt) : Except UsageError Values :=
  match o with
  | .verbose => if v.verbose then .error .argumentConflict else .ok { v with verbose := true }
  | .quiet => if v.quiet then .error .argumentConflict else .ok { v with quiet := true }
  | .help => .error .help
  | .version => .error .version
  | _ => .ok v

end Values

/-! ## Reading words -/

/-- How far reading has come: what was taken, and an option whose value is not settled, with the
    value if it was seen. -/
structure Progress where
  values : Values := {}
  pending : Option (Opt × Option String) := none
  deriving DecidableEq, Repr

namespace Progress

/-- Settles the option whose value is not settled. -/
def settle (p : Progress) : Except UsageError Values :=
  match p.pending with
  | none => .ok p.values
  | some (_, none) => .error .invalidValue
  | some (o, some s) => p.values.give o s

/-- The option that waits for its value. -/
def waiting? (p : Progress) : Option Opt :=
  match p.pending with
  | some (o, none) => some o
  | _ => none

/-- Takes a flag. -/
def raise (p : Progress) (o : Opt) : Except UsageError Progress := do
  let v ← p.settle
  .ok { values := ← v.raise o }

/-- Begins an option whose value follows. -/
def await (p : Progress) (o : Opt) : Except UsageError Progress := do
  .ok { values := ← p.settle, pending := some (o, none) }

/-- Takes an option with the value that is attached to it. -/
def attach (p : Progress) (o : Opt) (s : String) : Except UsageError Progress := do
  let v ← p.settle
  .ok { values := ← v.give o s }

end Progress

/-- A long option with what is attached to it. -/
def splitLong : List Char → String × Option String
  | [] => ("", none)
  | '=' :: r => ("", some (String.ofList r))
  | c :: r =>
    let (name, value) := splitLong r
    (String.singleton c ++ name, value)

/-- Takes a long option. -/
def takeLong (l : Level) (p : Progress) (cs : List Char) : Except UsageError Progress :=
  let (name, value) := splitLong cs
  match l.long? name with
  | none => .error .unknownArgument
  | some o =>
    match o.arity, value with
    | .flag, some _ => .error .tooManyValues
    | .flag, none => p.raise o
    | _, some s => p.attach o s
    | _, none => p.await o

/-- Takes options written by their letters. -/
def takeShort (l : Level) (p : Progress) : List Char → Except UsageError Progress
  | [] => .ok p
  | c :: r =>
    match l.short? c with
    | none => .error .unknownArgument
    | some o =>
      match o.arity with
      | .flag => do takeShort l (← p.raise o) r
      | _ =>
        match r with
        | [] => p.await o
        | '=' :: r => p.attach o (String.ofList r)
        | r => p.attach o (String.ofList r)

/-- What a word is at a level, if nothing waits for a value. -/
inductive Word
  | command (l : Level)
  | helpCommand
  | escape
  | long (cs : List Char)
  | short (cs : List Char)
  | plain
  deriving DecidableEq, Repr

/-- Sorts a word by its form.  A single dash is plain. -/
def Word.ofText (s : String) : Word :=
  match s.toList with
  | ['-', '-'] => .escape
  | '-' :: '-' :: cs => .long cs
  | '-' :: c :: cs => .short (c :: cs)
  | _ => .plain

/-- The command that a word names at a level. -/
def commandOf? (l : Level) (s : String) : Option Word :=
  match l with
  | .top =>
    match Level.commands.lookup s with
    | some c => some (.command c)
    | none => if s = helpWord then some .helpCommand else none
  | _ => none

/-- Why a plain word is refused at a level. -/
def refusalOf (l : Level) (escaped : Bool) (s : String) : UsageError :=
  match l with
  | .top =>
    if escaped && (commandOf? .top s).isSome then .unknownArgument else .invalidCommand
  | _ => .unknownArgument

/-- Why the words after the help word are refused, or that help is given. -/
def helpFor : List String → UsageError
  | [] => .help
  | [s] => if (commandOf? .top s).isSome then .help else .invalidCommand
  | _ => .invalidCommand

/-- Reads the words of a level, up to the name of a command. -/
def readWords (l : Level) (p : Progress) :
    List String → Except UsageError (Progress × Option (Level × List String))
  | [] => .ok (p, none)
  | s :: rest =>
    let form := if p.waiting?.isSome then Word.ofText s else (commandOf? l s).getD (.ofText s)
    match form with
    | .command c => .ok (p, some (c, rest))
    | .helpCommand => .error (helpFor rest)
    | .escape =>
      match rest with
      | [] => .ok (p, none)
      | t :: _ => .error (refusalOf l true t)
    | .long cs => do readWords l (← takeLong l p cs) rest
    | .short cs => do readWords l (← takeShort l p cs) rest
    | .plain =>
      match p.waiting? with
      | some o => readWords l { p with pending := some (o, some s) } rest
      | none => .error (refusalOf l false s)

/-- The values of a level whose words are all there is left. -/
def readLevel (l : Level) (words : List String) : Except UsageError Values := do
  let (p, _) ← readWords l {} words
  p.settle

/-! ## The command line -/

/-- The support library that generated code uses unless told otherwise. -/
def defaultSupport : String := "::autodsl_support"

/-- The command that some values describe. -/
def actionOf (l : Level) (v : Values) : Except UsageError Action :=
  match v.input with
  | none => .error .missingArgument
  | some input =>
    match l with
    | .list => .ok (.list input)
    | _ =>
      .ok (.generate
        { input, output := v.output, only := v.only, exclude := v.exclude
          supportPath := v.supportPath.getD defaultSupport
          verbose := v.verbose, quiet := v.quiet })

/-- Reads a command line. -/
def Invocation.ofWords (words : List String) : Except UsageError Invocation := do
  let (p, command) ← readWords .top {} words
  match command with
  | none =>
    let v ← p.settle
    if v = {} then .error .helpInstead else .error .missingCommand
  | some (l, rest) =>
    let inner ← readLevel l rest
    let action ← actionOf l inner
    let outer ← p.settle
    .ok
      { color := (inner.color <|> outer.color).getD .automatic
        theme := (inner.theme <|> outer.theme).getD .automatic
        action }

end FluentBuilders.Command
