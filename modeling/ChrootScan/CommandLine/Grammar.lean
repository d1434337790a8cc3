import ChrootScan.Text.Decimal
import ChrootScan.Text.Fields

/-!
# Reading a command line

A `Grammar` lists the options, the positional argument and the commands that a program takes; reading
words by it gives `Matches`, the values of every option that was given. A value is checked when the
next option begins, or at the end; one that is attached to its option is checked at once. So of two
faults in a command line an unknown option wins over a bad value right before it.
-/

namespace ChrootScan.CommandLine

/-- What is wrong with a command line, or what else ends its reading. -/
inductive Fault
  | unknownArgument
  | invalidValue
  /-- A value of the right form that is out of range, or no number at all. -/
  | valueValidation
  /-- An option given twice, or beside another one that excludes it. -/
  | argumentConflict
  | missingRequiredArgument
  | invalidSubcommand
  | missingSubcommand
  /-- A value attached to an option that takes none. -/
  | tooManyValues
  | displayHelp
  | displayVersion
  /-- Nothing was given where something has to be. -/
  | displayHelpOnMissingArgumentOrSubcommand
deriving DecidableEq, Repr

/-- The exit code of a program that cannot read its command line. -/
def Fault.exitCode : Fault → Int
  | displayHelp | displayVersion => 0
  | _ => 2

/-! ## Grammars -/

/-- The values of an option. -/
inductive ValueForm
  | text
  /-- Not empty. -/
  | path
  /-- A number below a bound; a minus sign before a zero is taken where `minusZero` says so. -/
  | number (bound : Nat) (minusZero : Bool)
  /-- One of some names, in any case where `anyCase` says so. -/
  | choice (names : List String) (anyCase : Bool)
deriving DecidableEq, Repr

/-- How often an option can be given, and whether it takes a value. -/
inductive Arity
  /-- Once, without a value. -/
  | flag
  /-- Once, with a value. -/
  | single
  /-- Any number of times, with a value each. -/
  | repeated
deriving DecidableEq, Repr

/-- An option, known by its long name. -/
structure OptionSpec where
  long : String
  short : Option Char := none
  arity : Arity := .flag
  form : ValueForm := .text
  /-- A value is cut into several at this character. -/
  delimiter : Option Char := none
  /-- Values may begin with a dash. -/
  dashValues : Bool := false
  /-- The options that this one takes back. -/
  overrides : List String := []
  /-- The options that cannot be given beside this one. -/
  conflicts : List String := []
deriving DecidableEq, Repr

/-- The positional argument of a command. -/
structure Positional where
  name : String
  /-- It takes all words that are left. -/
  multiple : Bool := false
deriving DecidableEq, Repr

/-- What a command line may hold. -/
structure Grammar where
  options : List OptionSpec := []
  positional : Option Positional := none
  /-- The names of the commands. -/
  commands : List String := []
  /-- `--version` is understood. -/
  hasVersion : Bool := false
deriving DecidableEq, Repr

namespace OptionSpec

/-- An option without a value. -/
def flag (long : String) (short : Option Char := none) : OptionSpec :=
  { long, short }

/-- An option with one value. -/
def single (long : String) (form : ValueForm := .text) (short : Option Char := none) : OptionSpec :=
  { long, short, arity := .single, form }

/-- An option that can be given many times. -/
def repeated (long : String) : OptionSpec :=
  { long, arity := .repeated }

/-- The option with values that may begin with a dash. -/
def withDashValues (o : OptionSpec) : OptionSpec :=
  { o with dashValues := true }

/-- Two options without a value, the later of which counts. -/
def opposites (yes no : String) : List OptionSpec :=
  [{ long := yes, overrides := [no] }, { long := no, overrides := [yes] }]

end OptionSpec

/-! ## Values -/

/-- A word is a value of a form. -/
def ValueForm.check (form : ValueForm) (word : String) : Except Fault Unit :=
  match form with
  | .text => .ok ()
  | .path => if word.isEmpty then .error .invalidValue else .ok ()
  | .number bound minusZero =>
    let zeros := ((Text.afterLead? "-" word).getD "").toList
    if (Text.numeral? bound word).isSome || (minusZero && !zeros.isEmpty && zeros.all (· == '0'))
    then .ok ()
    else .error .valueValidation
  | .choice names anyCase =>
    let fits (name : String) : Bool :=
      name == word || (anyCase && name.toList.map Char.toLower == word.toList.map Char.toLower)
    if names.any fits then .ok () else .error .invalidValue

/-- The options that were given, with their values. -/
abbrev Matches := List (String × List String)

namespace Matches

def has (m : Matches) (name : String) : Bool :=
  (m.lookup name).isSome

/-- The matches without an option. -/
def drop (m : Matches) (name : String) : Matches :=
  m.filter (·.1 ≠ name)

/-- The values of an option. -/
def values (m : Matches) (name : String) : List String :=
  (m.lookup name).getD []

/-- The last value of an option. -/
def value? (m : Matches) (name : String) : Option String :=
  (m.values name).getLast?

/-- The number that an option was given. -/
def number (m : Matches) (name : String) (standard : Nat) : Nat :=
  match m.value? name with
  | some word => (Text.numeral? Text.bound64 word).getD 0
  | none => standard

end Matches

/-! ## Reading -/

/-- An argument of either kind. -/
inductive Target
  | option (o : OptionSpec)
  | positional (p : Positional)
deriving DecidableEq, Repr

/-- The state of reading. -/
structure Reading where
  found : Matches := []
  /-- The argument whose values were not checked yet, and these values. -/
  pending : Option (Target × List String) := none
  /-- The option that takes the next word as its value. -/
  awaiting : Option OptionSpec := none
  /-- Two dashes were read, so no word is an option any more. -/
  trailing : Bool := false
  /-- The positional argument has its value. -/
  placed : Bool := false
deriving DecidableEq, Repr

namespace Reading

/-- The names of options that are taken back when `o` is given. -/
def takenBack (g : Grammar) (o : OptionSpec) : List String :=
  o.overrides ++ (g.options.filter (·.overrides.contains o.long)).map (·.long)

/-- The values that words give to an option. -/
def cut (o : OptionSpec) (words : List String) : List String :=
  match o.delimiter with
  | some c => words.flatMap (Text.splitAt c)
  | none => words

/-- Records an option with its values. -/
def record (g : Grammar) (r : Reading) (o : OptionSpec) (words : List String) :
    Except Fault Reading := do
  if o.arity ≠ .flag && words.isEmpty then .error .invalidValue
  let values := cut o words
  if o.arity ≠ .repeated && r.found.has o.long then .error .argumentConflict
  let found := (takenBack g o).foldl Matches.drop r.found
  values.forM o.form.check
  .ok { r with found := (o.long, found.values o.long ++ values) :: found.drop o.long }

/-- Records a positional argument. -/
def recordPositional (r : Reading) (p : Positional) (words : List String) : Except Fault Reading := do
  words.forM ValueForm.path.check
  .ok { r with found := (p.name, r.found.values p.name ++ words) :: r.found.drop p.name }

/-- Checks and records what is pending. -/
def settle (g : Grammar) (r : Reading) : Except Fault Reading :=
  match r.pending with
  | none => .ok r
  | some (.option o, words) => record g { r with pending := none } o words
  | some (.positional p, words) => recordPositional { r with pending := none } p words

/-- Records an option right away. -/
def give (g : Grammar) (r : Reading) (o : OptionSpec) (words : List String) :
    Except Fault Reading := do
  record g (← settle g { r with awaiting := none }) o words

/-- Lets an option wait for its value. -/
def await (g : Grammar) (r : Reading) (o : OptionSpec) : Except Fault Reading := do
  let r ← settle g r
  .ok { r with pending := some (.option o, []), awaiting := some o }

/-- Gives the awaiting option its value. -/
def supply (r : Reading) (o : OptionSpec) (word : String) : Reading :=
  { r with pending := some (.option o, [word]), awaiting := none }

/-- An option that ends the reading with a text of its own. -/
def ending (g : Grammar) (r : Reading) (what : Fault) : Except Fault Reading := do
  let _ ← settle g r
  .error what

/-- Reads an option by its long name. -/
def long (g : Grammar) (r : Reading) (name : String) (value : Option String) :
    Except Fault Reading :=
  match g.options.find? (·.long == name) with
  | some o =>
    match o.arity, value with
    | .flag, some _ => .error .tooManyValues
    | .flag, none => give g r o []
    | _, some word => give g r o [word]
    | _, none => await g r o
  | none =>
    let special :=
      if name == "help" then some Fault.displayHelp
      else if g.hasVersion && name == "version" then some .displayVersion
      else none
    match special with
    | some what => if value.isSome then .error .tooManyValues else ending g r what
    | none => .error .unknownArgument

/-- Reads options by their short names, the value of the last one attached. -/
def shorts (g : Grammar) (r : Reading) : List Char → Except Fault Reading
  | [] => .ok r
  | c :: rest =>
    match g.options.find? (·.short == some c) with
    | some o =>
      if o.arity = .flag then (give g r o []).bind fun r => shorts g r rest
      else
        match rest with
        | [] => await g r o
        | '=' :: word => give g r o [String.ofList word]
        | word => give g r o [String.ofList word]
    | none =>
      if c = 'h' then ending g r .displayHelp
      else if g.hasVersion && c = 'V' then ending g r .displayVersion
      else .error .unknownArgument

/-- Reads a positional argument. -/
def place (g : Grammar) (r : Reading) (word : String) : Except Fault Reading :=
  match g.positional with
  | none =>
    .error (if g.commands.isEmpty || (r.trailing && ("help" :: g.commands).contains word) then
      .unknownArgument else .invalidSubcommand)
  | some p =>
    if p.multiple then
      match r.pending with
      | some (.positional q, words) =>
        .ok { r with pending := some (.positional q, words ++ [word]), awaiting := none }
      | _ => do
        let r ← settle g r
        .ok { r with pending := some (.positional p, [word]), awaiting := none }
    else if r.placed then .error .unknownArgument
    else do
      let r ← settle g r
      .ok { r with pending := some (.positional p, [word]), awaiting := none, placed := true }

/-- The name and the attached value of a long option. -/
def cutLong (word : List Char) : String × Option String :=
  let name := word.takeWhile (· ≠ '=')
  match word.drop name.length with
  | _ :: value => (String.ofList name, some (String.ofList value))
  | [] => (String.ofList name, none)

/-- Reads a word. -/
def word (g : Grammar) (r : Reading) (w : String) : Except Fault Reading :=
  if r.trailing then place g r w
  else
    match r.awaiting, w.toList with
    | some o, chars =>
      if o.dashValues then .ok (r.supply o w)
      else
        match chars with
        | ['-', '-'] => .ok { r with trailing := true }
        | '-' :: '-' :: rest => let (name, value) := cutLong rest; long g r name value
        | '-' :: c :: rest => shorts g r (c :: rest)
        | _ => .ok (r.supply o w)
    | none, ['-', '-'] => .ok { r with trailing := true }
    | none, '-' :: '-' :: rest => let (name, value) := cutLong rest; long g r name value
    | none, '-' :: c :: rest => shorts g r (c :: rest)
    | none, _ => place g r w

/-- A word names a command here. -/
def isCommand (g : Grammar) (r : Reading) (w : String) : Bool :=
  !r.trailing && r.awaiting.isNone && !g.commands.isEmpty && ("help" :: g.commands).contains w

end Reading

/-- What words were read as: options alone, or options and a command with the words behind it. -/
structure Parsed where
  reading : Reading
  command : Option (String × List String) := none

/-- Reads words up to their end or to a command. -/
def readWords (g : Grammar) (r : Reading) : List String → Except Fault Parsed
  | [] => .ok { reading := r }
  | w :: rest =>
    if r.isCommand g w then .ok { reading := r, command := some (w, rest) }
    else (r.word g w).bind fun r => readWords g r rest

/-- Two options were given that exclude each other. -/
def inConflict (g : Grammar) (m : Matches) : Bool :=
  g.options.any fun o => m.has o.long && o.conflicts.any m.has

/-- Checks what is pending and what belongs together. -/
def finish (g : Grammar) (p : Parsed) : Except Fault Matches := do
  let r ← p.reading.settle g
  let m := r.found
  if !g.commands.isEmpty && p.command.isNone then
    .error (if m.isEmpty then .displayHelpOnMissingArgumentOrSubcommand else .missingSubcommand)
  if inConflict g m then .error .argumentConflict
  match g.positional with
  | some p => if m.has p.name then .ok m else .error .missingRequiredArgument
  | none => .ok m

/-- Reads all words by a grammar without commands. -/
def readAll (g : Grammar) (words : List String) : Except Fault Matches := do
  finish g (← readWords g {} words)

/-- Reads what stands behind `help`, which explains at most one command. -/
def readHelp (g : Grammar) : List String → Fault
  | [] => .displayHelp
  | [name] => if ("help" :: g.commands).contains name then .displayHelp else .invalidSubcommand
  | _ => .invalidSubcommand

end ChrootScan.CommandLine
