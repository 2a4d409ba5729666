/-
This file reads the arguments of a program by a description of its options.
-/

namespace CommandShell.Invocation

/-- These are the reasons why arguments do not start the program. -/
inductive Refusal where
  | helpRequested
  | versionRequested
  | unknownArgument
  | unknownSubcommand
  /-- An option lacks its value, or the value is empty where it must not be. -/
  | missingValue
  | malformedValue
  | missingArgument
  /-- An option stands twice. -/
  | repeatedOption
  /-- An option that takes no value has one. -/
  | unexpectedValue
  deriving Repr, DecidableEq

/-- A user who asks for help or for the version has made no mistake. -/
def Refusal.exitCode : Refusal → Nat
  | .helpRequested | .versionRequested => 0
  | _ => 2

/-- Some options ask for something else than a run of the program. -/
inductive OptionRole where
  | switch
  | value (check : String → Option Refusal)
  | request (refusal : Refusal)

structure OptionSpec where
  short : Option Char
  long : String
  role : OptionRole

/-- An argument that is not an option has a place instead. -/
structure PlaceSpec where
  required : Bool
  /-- It may start like an option. -/
  acceptsHyphens : Bool
  /-- It takes all arguments that follow. -/
  takesRest : Bool

/-- A level describes the arguments of the program or of one subcommand. -/
structure Level where
  options : List OptionSpec
  place : Option PlaceSpec
  subcommands : List String

/-- These are the options with their values, and the arguments at the place. -/
structure Given where
  options : List (String × String)
  arguments : List String
  deriving Repr, DecidableEq

namespace Given

def value? (given : Given) (long : String) : Option String :=
  given.options.lookup long

def has (given : Given) (long : String) : Bool :=
  (given.value? long).isSome

end Given

/-- This is an option whose value is still open or has not been checked yet. -/
structure Pending where
  spec : OptionSpec
  value : Option String

/-- This is what has been read of the arguments. Behind two hyphens none of them is an option. -/
structure Progress where
  given : Given
  pending : Option Pending
  onlyArguments : Bool

namespace Progress

def start : Progress := ⟨⟨[], []⟩, none, false⟩

/-- The last option still takes the next argument as its value. -/
def awaitsValue (progress : Progress) : Bool :=
  progress.pending.any fun pending => pending.value.isNone

def record (progress : Progress) (long value : String) : Except Refusal Progress :=
  if progress.given.has long then .error .repeatedOption
  else
    .ok { progress with
      given := { progress.given with options := progress.given.options ++ [(long, value)] }
      pending := none }

/-- This checks the option before. -/
def settle (progress : Progress) : Except Refusal Progress :=
  match progress.pending with
  | none => .ok progress
  | some ⟨_, none⟩ => .error .missingValue
  | some ⟨spec, some value⟩ => do
      let after ← progress.record spec.long value
      match spec.role with
      | .value check =>
          match check value with
          | some refusal => .error refusal
          | none => .ok after
      | _ => .ok after

/-- This meets an option; the value stands in the same argument. -/
def meet (progress : Progress) (spec : OptionSpec) (value : Option String) :
    Except Refusal Progress :=
  match spec.role, value with
  | .switch, none => do (← progress.settle).record spec.long ""
  | .request refusal, none => do
      let _ ← progress.settle
      .error refusal
  | .value _, none => do return { ← progress.settle with pending := some ⟨spec, none⟩ }
  | .value _, some value => do
      settle { ← progress.settle with pending := some ⟨spec, some value⟩ }
  | _, some _ => .error .unexpectedValue

/-- This gives the awaited value to an option. -/
def supply (progress : Progress) (value : String) : Progress :=
  { progress with pending := progress.pending.map fun pending => { pending with value := value } }

end Progress

namespace Level

def findShort? (level : Level) (char : Char) : Option OptionSpec :=
  level.options.find? fun spec => spec.short == some char

def findLong? (level : Level) (long : String) : Option OptionSpec :=
  level.options.find? fun spec => spec.long == long

/-- The place is taken once, except where it takes all that follows. -/
def openPlace? (level : Level) (progress : Progress) : Option PlaceSpec :=
  level.place.filter fun place => place.takesRest || progress.given.arguments.isEmpty

def acceptsHyphens (level : Level) (progress : Progress) : Bool :=
  (level.openPlace? progress).any fun place => place.acceptsHyphens

/-- What looks like an option may be none; then the result is `none`. -/
abbrev Attempt := Except Refusal (Option Progress)

/-- This is an option that does not exist. -/
def unknown (level : Level) (progress : Progress) : Attempt :=
  if level.acceptsHyphens progress then .ok none else .error .unknownArgument

/-- This reads the letters behind a hyphen. The text behind the letter of an option with a value is
the value; an equals sign may stand between them. -/
def readLetters (level : Level) (progress : Progress) : List Char → Except Refusal Progress
  | [] => .ok progress
  | letter :: rest =>
      match level.findShort? letter with
      | none => .error .unknownArgument
      | some spec =>
          match spec.role, rest with
          | .value _, '=' :: value => progress.meet spec (some (String.ofList value))
          | .value _, _ :: _ => progress.meet spec (some (String.ofList rest))
          | _, _ => do readLetters level (← progress.meet spec none) rest

def readShort (level : Level) (progress : Progress) (letters : List Char) : Attempt :=
  if level.acceptsHyphens progress && letters.any (fun letter => (level.findShort? letter).isNone) then
    .ok none
  else
    some <$> level.readLetters progress letters

/-- A value may stand behind an equals sign. -/
def readLong (level : Level) (progress : Progress) (text : List Char) : Attempt :=
  let name := String.ofList (text.takeWhile (· != '='))
  let value :=
    match text.dropWhile (· != '=') with
    | [] => none
    | _ :: value => some (String.ofList value)
  match level.findLong? name with
  | some spec => some <$> progress.meet spec value
  | none => level.unknown progress

def readOption (level : Level) (progress : Progress) (argument : String) : Attempt :=
  match argument.toList with
  | '-' :: '-' :: text => level.readLong progress text
  | ['-'] => .ok none
  | '-' :: letters => level.readShort progress letters
  | _ => .ok none

/-- An argument without a place is refused before the option in front of it is checked. -/
def readArgument (level : Level) (progress : Progress) (argument : String) :
    Except Refusal Progress := do
  match level.openPlace? progress with
  | some place =>
      let progress ← progress.settle
      return { progress with
        given := { progress.given with arguments := progress.given.arguments ++ [argument] }
        onlyArguments := progress.onlyArguments || place.takesRest }
  | none =>
      let isHidden := progress.onlyArguments && level.subcommands.contains argument
      .error (if level.subcommands.isEmpty || isHidden then .unknownArgument else .unknownSubcommand)

/-- This reads arguments up to the name of a subcommand. The option before it is left unchecked. -/
def readUpTo (level : Level) (progress : Progress) :
    List String → Except Refusal (Progress × Option (String × List String))
  | [] => .ok (progress, none)
  | argument :: rest =>
      if progress.onlyArguments then do
        readUpTo level (← level.readArgument progress argument) rest
      else if !progress.awaitsValue && level.subcommands.contains argument then
        .ok (progress, some (argument, rest))
      else if argument = "--" then
        readUpTo level { progress with onlyArguments := true } rest
      else do
        match ← level.readOption progress argument with
        | some progress => readUpTo level progress rest
        | none =>
            if progress.awaitsValue then readUpTo level (progress.supply argument) rest
            else readUpTo level (← level.readArgument progress argument) rest

/-- This checks what can be checked at the end only. -/
def finish (level : Level) (progress : Progress) : Except Refusal Given := do
  let progress ← progress.settle
  if level.place.any (·.required) && progress.given.arguments.isEmpty then
    .error .missingArgument
  else
    .ok progress.given

/-- This reads the arguments of a subcommand. -/
def readAll (level : Level) (arguments : List String) : Except Refusal Given := do
  let (progress, _) ← level.readUpTo .start arguments
  level.finish progress

end Level

end CommandShell.Invocation
