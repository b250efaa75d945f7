/-!
# The command line

Words are read from left to right. An option takes its value from the same word
or from the next one, which then must not look like an option. Options given
before the command and after it are kept apart: none may be repeated on its
side, and for one that may stand on both sides the value after the command
counts. A request for the version or for help is answered when it is reached,
whatever follows it.
-/

namespace PodPlacement.CommandLine

/-- An option that takes a value. -/
inductive Flag where
  | config
  | input
  | mode
  deriving DecidableEq, Repr

/-- Where on the command line a word stands. -/
inductive Level where
  /-- Before the command. -/
  | program
  /-- After the command that enriches a specification. -/
  | enrich
  /-- After the command that prints the report. -/
  | descriptor
  deriving DecidableEq, Repr

/-- What the command line asks for. -/
inductive Request where
  | enrich (config : Option String) (input : String) (mode : Option String)
  | descriptor (config : Option String)
  | version
  | help
  deriving DecidableEq, Repr

/-- The values of options. -/
structure Options where
  config : Option String := none
  input : Option String := none
  mode : Option String := none
  deriving DecidableEq, Repr

/-- The value of an option. -/
def Options.get (options : Options) : Flag → Option String
  | .config => options.config
  | .input => options.input
  | .mode => options.mode

/-- Whether an option takes an empty value. A path is never empty. -/
def Flag.takesEmpty : Flag → Bool
  | .mode => true
  | .config | .input => false

/-- The options with one more, unless that is repeated or its value is empty
where it must not be. -/
def Options.set? (options : Options) (flag : Flag) (value : String) : Option Options :=
  if (options.get flag).isSome || (value = "" && !flag.takesEmpty) then none
  else
    match flag with
    | .config => some { options with config := some value }
    | .input => some { options with input := some value }
    | .mode => some { options with mode := some value }

/-- The options that may stand at a level. -/
def Level.flags : Level → List Flag
  | .program | .descriptor => [.config]
  | .enrich => [.config, .input, .mode]

/-- The long name of an option. -/
def Flag.name : Flag → String
  | .config => "config"
  | .input => "input"
  | .mode => "mode"

/-- The letter of an option. -/
def Flag.letter : Flag → Char
  | .config => 'c'
  | .input => 'i'
  | .mode => 'm'

/-- What a word means. -/
inductive Meaning where
  /-- An option, with its value if that is in the same word. -/
  | option (flag : Flag) (value : Option String)
  | version
  | help
  /-- A word that is no option. -/
  | plain
  /-- The end of the options. -/
  | terminator
  /-- An option that does not exist here. -/
  | unknown
  deriving DecidableEq, Repr

/-- A text before its first equals sign, and what follows that sign. -/
def splitValue : List Char → List Char × Option (List Char)
  | [] => ([], none)
  | c :: rest =>
      if c = '=' then ([], some rest)
      else
        let (name, value) := splitValue rest
        (c :: name, value)

/-- The meaning of a word with two dashes before `text`. -/
def longMeaning (level : Level) (text : List Char) : Meaning :=
  let (name, value) := splitValue text
  let name := String.ofList name
  let value := value.map String.ofList
  match level.flags.find? fun flag => flag.name = name with
  | some flag => .option flag value
  | none =>
      if name = "help" && value.isNone then .help
      else if name = "version" && value.isNone && level = .program then .version
      else .unknown

/-- The value of an option that follows its letter in the same word; an equals
sign between them does not belong to it. -/
def attachedValue : List Char → Option String
  | [] => none
  | '=' :: rest => some (String.ofList rest)
  | rest => some (String.ofList rest)

/-- The meaning of a word with one dash before a letter and further text. -/
def shortMeaning (level : Level) (letter : Char) (text : List Char) : Meaning :=
  match level.flags.find? fun flag => flag.letter = letter with
  | some flag => .option flag (attachedValue text)
  | none =>
      if letter = 'h' then .help
      else if letter = 'V' && level = .program then .version
      else .unknown

/-- The meaning of a word at a level. A dash alone is no option. -/
def meaning (level : Level) (word : String) : Meaning :=
  match word.toList with
  | ['-', '-'] => .terminator
  | '-' :: '-' :: text => longMeaning level text
  | '-' :: letter :: text => shortMeaning level letter text
  | _ => .plain

/-- Whether a word may be the value of the option before it. -/
def isValue (word : String) : Bool :=
  match word.toList with
  | '-' :: _ :: _ => false
  | _ => true

/-- The level that a command's name begins. -/
def command? (name : String) : Option Level :=
  if name = "enrich" then some .enrich
  else if name = "descriptor" then some .descriptor
  else none

/-- The configuration file: the value after the command counts more than the
one before it, and that more than the environment's. The environment is asked
on each side that does not name a file, and must not name an empty one. -/
def configFile? (fromEnvironment outer inner : Option String) : Option (Option String) :=
  if fromEnvironment = some "" && (outer.isNone || inner.isNone) then none
  else some (inner <|> outer <|> fromEnvironment)

/-- The request that the options amount to, after all words are read. -/
def finish (fromEnvironment : Option String) (level : Level) (outer options : Options) :
    Option Request := do
  let config ← configFile? fromEnvironment outer.config options.config
  match level with
  | .program => none
  | .enrich => return .enrich config (options.input.getD "-") options.mode
  | .descriptor => return .descriptor config

/-- Whether the words after the command that asks for help name a command. -/
def namesCommand : List String → Bool
  | [] => true
  | [name] => (command? name).isSome || name = "help"
  | _ => false

/-- The request of the words left to read. `outer` are the options before the
command if there has been one, `options` those of the present level. -/
def readWords (fromEnvironment : Option String) (level : Level) (outer options : Options) :
    List String → Option Request
  | [] => finish fromEnvironment level outer options
  | word :: rest =>
    match meaning level word with
    | .version => some .version
    | .help => some .help
    | .unknown => none
    | .terminator =>
        if rest.isEmpty then finish fromEnvironment level outer options else none
    | .plain =>
        if level = .program then
          match command? word with
          | some level => readWords fromEnvironment level options {} rest
          | none => if word = "help" && namesCommand rest then some .help else none
        else none
    | .option flag (some value) =>
      match options.set? flag value with
      | some options => readWords fromEnvironment level outer options rest
      | none => none
    | .option flag none =>
      match rest with
      | [] => none
      | value :: rest =>
          if isValue value then
            match options.set? flag value with
            | some options => readWords fromEnvironment level outer options rest
            | none => none
          else none

/-- What a command line asks for; none if it is not understood. The
environment may name a configuration file. -/
def read (fromEnvironment : Option String) (words : List String) : Option Request :=
  readWords fromEnvironment .program {} {} words

end PodPlacement.CommandLine
