import NoteQuery.Text.Quoted
import NoteQuery.Text.Similarity

/-!
# Options of commands

A command takes options and arguments. Long options may have their value behind an equals sign, short
ones may stand together after one hyphen with a value at the end, and two hyphens end the options. A
command that has commands of its own ends its options at the first argument.
-/

namespace NoteQuery.CommandLine

/-- An option with its spellings. It takes a value, or it is a flag; an eager one is acted on before
all others. -/
structure OptionSpec where
  key : String
  names : List String
  takesValue : Bool := false
  eager : Bool := false
  help : String

/-- A command. Its path is what is typed to reach it. -/
structure Command where
  path : String
  pattern : String
  about : String
  options : List OptionSpec
  arguments : List String := []
  isGroup : Bool := false
  members : List (String × String) := []

inductive UsageError where
  | noSuchOption (name : String) (similar : List String)
  | noSuchCommand (name : String) (similar : List String)
  | needsValue (option : String)
  | takesNoValue (option : String)
  | badValue (option : String) (message : String)
  | missingArgument (name : String)
  | extraArguments (args : List String)
  | missingCommand
  deriving DecidableEq, Repr

namespace UsageError

def suggestion : List String → String
  | [] => ""
  | [one] => " Did you mean " ++ Text.quoted one ++ "?"
  | several => " (Did you mean one of: " ++ ", ".intercalate (several.map Text.quoted) ++ "?)"

def message : UsageError → String
  | noSuchOption name similar => "No such option " ++ Text.quoted name ++ "." ++ suggestion similar
  | noSuchCommand name similar => "No such command " ++ Text.quoted name ++ "." ++ suggestion similar
  | needsValue option => "Option " ++ Text.quoted option ++ " requires an argument."
  | takesNoValue option => "Option " ++ Text.quoted option ++ " does not take a value."
  | badValue option message => "Invalid value for " ++ option ++ ": " ++ message
  | missingArgument name => "Missing argument '" ++ name ++ "'."
  | extraArguments args =>
    "Got unexpected extra argument" ++ (if args.length = 1 then "" else "s") ++ " (" ++
      " ".intercalate args ++ ")"
  | missingCommand => "Missing command."

/-- Whether the message is shown without the usage of the command. -/
def isBare : UsageError → Bool
  | needsValue _ => true
  | takesNoValue _ => true
  | _ => false

end UsageError

/-- What was typed: the options in order with their values, and the arguments. -/
structure Parsed where
  options : List (OptionSpec × String) := []
  arguments : List String := []

namespace Parsed

def addOption (spec : OptionSpec) (value : String) (p : Parsed) : Parsed :=
  { p with options := (spec, value) :: p.options }

def addArguments (args : List String) (p : Parsed) : Parsed :=
  { p with arguments := args ++ p.arguments }

/-- All values of an option. -/
def values (p : Parsed) (key : String) : List String :=
  (p.options.filter fun o => o.1.key == key).map Prod.snd

/-- The value of an option that counts, which is the last. -/
def value? (p : Parsed) (key : String) : Option String := (p.values key).getLast?

def has (p : Parsed) (key : String) : Bool := p.options.any fun o => o.1.key == key

/-- The eager option that was typed first. -/
def eager? (p : Parsed) : Option String :=
  (p.options.find? fun o => o.1.eager).map fun o => o.1.key

/-- The options that were typed, each once, in order. -/
def keys (p : Parsed) : List String := (p.options.map fun o => o.1.key).eraseDups

end Parsed

namespace Command

def find? (c : Command) (name : String) : Option OptionSpec :=
  c.options.find? fun o => o.names.contains name

def isLong (name : String) : Bool := ['-', '-'].isPrefixOf name.toList

def longNames (c : Command) : List String := (c.options.flatMap OptionSpec.names).filter isLong

/-- What follows short options: the rest of the arguments, with the value of the last one taken. -/
inductive Short where
  | done
  | value (option : OptionSpec) (name attached : String)

/-- The short options after one hyphen: the flags before the end, and what the end asks for. -/
def shorts (c : Command) : List Char → Except UsageError (List OptionSpec × Short)
  | [] => .ok ([], .done)
  | ch :: rest =>
    let name := String.ofList ['-', ch]
    match c.find? name with
    | none => .error (.noSuchOption name [])
    | some option =>
      if option.takesValue then .ok ([], .value option name (String.ofList rest))
      else match shorts c rest with
        | .ok (flags, last) => .ok (option :: flags, last)
        | .error e => .error e

/-- The name of an option and the value behind an equals sign. -/
def splitValue (arg : List Char) : List Char × Option (List Char) :=
  let name := arg.takeWhile (· != '=')
  (name, if name.length = arg.length then none else some (arg.drop (name.length + 1)))

/-- Adds the options of one argument; `next` goes on behind it, and behind the argument that is taken
as a value. -/
def withOption (c : Command) (arg : String) (rest : List String)
    (next : List String → Except UsageError Parsed) : Except UsageError Parsed :=
  let (name, attached) := splitValue arg.toList
  let name := String.ofList name
  match if isLong name then c.find? name else none with
  | some option =>
    if option.takesValue then
      match attached with
      | some value => (next rest).map (Parsed.addOption option (String.ofList value))
      | none =>
        match rest with
        | [] => .error (.needsValue name)
        | value :: rest => (next rest).map (Parsed.addOption option value)
    else if attached.isSome then .error (.takesNoValue name)
    else (next rest).map (Parsed.addOption option "")
  | none =>
    if isLong arg then .error (.noSuchOption name (Text.similarWords name c.longNames))
    else match shorts c (arg.toList.drop 1) with
      | .error e => .error e
      | .ok (flags, last) =>
        let addFlags (p : Parsed) : Parsed :=
          { p with options := flags.map (fun f => (f, "")) ++ p.options }
        match last with
        | .done => (next rest).map addFlags
        | .value option name attached =>
          if attached != "" then
            (next rest).map fun p => addFlags (p.addOption option attached)
          else match rest with
            | [] => .error (.needsValue name)
            | value :: rest => (next rest).map fun p => addFlags (p.addOption option value)

/-- Whether an argument is meant as an option. -/
def looksLikeOption (arg : String) : Bool :=
  match arg.toList with
  | '-' :: _ :: _ => true
  | _ => false

/-- Sorts arguments into options and others, at most `fuel` of them. -/
def parseArgs (c : Command) : Nat → List String → Except UsageError Parsed
  | 0, args => .ok ⟨[], args⟩
  | _ + 1, [] => .ok ⟨[], []⟩
  | fuel + 1, arg :: rest =>
    if arg = "--" then .ok ⟨[], rest⟩
    else if looksLikeOption arg then c.withOption arg rest (c.parseArgs fuel)
    else if c.isGroup then .ok ⟨[], arg :: rest⟩
    else (c.parseArgs fuel rest).map (Parsed.addArguments [arg])

/-- The options and arguments of a command. -/
def parse (c : Command) (args : List String) : Except UsageError Parsed :=
  c.parseArgs args.length args

/-! ## Texts -/

def usage (c : Command) : String := "Usage: " ++ c.path ++ " " ++ c.pattern

/-- What is shown of an error. -/
def errorText (c : Command) (e : UsageError) : String :=
  let message := "Error: " ++ e.message ++ "\n"
  if e.isBare then message
  else c.usage ++ "\nTry '" ++ c.path ++ " --help' for help.\n\n" ++ message

/-- A list of terms with what they mean. -/
def definitions (heading : String) (entries : List (String × String)) : String :=
  "\n" ++ heading ++ "\n" ++
    String.join (entries.map fun (term, meaning) => "  " ++ term ++ "  " ++ meaning ++ "\n")

def help (c : Command) : String :=
  c.usage ++ "\n\n  " ++ c.about ++ "\n" ++
    definitions "Options:" (c.options.map fun o =>
      (", ".intercalate o.names ++ (if o.takesValue then " VALUE" else ""), o.help)) ++
    if c.members.isEmpty then "" else definitions "Commands:" c.members

end Command

end NoteQuery.CommandLine
