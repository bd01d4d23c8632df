import ReleaseGate.Request
import ReleaseGate.Text.Blank

namespace ReleaseGate.Command

/-- What an option takes: nothing, any text, or a path, which is never empty. -/
inductive Takes where
  | nothing
  | text
  | path
  deriving DecidableEq, Repr

/-- An option, by its name after two hyphens and its letter after one. -/
structure Switch where
  name : String
  letter : Option Char := none
  takes : Takes := .text
  deriving DecidableEq, Repr

/-- The options that may stand before and after the operation. -/
def general : List Switch :=
  [{ name := "config", takes := .path }, { name := "log", takes := .path }, { name := "persona" },
    { name := "verbose", takes := .nothing }]

def help : Switch := { name := "help", letter := some 'h', takes := .nothing }

def version : Switch := { name := "version", letter := some 'V', takes := .nothing }

def eol : Switch := { name := "eol", takes := .nothing }

/-- The options that make up a request. -/
def requesting : List Switch :=
  [{ name := "channel" }, { name := "product" }, { name := "product-version", letter := some 'v' },
    { name := "platform", letter := some 'p' }, { name := "pv" },
    { name := "arch", letter := some 'm' }, { name := "pm" }, { name := "license-id" }, eol]

/-- The options given, each once, with what they took. -/
abbrev Given := List (String × String)

/-- What an argument looks like. A value may stand in the argument of its option. -/
inductive Word where
  | plain
  | ending
  | named (name : String) (value : Option String)
  | lettered (letter : Char) (value : Option String)
  deriving DecidableEq, Repr

/-- Two hyphens alone end the options; one alone is a plain argument. -/
def Word.ofArgument (argument : String) : Word :=
  match argument.toList with
  | ['-', '-'] => ending
  | '-' :: '-' :: rest =>
    named (String.ofList (Text.cut '=' rest).1) ((Text.cut '=' rest).2.map String.ofList)
  | ['-', letter] => lettered letter none
  | '-' :: letter :: '=' :: rest => lettered letter (some (String.ofList rest))
  | '-' :: letter :: rest => lettered letter (some (String.ofList rest))
  | _ => plain

/-- The option that an argument names, and the value that came with it. -/
def Word.switch? (switches : List Switch) : Word → Option (Switch × Option String)
  | named name value => (switches.find? (·.name = name)).map (·, value)
  | lettered letter value => do
    let switch ← switches.find? (·.letter = some letter)
    return (switch, if switch.takes = .nothing then none else value)
  | _ => none

/-- How far the options were read: to the first plain argument, or to one that asks for the version
or for help, or to a mistake. -/
inductive Reading where
  | read (given : Given) (rest : List String)
  | version
  | help
  | wrong
  deriving DecidableEq, Repr

/-- The options with one more. None is given twice. -/
def Switch.given? (switch : Switch) (value : String) (given : Given) : Option Given :=
  if (given.lookup switch.name).isSome || (switch.takes = .path && value = "") then none
  else some (given ++ [(switch.name, value)])

/-- A value that is an argument of its own does not look like an option. -/
def readOptions (switches : List Switch) (given : Given) : List String → Reading
  | [] => .read given []
  | argument :: rest =>
    match Word.ofArgument argument with
    | .plain => .read given (argument :: rest)
    | .ending => if rest.isEmpty then .read given [] else .wrong
    | word =>
      match word.switch? switches with
      | none => .wrong
      | some (switch, value) =>
        match switch.takes, value with
        | .nothing, some _ => .wrong
        | .nothing, none =>
          if switch = help then .help
          else if switch = version then .version
          else
            match switch.given? "" given with
            | some given => readOptions switches given rest
            | none => .wrong
        | _, some value =>
          match switch.given? value given with
          | some given => readOptions switches given rest
          | none => .wrong
        | _, none =>
          match rest with
          | [] => .wrong
          | value :: rest =>
            if Word.ofArgument value = .plain then
              match switch.given? value given with
              | some given => readOptions switches given rest
              | none => .wrong
            else .wrong

/-- A request as it was worded. -/
structure Wording where
  channel : String := "stable"
  product : String
  version : String := ""
  platform : String := ""
  platformVersion : String := ""
  architecture : String := ""
  packageManager : String := ""
  licenseId : String := ""
  eol : Bool := false
  deriving DecidableEq, Repr

namespace Wording

/-- A request names its product. -/
def ofGiven? (given : Given) : Option Wording := do
  let product ← given.lookup "product"
  let textOf (name : String) : String := (given.lookup name).getD ""
  return {
    channel := (given.lookup "channel").getD "stable"
    product
    version := textOf "product-version"
    platform := textOf "platform"
    platformVersion := textOf "pv"
    architecture := textOf "arch"
    packageManager := textOf "pm"
    licenseId := textOf "license-id"
    eol := (given.lookup "eol").isSome }

/-- The request that is meant. Blanks around product and version do not count. -/
def request (wording : Wording) : Except Failure Request := do
  return {
    channel := ← Channel.ofName wording.channel
    product := Text.trim wording.product
    version := Text.trim wording.version
    platform := wording.platform
    platformVersion := wording.platformVersion
    architecture := wording.architecture
    packageManager := wording.packageManager
    licenseId := wording.licenseId
    eol := wording.eol }

end Wording

inductive Operation where
  | products (eol : Bool)
  | platforms
  | architectures
  | packageManagers
  | latest (wording : Wording)
  | versions (wording : Wording)
  | packages (wording : Wording)
  | metadata (wording : Wording)
  | fileName (wording : Wording)
  | download (wording : Wording) (output : Option String)
  deriving DecidableEq, Repr

namespace Operation

/-- The options of an operation, by its name. -/
def switches? (name : String) : Option (List Switch) :=
  [("products", [eol]), ("platforms", []), ("architectures", []), ("package-managers", []),
    ("latest", requesting), ("versions", requesting), ("packages", requesting),
    ("metadata", requesting), ("filename", requesting),
    ("download", requesting ++ [{ name := "output", takes := .path }])].lookup name

def ofGiven? (name : String) (given : Given) : Option Operation :=
  match name with
  | "products" => some (products (given.lookup "eol").isSome)
  | "platforms" => some platforms
  | "architectures" => some architectures
  | "package-managers" => some packageManagers
  | "latest" => (Wording.ofGiven? given).map latest
  | "versions" => (Wording.ofGiven? given).map versions
  | "packages" => (Wording.ofGiven? given).map packages
  | "metadata" => (Wording.ofGiven? given).map metadata
  | "filename" => (Wording.ofGiven? given).map fileName
  | "download" =>
    (Wording.ofGiven? given).map fun wording => download wording (given.lookup "output")
  | _ => none

end Operation

/-- What is to be done, and how. -/
structure Invocation where
  config : Option String := none
  log : Option String := none
  persona : Option String := none
  verbose : Bool := false
  operation : Operation
  deriving DecidableEq, Repr

/-- What the arguments come to. -/
inductive Arguments where
  | invocation (invocation : Invocation)
  | version
  | help
  | wrong
  deriving DecidableEq, Repr

namespace Arguments

/-- A general option given after the operation outdoes the same one before it. -/
def invocationOf (before after : Given) (operation : Operation) : Invocation :=
  let given := after ++ before
  { config := given.lookup "config"
    log := given.lookup "log"
    persona := given.lookup "persona"
    verbose := (given.lookup "verbose").isSome
    operation }

/-- The operation stands after the general options, and its own options after it. -/
def ofList (arguments : List String) : Arguments :=
  match readOptions (general ++ [Command.help, Command.version]) [] arguments with
  | .version => version
  | .help => help
  | .read before (name :: rest) =>
    match Operation.switches? name with
    | none => if name = "help" then help else wrong
    | some switches =>
      match readOptions (switches ++ general ++ [Command.help]) [] rest with
      | .help => help
      | .read after [] =>
        match Operation.ofGiven? name after with
        | some operation => invocation (invocationOf before after operation)
        | none => wrong
      | _ => wrong
  | _ => wrong

end Arguments

end ReleaseGate.Command
