/-
# The command line

The program has two commands: `generate types` runs the generator, `filter`
prints the text of a filter. What the arguments leave open is taken from
environment variables, and what these leave open from the defaults. A value may
follow its option or be attached to it; an option is given at most once.

Key definitions: `Request`, `Options`, `parseOptions`, `parse`, `Reply`, `run`.
-/
import IdentityTypes.Filter.Reader
import IdentityTypes.Generator
import IdentityTypes.Text.LetterCase

namespace IdentityTypes.CommandLine

/-- What the program is asked to do. -/
inductive Request where
  | generate (s : Settings)
  | filter (expression : String)
  | help
  deriving DecidableEq, Repr

/-- The values of environment variables. -/
abbrev Environment := String → Option String

/-- The options that have a value. -/
inductive Valued where
  | configDir
  | output
  | runtimeModule
  | formatter
  deriving DecidableEq, Repr

/-- The options that are given or not. -/
inductive Flag where
  | managedAny
  | connectorAny
  deriving DecidableEq, Repr

/-- The option with the name given. -/
def Valued.ofName? (name : String) : Option Valued :=
  match name with
  | "--config-dir" => some .configDir
  | "--output" => some .output
  | "--runtime-module" => some .runtimeModule
  | "--formatter" => some .formatter
  | _ => none

/-- The flag with the name given. -/
def Flag.ofName? (name : String) : Option Flag :=
  match name with
  | "--managed-any" => some .managedAny
  | "--connector-any" => some .connectorAny
  | _ => none

/-- The variable that stands in for an option. -/
def Valued.variable : Valued → String
  | .configDir => "IDM_CONFIG_DIR"
  | .output => "IDM_TS_TYPES"
  | .runtimeModule => "IDM_TS_RUNTIME_MODULE"
  | .formatter => "IDM_TS_FORMATTER"

/-- The variable that stands in for a flag. -/
def Flag.variable : Flag → String
  | .managedAny => "IDM_TS_MANAGED_ANY"
  | .connectorAny => "IDM_TS_CONNECTOR_ANY"

/-- Whether the option's value is a path, which must not be empty. -/
def Valued.isPath : Valued → Bool
  | .configDir | .output => true
  | .runtimeModule | .formatter => false

/-- The options given on the command line. -/
structure Options where
  values : List (Valued × String) := []
  flags : List Flag := []
  deriving DecidableEq, Repr

/-- The options with one more, unless it is there already or its value is not
allowed. -/
def Options.setValue (o : Options) (v : Valued) (value : String) : Option Options :=
  if (o.values.lookup v).isSome || (v.isPath && value = "") then none
  else some { o with values := (v, value) :: o.values }

/-- The options with one more flag, unless it is there already. -/
def Options.setFlag (o : Options) (f : Flag) : Option Options :=
  if o.flags.contains f then none else some { o with flags := f :: o.flags }

/-- Whether an argument begins like an option. -/
def looksLikeOption (a : String) : Bool := a.toList.head? = some '-' && a ≠ "-"

/-- The name of a long option and the value attached to it. -/
def splitLong (a : String) : String × Option String :=
  let name := a.toList.takeWhile (· ≠ '=')
  match a.toList.drop name.length with
  | [] => (a, none)
  | _ :: value => (String.ofList name, some (String.ofList value))

/-- What the arguments of a command come to: its options, a call for help, or
neither. -/
inductive Parsed (α : Type) where
  | ok (a : α)
  | help
  | wrong
  deriving DecidableEq, Repr

/-- What an argument does: set an option whose value is attached or still to come,
set a flag, call for help, end the options, or nothing known. -/
inductive Argument where
  | value (v : Valued) (attached : Option String)
  | flag (f : Flag)
  | help
  | stop
  | unknown
  deriving DecidableEq, Repr

/-- What an argument does. -/
def Argument.of (a : String) : Argument :=
  match a.toList with
  | ['-', '-'] => .stop
  | '-' :: '-' :: _ =>
    let (name, attached) := splitLong a
    match Valued.ofName? name, Flag.ofName? name, attached with
    | some v, _, attached => .value v attached
    | none, some f, none => .flag f
    | none, none, none => if name = "--help" then .help else .unknown
    | none, _, some _ => .unknown
  | ['-', 'o'] => .value .output none
  | '-' :: 'o' :: '=' :: r => .value .output (some (String.ofList r))
  | '-' :: 'o' :: r => .value .output (some (String.ofList r))
  | '-' :: 'h' :: _ => .help
  | _ => .unknown

/-- The options among arguments, where `pending` waits for its value. -/
def parseOptions : Option Valued → Options → List String → Parsed Options
  | some _, _, [] => .wrong
  | some v, o, a :: as =>
    if looksLikeOption a then .wrong
    else
      match o.setValue v a with
      | some o => parseOptions none o as
      | none => .wrong
  | none, o, [] => .ok o
  | none, o, a :: as =>
    match Argument.of a with
    | .value v none => parseOptions (some v) o as
    | .value v (some value) =>
      match o.setValue v value with
      | some o => parseOptions none o as
      | none => .wrong
    | .flag f =>
      match o.setFlag f with
      | some o => parseOptions none o as
      | none => .wrong
    | .help => .help
    | .stop => if as.isEmpty then .ok o else .wrong
    | .unknown => .wrong

/-- The words that count as false. -/
def falseWords : List String := ["n", "no", "f", "false", "off", "0"]

/-- Whether the value of a variable says yes. -/
def saysYes (value : String) : Bool :=
  value ≠ "" && !falseWords.contains (String.ofList (Text.lower value.toList))

/-- The value of an option: from the command line, else from its variable, else the
default. There is none if the variable holds an empty path. -/
def Options.value (o : Options) (env : Environment) (v : Valued) (default : String) :
    Option String :=
  match o.values.lookup v with
  | some value => some value
  | none =>
    match env v.variable with
    | none => some default
    | some value => if v.isPath && value = "" then none else some value

/-- Whether a flag is set: on the command line or by its variable. -/
def Options.flag (o : Options) (env : Environment) (f : Flag) : Bool :=
  o.flags.contains f || (env f.variable).any saysYes

/-- The type of open values. -/
def kindOf (any : Bool) : ValueKind := if any then .any else .unknown

/-- The settings of a run. -/
def Options.settings (o : Options) (env : Environment) : Option Settings := do
  let defaults : Settings := {}
  pure {
    configDir := ← o.value env .configDir defaults.configDir
    output := ← o.value env .output defaults.output
    managedKind := kindOf (o.flag env .managedAny)
    connectorKind := kindOf (o.flag env .connectorAny)
    runtimeModule := ← o.value env .runtimeModule defaults.runtimeModule
    formatter := (o.values.lookup .formatter).or (env Valued.formatter.variable) }

/-- The one operand of `filter`, where `found` is the one met so far. -/
def parseOperand : Option String → List String → Parsed String
  | some s, [] => .ok s
  | none, [] => .wrong
  | found, a :: as =>
    if a = "--" then
      match found, as with
      | none, [s] => .ok s
      | some s, [] => .ok s
      | _, _ => .wrong
    else if a = "--help" || a = "-h" then .help
    else if looksLikeOption a || found.isSome then .wrong
    else parseOperand (some a) as

/-- What the arguments ask for, unless they are wrong. -/
def parse (env : Environment) (args : List String) : Option Request :=
  match args with
  | "generate" :: "types" :: rest =>
    match parseOptions none {} rest with
    | .ok o => (o.settings env).map .generate
    | .help => some .help
    | .wrong => none
  | "filter" :: rest =>
    match parseOperand none rest with
    | .ok expression => some (.filter expression)
    | .help => some .help
    | .wrong => none
  | ["generate", a] | [a] =>
    if ["help", "--help", "-h"].contains a then some .help
    else if ["--version", "-V"].contains a && args.length = 1 then some .help
    else none
  | _ => none

/-- What the program prints and how it ends. -/
structure Reply where
  exit : Nat
  output : String
  errors : String
  deriving DecidableEq, Repr

/-- The reply to arguments that are wrong. -/
def usage : String :=
  "Usage: idm-ts-gen generate types [OPTIONS]\n       idm-ts-gen filter <EXPRESSION>\n"

/-- The reply of a run that failed: the error and what lies behind it. -/
def failure (message : String) (cause : Option String) : Reply :=
  ⟨1, "", "error: " ++ message ++ "\n" ++
    (match cause with
      | some c => "  caused by: " ++ c ++ "\n"
      | none => "")⟩

/-- Does what is asked for. -/
def perform (runner : Runner) (t : Files.Tree) : Request → Reply × Files.Tree
  | .help => (⟨0, usage, ""⟩, t)
  | .filter expression =>
    match Filter.ofText expression with
    | .ok f => (⟨0, f.text ++ "\n", ""⟩, t)
    | .error fault => (failure (fault.message.getD "malformed document") none, t)
  | .generate s =>
    match generate (formatterOf runner s.formatter) s t with
    | (.ok _, t) => (⟨0, "Wrote typescript types to [" ++ s.output ++ "]\n", ""⟩, t)
    | (.error e, t) =>
      match e.message with
      | some message => (failure message e.cause, t)
      | none => (⟨101, "", "a name cannot be split into words\n"⟩, t)

/-- Runs the program. -/
def run (runner : Runner) (env : Environment) (args : List String) (t : Files.Tree) :
    Reply × Files.Tree :=
  match parse env args with
  | some request => perform runner t request
  | none => (⟨2, "", usage⟩, t)

example : parse (fun _ => none) ["filter", "--", "-x"] = some (.filter "-x") := by decide
example : parse (fun _ => none) ["generate", "types", "-oa", "--output=b"] = none := by decide
example : parse (fun _ => none) ["generate", "types", "--managed-any", "-o", "a"]
    = some (.generate { managedKind := .any, output := "a" }) := by decide

end IdentityTypes.CommandLine
