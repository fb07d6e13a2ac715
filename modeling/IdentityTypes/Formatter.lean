/-
# Formatters

A formatter gets the generated module before it is written, and makes another
text of it or fails. The usual one hands the text to a command and takes what
the command prints; words of the command may name the file that is going to be
written. A command may do anything to the files on the way, so a formatter comes
with the files that it leaves.

What running a program means is left open here: a `Runner` says what a program
prints and how it ends.

Key definitions: `Formatter`, `FormatFailure`, `Formatter.ofFunction`,
`unformatted`, `Ending`, `Outcome`, `Runner`, `Command`, `Command.parse?`,
`Command.formatter`.
-/
import IdentityTypes.Files.Tree
import IdentityTypes.Text.Blank

namespace IdentityTypes

/-- Why a formatter failed. -/
structure FormatFailure where
  command : String
  reason : String
  deriving DecidableEq, Repr

/-- How a failure is worded. -/
def FormatFailure.message (f : FormatFailure) : String :=
  "formatter [" ++ f.command ++ "] failed: " ++ f.reason

/-- Makes another text of a generated module that is to be written to a path. -/
abbrev Formatter := (source : String) → (path : String) → Files.Tree →
  Except FormatFailure String × Files.Tree

/-- A formatter that touches no file. -/
def Formatter.ofFunction (format : String → String → Except FormatFailure String) : Formatter :=
  fun source path t => (format source path, t)

/-- Leaves the text as it is. -/
def unformatted : Formatter := .ofFunction fun source _ => .ok source

/-- How a program ends: with a code, or by a signal. -/
inductive Ending where
  | code (n : Nat)
  | signal (n : Nat)
  deriving DecidableEq, Repr

/-- The signals that programs are ended by. -/
def signalNames : List (Nat × String) :=
  [(1, "SIGHUP"), (2, "SIGINT"), (3, "SIGQUIT"), (4, "SIGILL"), (5, "SIGTRAP"), (6, "SIGABRT"),
    (7, "SIGBUS"), (8, "SIGFPE"), (9, "SIGKILL"), (10, "SIGUSR1"), (11, "SIGSEGV"),
    (12, "SIGUSR2"), (13, "SIGPIPE"), (14, "SIGALRM"), (15, "SIGTERM"), (16, "SIGSTKFLT"),
    (17, "SIGCHLD"), (18, "SIGCONT"), (19, "SIGSTOP"), (20, "SIGTSTP"), (21, "SIGTTIN"),
    (22, "SIGTTOU"), (23, "SIGURG"), (24, "SIGXCPU"), (25, "SIGXFSZ"), (26, "SIGVTALRM"),
    (27, "SIGPROF"), (28, "SIGWINCH"), (29, "SIGIO"), (30, "SIGPWR"), (31, "SIGSYS")]

/-- How an ending is worded. -/
def Ending.message : Ending → String
  | .code n => "exit status: " ++ toString n
  | .signal n =>
    "signal: " ++ toString n ++
      (match signalNames.lookup n with
        | some name => " (" ++ name ++ ")"
        | none => "")

/-- What a program has printed, how much of its input it has read, the files that it
leaves, and how it ended. -/
structure Outcome where
  output : List UInt8
  errors : List UInt8
  consumed : Nat
  files : Files.Tree
  ending : Ending
  deriving Repr

/-- How much a pipe holds until somebody reads it. -/
def pipeCapacity : Nat := 65536

/-- How much room is made in a pipe at once. -/
def pipeUnit : Nat := 4096

/-- Whether some input fits into a pipe, of which a part is read before it is
closed. -/
def Outcome.takes (o : Outcome) (size : Nat) : Bool :=
  size ≤ pipeCapacity + o.consumed / pipeUnit * pipeUnit

/-- Runs a program on some input, unless it cannot be started; then the reason is
given. -/
abbrev Runner := (program : String) → (args : List String) → (input : List UInt8) →
  Files.Tree → Except String Outcome

/-- A command line. -/
structure Command where
  program : String
  args : List String
  deriving DecidableEq, Repr

namespace Command

/-- The command in a text, if it is not blank. -/
def parse? (s : String) : Option Command :=
  match Text.words s with
  | [] => none
  | program :: args => some ⟨program, args⟩

/-- The words of the command. -/
def line (c : Command) : String := " ".intercalate (c.program :: c.args)

/-- A text with `path` for every `{file}`, from left to right. -/
def fill (path : List Char) : List Char → List Char
  | '\x7b' :: 'f' :: 'i' :: 'l' :: 'e' :: '\x7d' :: r => path ++ fill path r
  | c :: r => c :: fill path r
  | [] => []

/-- An argument with `path` for every `{file}`. -/
def fillArg (path arg : String) : String := String.ofList (fill path.toList arg.toList)

/-- What the run of a command on an input of the size given comes to: the text
printed, or why there is none. -/
def resultOf (size : Nat) (o : Outcome) : Except String String :=
  if o.ending ≠ .code 0 then
    .error (o.ending.message ++ ": " ++ Text.trim (Text.decodeLossy o.errors))
  else if o.takes size then (Text.decode o.output).mapError Text.Malformed.message
  else .error "Broken pipe (os error 32)"

/-- Hands the text to the command. -/
def formatter (run : Runner) (c : Command) : Formatter := fun source path t =>
  let input := Text.encode source
  match run c.program (c.args.map (fillArg path)) input t with
  | .error reason => (.error ⟨c.line, reason⟩, t)
  | .ok o => ((resultOf input.length o).mapError fun reason => ⟨c.line, reason⟩, o.files)

end Command

/-- The formatter that a setting asks for: none, or a command. -/
def formatterOf (run : Runner) (setting : Option String) : Formatter :=
  match setting.bind Command.parse? with
  | some command => command.formatter run
  | none => unformatted

example : Command.fillArg "a b" "\x7b\x7bfile\x7d\x7d\x7bfile" = "\x7ba b\x7d\x7bfile" := by decide

end IdentityTypes
