/-! # The command line

Words are taken from left to right. The first that asks for help or for the version decides; the
first that cannot be understood makes the whole line unusable. -/

namespace MqAssembler

/-- What is to be assembled, and how. -/
structure Request where
  input : String := "main.mql.yaml"
  isa : String := "isa.yaml"
  /-- The output file, unless it is to be derived from the input. -/
  output : Option String := none
  verbose : Bool := false
  dump : Bool := false
deriving DecidableEq, Repr

/-- What a command line asks for. -/
inductive Command where
  | assemble (request : Request)
  | help
  | version
deriving DecidableEq, Repr

namespace CommandLine

/-- The options and the input that have been given so far. -/
structure Given where
  input : Option String := none
  isa : Option String := none
  output : Option String := none
  verbose : Bool := false
  dump : Bool := false
deriving DecidableEq, Repr

/-- The request with defaults for what was not given. -/
def Given.request (g : Given) : Request :=
  let d : Request := {}
  ⟨g.input.getD d.input, g.isa.getD d.isa, g.output, g.verbose, g.dump⟩

/-- The options. -/
inductive Opt where
  | isa
  | output
  | verbose
  | dump
  | help
  | version
deriving DecidableEq, Repr

namespace Opt

/-- The option with a one-letter name. -/
def ofLetter? : Char → Option Opt
  | 'i' => some .isa
  | 'o' => some .output
  | 'v' => some .verbose
  | 'd' => some .dump
  | 'h' => some .help
  | 'V' => some .version
  | _ => none

/-- The option with a long name, which may not be shortened. -/
def ofName? (name : String) : Option Opt :=
  if name = "isa" then some .isa
  else if name = "output" then some .output
  else if name = "verbose" then some .verbose
  else if name = "dump" then some .dump
  else if name = "help" then some .help
  else if name = "version" then some .version
  else none

end Opt

/-- Gives a positional word, of which there may be one. -/
def Given.setInput (g : Given) (word : String) : Option Given :=
  if g.input.isSome then none else some { g with input := some word }

/-- Gives an option that takes a value, once. -/
def Given.setValue (g : Given) (isa : Bool) (value : String) : Option Given :=
  if isa then
    if g.isa.isSome then none else some { g with isa := some value }
  else
    if g.output.isSome then none else some { g with output := some value }

/-- Gives a flag, once. -/
def Given.setFlag (g : Given) (verbose : Bool) : Option Given :=
  if verbose then
    if g.verbose then none else some { g with verbose := true }
  else
    if g.dump then none else some { g with dump := true }

/-- Whether a word looks like an option. A dash alone does not. -/
def looksLikeOption (word : String) : Bool :=
  match word.toList with
  | '-' :: _ :: _ => true
  | _ => false

/-- What one word leads to. -/
inductive Step where
  /-- Go on with the next word. -/
  | next (g : Given)
  /-- The next word is the value of an option, the instruction set or else the output. -/
  | value (g : Given) (isa : Bool)
  /-- The answer is known. -/
  | done (c : Command)

/-- A group of one-letter options. The rest of the group is the value of an option that takes one,
with or without an equals sign in front. -/
def letters (g : Given) : List Char → Option Step
  | [] => some (.next g)
  | c :: rest => do
      match ← Opt.ofLetter? c with
      | .help => some (.done .help)
      | .version => some (.done .version)
      | .verbose => letters (← g.setFlag true) rest
      | .dump => letters (← g.setFlag false) rest
      | .isa => withValue true rest
      | .output => withValue false rest
where
  /-- The value of an option within a group. -/
  withValue (isa : Bool) : List Char → Option Step
    | [] => some (.value g isa)
    | '=' :: value => (g.setValue isa (String.ofList value)).map .next
    | value => (g.setValue isa (String.ofList value)).map .next

/-- A long option, whose value may follow an equals sign. -/
def long (g : Given) (body : List Char) : Option Step := do
  let name := String.ofList (body.takeWhile (· != '='))
  let value : Option String :=
    match body.dropWhile (· != '=') with
    | _ :: rest => some (String.ofList rest)
    | [] => none
  match ← Opt.ofName? name, value with
  | .isa, some v => (g.setValue true v).map .next
  | .output, some v => (g.setValue false v).map .next
  | .isa, none => some (.value g true)
  | .output, none => some (.value g false)
  | .verbose, none => (g.setFlag true).map .next
  | .dump, none => (g.setFlag false).map .next
  | .help, none => some (.done .help)
  | .version, none => some (.done .version)
  | _, some _ => none

/-- One word in front of the end of options. -/
def word (g : Given) (w : String) : Option Step :=
  match w.toList with
  | '-' :: '-' :: c :: body => long g (c :: body)
  | '-' :: c :: body => letters g (c :: body)
  | _ => (g.setInput w).map .next

/-- Words behind the end of options. -/
def positionals (g : Given) : List String → Option Command
  | [] => some (.assemble g.request)
  | w :: rest => do positionals (← g.setInput w) rest

/-- Takes words from left to right. -/
def take (g : Given) : List String → Option Command
  | [] => some (.assemble g.request)
  | "--" :: rest => positionals g rest
  | w :: rest => do
      match ← word g w with
      | .done c => some c
      | .next g => take g rest
      | .value g isa =>
          match rest with
          | [] => none
          | v :: rest =>
              if looksLikeOption v then none else take (← g.setValue isa v) rest

/-- What a command line asks for, if it can be understood. -/
def parse (words : List String) : Option Command :=
  take {} words

/-- The program's name and version. -/
def versionLine : String := "mqasm 0.1.0"

/-- The lines of the help text. -/
def helpLines : List String :=
  [versionLine,
   "  ",
   "  Assembler back-end for the MQ 16-bit CPU (.mqa executables)",
   "",
   "Usage:",
   "  mqasm [OPTIONS] [INPUT]",
   "",
   "Arguments:",
   "  [INPUT]  Resolved program listing (YAML) [default: main.mql.yaml]",
   "",
   "Options:",
   "  -i, --isa <ISA>        Instruction set (YAML map of mnemonic to opcode number) " ++
     "[default: isa.yaml]",
   "  -o, --output <OUTPUT>  Output file [default: input with .mqa extension]",
   "  -v, --verbose          Print the executable header",
   "  -d, --dump             Dump the written executable",
   "  -h, --help             Print help",
   "  -V, --version          Print version"]

end CommandLine

end MqAssembler
