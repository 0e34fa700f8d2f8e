import FilterQuery.CommandLine.Option

/-!
Reading the arguments of the command line. Arguments are read from left to right, first those of the program and, from
the name of a command on, those of the command. An option's value is part of its argument or the next argument; a
value of the second sort is judged only when the next option is met or the arguments of its part end, so a
request for help in between is still answered. -/

namespace FilterQuery.CommandLine

inductive Command
  | compile (filter : String)
  | page (table : String) (uniqueId attributes filter cursor : Option String) (pageSize : Option Nat)
  | decode (attributes row : String)

/-- A command line that makes sense. -/
structure Invocation where
  config : Option String
  limits : LimitSettings
  command : Command

/-- A command line that asks for no command. -/
inductive Stop
  | help
  | version
  /-- The arguments make no sense. -/
  | usage
deriving DecidableEq

/-- The parts of a command line: the program's arguments and those of each command. -/
inductive Part
  | program
  | compile
  | page
  | decode

namespace Part

def ofCommand? (name : String) : Option Part :=
  if name = "compile" then some compile
  else if name = "page" then some page
  else if name = "decode" then some decode
  else none

def options : Part → List Opt
  | program => Opt.shared
  | compile => .filter :: Opt.shared
  | page => [.table, .uniqueId, .attributes, .filter, .cursor, .pageSize] ++ Opt.shared
  | decode => [.attributes, .row] ++ Opt.shared

def hasVersion : Part → Bool
  | program => true
  | _ => false

end Part

abbrev Given := List (Opt × ArgValue)

namespace Given

def text? (g : Given) (o : Opt) : Option String :=
  match g.lookup o with
  | some (.text s) => some s
  | _ => none

def number? (g : Given) (o : Opt) : Option Nat :=
  match g.lookup o with
  | some (.number n) => some n
  | _ => none

end Given

/-- An option whose value has not been judged. -/
inductive Pending
  | none
  /-- The option must be followed by its value. -/
  | awaits (o : Opt)
  /-- The value followed its option. -/
  | has (o : Opt) (value : String)

structure Scan where
  given : Given
  pending : Pending

namespace Scan

def start : Scan :=
  ⟨[], .none⟩

/-- Takes a value for an option, which must not have one already. -/
def accept (g : Given) (o : Opt) (value : String) : Except Stop Given :=
  if (g.lookup o).isSome then .error .usage
  else match o.kind.read? value with
    | some v => .ok ((o, v) :: g)
    | none => .error .usage

/-- Judges the option that waits, if there is one. -/
def settle (s : Scan) : Except Stop Given :=
  match s.pending with
  | .none => .ok s.given
  | .awaits _ => .error .usage
  | .has o value => accept s.given o value

/-- A request that ends the reading, after what waits has been judged. -/
def request (s : Scan) (stop : Stop) : Except Stop Scan :=
  s.settle.bind fun _ => .error stop

/-- An option with its value, or with its value still to come. -/
def option (s : Scan) (o : Opt) (value : Option String) : Except Stop Scan := do
  let given ← s.settle
  match value with
  | some v => return ⟨← accept given o v, .none⟩
  | none => return ⟨given, .awaits o⟩

/-- An argument of two dashes and a name, which may carry a value after an equals sign. -/
def long (part : Part) (s : Scan) (body : List Char) : Except Stop Scan :=
  let name := String.ofList (body.takeWhile (· != '='))
  let value := match body.dropWhile (· != '=') with
    | [] => none
    | _ :: v => some (String.ofList v)
  match part.options.find? fun o => o.long == name with
  | some o => s.option o value
  | none =>
    if value.isSome then .error .usage
    else if name = "help" then s.request .help
    else if name = "version" ∧ part.hasVersion then s.request .version
    else .error .usage

/-- An argument of one dash and a letter, behind which a value may follow, with or without an equals sign. -/
def short (part : Part) (s : Scan) (letter : Char) (rest : List Char) : Except Stop Scan :=
  match part.options.find? fun o => o.short? == some letter with
  | some o =>
    match rest with
    | [] => s.option o none
    | '=' :: v => s.option o (some (String.ofList v))
    | v => s.option o (some (String.ofList v))
  | none =>
    if letter = 'h' then s.request .help
    else if letter = 'V' ∧ part.hasVersion then s.request .version
    else .error .usage

/-- An argument that is neither two dashes alone nor the name of a command. -/
def argument (part : Part) (s : Scan) (arg : String) : Except Stop Scan :=
  match arg.toList with
  | '-' :: '-' :: body => s.long part body
  | '-' :: letter :: rest => s.short part letter rest
  | _ =>
    match s.pending with
    | .awaits o => .ok ⟨s.given, .has o arg⟩
    | _ => .error .usage

def isAwaiting (s : Scan) : Bool :=
  match s.pending with
  | .awaits _ => true
  | _ => false

/-- The arguments of a command. After two dashes alone no argument may follow. -/
def command (part : Part) (s : Scan) : List String → Except Stop Given
  | [] => s.settle
  | "--" :: rest => if rest.isEmpty then s.settle else .error .usage
  | arg :: rest => do
    let s ← s.argument part arg
    s.command part rest

/-- The command `help` may be followed by the name of one command. -/
def helpCommand : List String → Stop
  | [] => .help
  | [name] => if name = "help" ∨ (Part.ofCommand? name).isSome then .help else .usage
  | _ => .usage

/-- The arguments of the program, and those of the command after its name. What still waits before the name is judged
after the arguments of the command. -/
def program (s : Scan) : List String → Except Stop (Given × Part × Given)
  | [] => .error .usage
  | arg :: rest =>
    if s.isAwaiting then do
      let s ← if arg = "--" then .error .usage else s.argument .program arg
      s.program rest
    else if arg = "help" then .error (helpCommand rest)
    else match Part.ofCommand? arg with
      | some part => do
        let inner ← start.command part rest
        let outer ← s.settle
        return (outer, part, inner)
      | none => do
        let s ← if arg = "--" then .error .usage else s.argument .program arg
        s.program rest

end Scan

/-- The command that the given options describe, if those that it must have are there and no two exclude each other. -/
def commandOf (part : Part) (g : Given) : Option Command :=
  match part with
  | .program => none
  | .compile => (g.text? .filter).map .compile
  | .page =>
    if (g.text? .uniqueId).isSome && (g.text? .attributes).isSome then none
    else (g.text? .table).map fun table =>
      .page table (g.text? .uniqueId) (g.text? .attributes) (g.text? .filter) (g.text? .cursor) (g.number? .pageSize)
  | .decode =>
    match g.text? .attributes, g.text? .row with
    | some attributes, some row => some (.decode attributes row)
    | _, _ => none

/-- The value of an option's environment variable. It must make sense wherever the option is not given on both
sides of the command. -/
def variableValue (env : String → Option String) (outer inner : Given) (o : Opt) :
    Except Stop (Option (Opt × ArgValue)) :=
  match o.environmentName?.bind env with
  | none => .ok none
  | some text =>
    if (outer.lookup o).isSome && (inner.lookup o).isSome then .ok none
    else match o.kind.read? text with
      | some v => .ok (some (o, v))
      | none => .error .usage

/-- Reads the arguments. A value given after the command counts before one given in front of it, and both before the
environment. -/
def parse (env : String → Option String) (args : List String) : Except Stop Invocation := do
  let (outer, part, inner) ← Scan.start.program args
  let environment ← Opt.shared.mapM (variableValue env outer inner)
  let given : Given := inner ++ outer ++ environment.filterMap id
  match commandOf part inner with
  | none => throw .usage
  | some command =>
    return {
      config := given.text? .config
      limits := {
        maxFilterBytes := given.number? .maxFilterBytes
        maxFilterDepth := given.number? .maxFilterDepth
        castWidth := given.number? .castWidth
        defaultPageSize := given.number? .defaultPageSize
        maxPageSize := given.number? .maxPageSize }
      command := command }

end FilterQuery.CommandLine
