import SyncHistory.ConfigType
import SyncHistory.Instant
import SyncHistory.Uuid

/-!
# Arguments of a command

A command has options, which are known by name, and perhaps operands, which are known by place.
`Signature.read` goes through the words behind a command from left to right and collects their values; the
first word that is out of place or has no proper value ends it, and so does a word that asks for help.

A word that starts with a hyphen is an option, save for the hyphen alone. Behind two hyphens alone
everything is an operand.
-/

namespace SyncHistory.CommandLine

/-- What kind of values an option or operand has. -/
inductive ValueKind where
  | text
  | path
  | configType
  | uuid
  | instant
  | jobId
  | count
deriving DecidableEq

/-- A whole number of 64 bits. -/
def integer? (s : String) : Option Int :=
  (Digits.int? s.toList).filter (Digits.fitsSigned 64)

/-- A whole number of 32 bits without a sign. -/
def count? (s : String) : Option UInt32 :=
  ((integer? s).filter (Digits.fitsUnsigned 32)).map fun n => UInt32.ofNat n.toNat

/-- Is the text a value of the kind? -/
def ValueKind.accepts (s : String) : ValueKind → Bool
  | text => true
  | path => !s.isEmpty
  | configType => (ConfigType.parse s).isOk
  | uuid => (Uuid.parse? s).isSome
  | instant => (Instant.parse? s).isSome
  | jobId => (integer? s).isSome
  | count => (count? s).isSome

/-- How often an option may be given, and how many values each time. -/
inductive Arity where
  /-- Once, without a value. -/
  | flag
  /-- Once, with one value. -/
  | single
  /-- Any number of times, with one value each time. -/
  | repeated
  /-- Any number of times, with at least one value each time. -/
  | several
deriving DecidableEq

/-- An option of a command. -/
structure OptionRule where
  name : String
  arity : Arity
  kind : ValueKind
  isRequired : Bool
deriving DecidableEq

/-- The operands of a command; where there are any, at least one is needed. -/
inductive OperandRule where
  | nothing
  | one (kind : ValueKind)
  | many (kind : ValueKind)
deriving DecidableEq

/-- What may stand behind a command. -/
structure Signature where
  options : List OptionRule
  operands : OperandRule
deriving DecidableEq

/-- Why reading ends without a command to perform. -/
inductive Stop where
  /-- The words are not what the command takes. -/
  | refused
  | help
  | version
deriving DecidableEq

/-- What was given: the names of options, each time they occur, values by the name of their option, and
operands. -/
structure Given where
  options : List String
  values : List (String × String)
  operands : List String
deriving DecidableEq

namespace Given

def empty : Given := ⟨[], [], []⟩

/-- The values of an option. -/
def valuesOf (g : Given) (name : String) : List String :=
  (g.values.filter fun v => v.1 == name).map (·.2)

/-- The value of an option that has at most one. -/
def valueOf? (g : Given) (name : String) : Option String :=
  (g.valuesOf name).head?

/-- Was the option given? -/
def has (g : Given) (name : String) : Bool := g.options.contains name

end Given

/-- A word as it looks from outside. -/
inductive Word where
  /-- A long option, with the value behind an equals sign if there is one. -/
  | option (name : String) (value : Option String)
  /-- Short options behind one hyphen. -/
  | short (letters : List Char)
  /-- Two hyphens alone. -/
  | separator
  | value
deriving DecidableEq

/-- What a word looks like. -/
def Word.of (s : String) : Word :=
  match s.toList with
  | ['-', '-'] => separator
  | '-' :: '-' :: cs =>
    let name := cs.takeWhile (· != '=')
    match cs.drop name.length with
    | _ :: attached => option (String.ofList name) (some (String.ofList attached))
    | [] => option (String.ofList name) none
  | '-' :: c :: cs => short (c :: cs)
  | _ => value

namespace Signature

/-- Notes that an option occurs, which most options do only once. -/
def note (rule : OptionRule) (g : Given) : Except Stop Given :=
  if (rule.arity = .flag ∨ rule.arity = .single) ∧ g.has rule.name then .error .refused
  else .ok { g with options := g.options ++ [rule.name] }

def addValue (rule : OptionRule) (value : String) (g : Given) : Except Stop Given :=
  if rule.kind.accepts value then .ok { g with values := g.values ++ [(rule.name, value)] }
  else .error .refused

def addOperand (s : Signature) (value : String) (g : Given) : Except Stop Given :=
  let add (kind : ValueKind) : Except Stop Given :=
    if kind.accepts value then .ok { g with operands := g.operands ++ [value] } else .error .refused
  match s.operands with
  | .nothing => .error .refused
  | .one kind => if g.operands.isEmpty then add kind else .error .refused
  | .many kind => add kind

/-- Is everything there that the command needs? -/
def complete (s : Signature) (g : Given) : Except Stop Given :=
  if s.options.all (fun rule => !rule.isRequired || g.has rule.name) &&
      (s.operands == .nothing || !g.operands.isEmpty) then .ok g
  else .error .refused

/-- Reads operands only. -/
def readOperands (s : Signature) : List String → Given → Except Stop Given
  | [], g => s.complete g
  | word :: rest, g => do s.readOperands rest (← s.addOperand word g)

/-- Which option still takes values, and does it need one? -/
abbrev Pending := Option (OptionRule × Bool)

/-- Takes note of a long option that may have a value attached; the option that takes values after
it. -/
def openOption (s : Signature) (name : String) (value : Option String) (g : Given) :
    Except Stop (Given × Pending) := do
  if name = "help" ∧ value.isNone then throw .help
  match s.options.find? fun rule => rule.name == name, value with
  | none, _ => throw .refused
  | some rule, some value =>
    if rule.arity = .flag then throw .refused
    return (← addValue rule value (← note rule g), none)
  | some rule, none =>
    return (← note rule g, if rule.arity = .flag then none else some (rule, true))

/-- Reads the words behind a command, of which an option may take the next ones as values. -/
def readFrom (s : Signature) : Pending → List String → Given → Except Stop Given
  | some (_, true), [], _ => .error .refused
  | _, [], g => s.complete g
  | pending, word :: rest, g => do
    let isMissing := pending.any (·.2)
    match Word.of word, pending with
    | .value, some (rule, _) =>
      let g ← addValue rule word g
      s.readFrom (if rule.arity = .several then some (rule, false) else none) rest g
    | .value, none => s.readFrom none rest (← s.addOperand word g)
    | .separator, _ => if isMissing then throw .refused else s.readOperands rest g
    | .option name value, _ =>
      if isMissing then throw .refused
      let (g, pending) ← s.openOption name value g
      s.readFrom pending rest g
    | .short letters, _ => throw (if !isMissing && letters.head? == some 'h' then .help else .refused)

/-- Reads the words behind a command. -/
def read (s : Signature) (words : List String) : Except Stop Given :=
  s.readFrom none words .empty

end Signature

end SyncHistory.CommandLine
