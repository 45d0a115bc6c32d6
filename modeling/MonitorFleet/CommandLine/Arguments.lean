import MonitorFleet.CommandLine.Options
import MonitorFleet.Text.Split

/-!
# Reading a command line

The words of a command line are read from left to right: options, a command, and options again. An
option that all commands share may stand on either side, once on each; behind the command it
counts more. A word that makes no sense is a misuse, and so is what is missing in the end, but a
request for help that comes first is granted.
-/

namespace MonitorFleet.CommandLine

/-- Why a command line leads to no command. -/
inductive Refused where
  /-- Help was asked for. -/
  | help
  | misuse
  deriving DecidableEq, Repr

/-! ### Values -/

/-- Whether a word can be the value of the option before it: words with a dash are options, the
dash alone excepted. -/
def canBeValue (word : String) : Bool :=
  match word.toList with
  | '-' :: _ :: _ => false
  | _ => true

/-- The number that decimal digits spell, one at least. -/
def decimal? (cs : List Char) : Option Nat :=
  if cs ≠ [] ∧ cs.all Char.isDigit then
    some (cs.foldl (fun n c => n * 10 + (c.toNat - '0'.toNat)) 0)
  else none

/-- A whole number below a bound, perhaps behind a plus sign. -/
def natural? (bound : Nat) (s : String) : Option Nat :=
  (match s.toList with
    | '+' :: cs => decimal? cs
    | cs => decimal? cs).filter (· < bound)

/-- The number of seconds that a text spells, below a bound; a zero may have a minus sign. -/
def seconds? (bound : Nat) (s : String) : Option Nat :=
  match s.toList with
  | '-' :: cs => (decimal? cs).filter (· = 0)
  | _ => natural? bound s

/-- The options given at one level. -/
structure Given where
  values : List (OptionName × String)
  deriving DecidableEq, Repr

namespace Given

/-- The value of an option. -/
def value? (g : Given) (name : OptionName) : Option String :=
  (g.values.find? (·.1 = name)).map (·.2)

def has (g : Given) (name : OptionName) : Bool := (g.value? name).isSome

/-- Whether a text can be the value of an option. -/
def accepts (name : OptionName) (value : String) : Bool :=
  match name with
  | .sessionBaseDir => value ≠ ""
  | .duration => (seconds? UInt32.size value).isSome
  | .wait => (natural? UInt64.size value).isSome
  | _ => true

/-- With one more option; none may be given twice. -/
def add (g : Given) (name : OptionName) (value : String) : Except Refused Given :=
  if g.has name || !accepts name value then .error .misuse
  else .ok ⟨g.values ++ [(name, value)]⟩

end Given

/-! ### Options -/

/-- What follows an option. -/
inductive After where
  | done (given : Given)
  /-- The value of the option is the next word. -/
  | value (name : OptionName) (given : Given)

/-- Reads the letters behind a single dash. A letter that takes a value has it in the rest of the
word, perhaps behind an equals sign, or in the next word. -/
def readLetters (allowed : List OptionName) (given : Given) : List Char → Except Refused After
  | [] => .ok (.done given)
  | c :: cs =>
    match allowed.find? (·.short? = some c) with
    | none => .error (if c = 'h' then .help else .misuse)
    | some name =>
      if name.takesValue then
        match cs with
        | [] => .ok (.value name given)
        | '=' :: value => (given.add name (String.ofList value)).map .done
        | value => (given.add name (String.ofList value)).map .done
      else match given.add name "" with
        | .error refused => .error refused
        | .ok given => readLetters allowed given cs

/-- Reads the word behind two dashes, and the value behind an equals sign. -/
def readLong (allowed : List OptionName) (given : Given) (cs : List Char) :
    Except Refused After :=
  let (word, value?) := match Text.cutAt '=' cs with
    | some (word, value) => (String.ofList word, some (String.ofList value))
    | none => (String.ofList cs, none)
  match allowed.find? (·.long = word), value? with
  | none, value? => .error (if word = "help" ∧ value? = none then .help else .misuse)
  | some name, some value =>
    if name.takesValue then (given.add name value).map .done else .error .misuse
  | some name, none =>
    if name.takesValue then .ok (.value name given) else (given.add name "").map .done

/-- Where the options of a level end. -/
inductive LevelEnd where
  | lastWord (given : Given)
  /-- A word that is no option, and what follows it. -/
  | word (given : Given) (word : String) (rest : List String)

/-- Reads a word that may be an option; `none` if it is none. -/
def readOption? (allowed : List OptionName) (given : Given) (word : String) :
    Option (Except Refused After) :=
  match word.toList with
  | '-' :: '-' :: cs => some (readLong allowed given cs)
  | '-' :: c :: cs => some (readLetters allowed given (c :: cs))
  | _ => none

/-- Reads options up to the first word that is none. Behind two dashes nothing may follow. -/
def readLevel (allowed : List OptionName) (given : Given) : List String → Except Refused LevelEnd
  | [] => .ok (.lastWord given)
  | w :: ws =>
    if w = "--" then if ws = [] then .ok (.lastWord given) else .error .misuse
    else match readOption? allowed given w with
    | none => .ok (.word given w ws)
    | some (.error refused) => .error refused
    | some (.ok (.done given)) => readLevel allowed given ws
    | some (.ok (.value name given)) =>
      match ws with
      | [] => .error .misuse
      | value :: ws =>
        if canBeValue value then
          match given.add name value with
          | .error refused => .error refused
          | .ok given => readLevel allowed given ws
        else .error .misuse

/-! ### Commands -/

/-- The options of a command line; those behind the command count more. -/
def optionsOf (outer inner : Given) : Options where
  sessionId := (inner.value? .sessionId).or (outer.value? .sessionId)
  baseDir := ((inner.value? .sessionBaseDir).or (outer.value? .sessionBaseDir)).getD "."
  quiet := inner.has .quiet || outer.has .quiet
  connectivity :=
    if inner.has .portForward || outer.has .portForward then .portForward else .direct

/-- The command of a name, with the options behind it. -/
def commandOf (name : CommandName) (given : Given) : Except Refused Command :=
  match name with
  | .init => .ok .init
  | .monitor => .ok .monitor
  | .nodes => .ok .nodes
  | .sysinfo => .ok .sysinfo
  | .collect =>
    match given.value? .runId with
    | none => .error .misuse
    | some run => .ok (.collect run
        ((given.value? .duration).bind (seconds? UInt32.size) |>.map Nat.toUInt32)
        ((given.value? .wait).bind (natural? UInt64.size) |>.map Nat.toUInt64))

/-- What a request for help leads to; it may name a command, or the request itself. -/
def helpOn : List String → Refused
  | [] => .help
  | [word] => if word = "help" ∨ (CommandName.ofText? word).isSome then .help else .misuse
  | _ => .misuse

/-- The command that the words of a command line call for. -/
def parse (words : List String) : Except Refused Invocation :=
  match readLevel OptionName.shared ⟨[]⟩ words with
  | .error refused => .error refused
  | .ok (.lastWord _) => .error .misuse
  | .ok (.word outer word rest) =>
    if word = "help" then .error (helpOn rest)
    else match CommandName.ofText? word with
      | none => .error .misuse
      | some name =>
        match readLevel name.options ⟨[]⟩ rest with
        | .error refused => .error refused
        | .ok (.word ..) => .error .misuse
        | .ok (.lastWord inner) =>
          match commandOf name inner with
          | .error refused => .error refused
          | .ok command => .ok ⟨optionsOf outer inner, command⟩

end MonitorFleet.CommandLine
