import MonitorFleet.Log.Record
import MonitorFleet.Text.Split

/-!
# Filters of a log

A filter is a list of directives, each giving a bound for the modules whose names begin in some
way. For a module the directive with the longest beginning counts, and of equal ones the last. A
filter is written as its directives with commas between them; a filter that cannot be read counts
as if there were none, and then everything from `INFO` up passes.
-/

namespace MonitorFleet

/-- A bound for some modules. -/
structure Directive where
  /-- How the modules' names begin. -/
  target : String
  /-- The gravest level that passes, and all graver ones; without a bound none does. -/
  bound : Option Level
  deriving DecidableEq, Repr

/-- What passes into a log. -/
structure Filter where
  directives : List Directive
  deriving DecidableEq, Repr

namespace Directive

/-- The bound that a word or a digit names. -/
def bound? (s : String) : Option (Option Level) :=
  match String.ofList (s.toList.map Char.toLower) with
  | "off" | "0" => some none
  | "error" | "1" => some (some .error)
  | "warn" | "2" => some (some .warn)
  | "info" | "3" => some (some .info)
  | "debug" | "4" => some (some .debug)
  | "trace" | "5" => some (some .trace)
  | _ => none

/-- Whether a character may stand in the name of a module. -/
def isTargetChar (c : Char) : Bool :=
  c.isAlphanum || c = '_' || c = ':' || c = '-' || 0x80 ≤ c.toNat

/-- A bound for a module; a name that is a level means all modules. -/
def forTarget? (target : String) (bound : Option Level) : Option Directive :=
  if target ≠ "" ∧ target.toList.all isTargetChar then
    some ⟨if (bound? target).isSome then "" else target, bound⟩
  else none

/-- The directive that a text spells: a level, a module, or both with an equals sign between them.
A module without a level lets everything through. -/
def ofText? (s : String) : Option Directive :=
  match bound? s with
  | some bound => some ⟨"", bound⟩
  | none =>
    match Text.cutAt '=' s.toList with
    | none => forTarget? s (some .trace)
    | some (target, []) => forTarget? (String.ofList target) (some .trace)
    | some (target, level) =>
      match bound? (String.ofList level) with
      | some bound => forTarget? (String.ofList target) bound
      | none => none

/-- Whether the directive is for a module. -/
def isFor (d : Directive) (target : String) : Bool :=
  d.target.toList.isPrefixOf target.toList

end Directive

namespace Filter

/-- Everything down to a level. -/
def upTo (level : Level) : Filter := ⟨[⟨"", some level⟩]⟩

/-- The filter that a text spells; an empty one lets errors through only. -/
def ofText? (s : String) : Option Filter :=
  if s = "" then some (upTo .error)
  else ((Text.splitOn ',' s.toList).mapM fun d => Directive.ofText? (String.ofList d)).map mk

/-- The filter of a setting that may be missing. -/
def ofSetting (s : Option String) : Filter := (s.bind ofText?).getD (upTo .info)

/-- The more special of two directives, the second one if they are equal. -/
def moreSpecial (a b : Directive) : Directive :=
  if b.target.utf8ByteSize < a.target.utf8ByteSize then a else b

/-- The directive that counts for a module. -/
def directive? (f : Filter) (target : String) : Option Directive :=
  match f.directives.filter (·.isFor target) with
  | [] => none
  | d :: ds => some (ds.foldl moreSpecial d)

/-- Whether a module may write at a level. -/
def passes (f : Filter) (target : String) (level : Level) : Bool :=
  match (f.directive? target).bind (·.bound) with
  | some bound => level.passes bound
  | none => false

/-- The record as it passes the filter, without the spans that do not. -/
def apply (f : Filter) (r : Record) : Option Record :=
  if f.passes r.target r.level then
    some { r with spans := r.spans.filter fun s => f.passes s.target .info }
  else none

end Filter

end MonitorFleet
