import PluginFlow.Log
import PluginFlow.Text.Ascii

/-!
Which log lines are shown. A filter is a list of directives between commas, each a level or a
target with a level; of those whose target leads the one of a line, the longest decides.
-/

namespace PluginFlow.CommandLine

/-- Shows lines of a target up to a rank; rank zero shows none. -/
structure Directive where
  target : String := ""
  rank : Nat
  deriving DecidableEq, Repr

namespace Directive

def highest : Nat := 5

def rankOf? (s : String) : Option Nat :=
  match s.toList with
  | [c] => if '0' ≤ c ∧ c ≤ '5' then some (Text.digitValue c) else none
  | _ =>
    if Text.lower s = "off" then some 0
    else (Level.all.find? fun l => Text.lower l.name = Text.lower s).map Level.rank

def isStart (c : Char) : Bool := c.isAlphanum || c ∈ ['-', ':', '_'] || 128 ≤ c.toNat

/-- Reads a directive; a target alone shows everything. -/
def parse? (s : String) : Option Directive :=
  match s.toList with
  | [] => none
  | c :: _ =>
    if !isStart c then none
    else
      match s.toList.span (· ≠ '=') with
      | (target, _ :: level) =>
        let rank := if level.isEmpty then some highest else rankOf? (String.ofList level)
        rank.map fun r => ⟨String.ofList target, r⟩
      | (_, []) =>
        match rankOf? s with
        | some r => some ⟨"", r⟩
        | none => some ⟨s, highest⟩

end Directive

structure Filter where
  directives : List Directive
  deriving DecidableEq, Repr

namespace Filter

/-- Reads directives between commas. A directive that is none spoils the whole. -/
def parse? (s : String) : Option Filter :=
  (((s.splitOn ",").filter (· ≠ "")).mapM Directive.parse?).map Filter.mk

def informing : Filter := ⟨[⟨"", Level.info.rank⟩]⟩

/-- Of two directives the one with the longer target, or the later one. -/
def closer (best : Option Directive) (d : Directive) : Option Directive :=
  match best with
  | some b => if b.target.length ≤ d.target.length then some d else some b
  | none => some d

def deciding? (f : Filter) (target : String) : Option Directive :=
  (f.directives.filter fun d => d.target.isPrefixOf target).foldl closer none

def shows (f : Filter) (l : Log) : Bool :=
  match f.deciding? l.source.target with
  | some d => l.level.rank ≤ d.rank
  | none => false

end Filter
end PluginFlow.CommandLine
