import PluginFlow.Config.Settings

/-!
Admission of runs by fixed windows. Each key has a window of its own, which opens with the first
run after the last one has passed. Once many keys are tracked, windows that have passed are
forgotten before a new key is taken in.
-/

namespace PluginFlow

structure Window where
  started : Nat
  length : Nat
  count : Nat
  deriving DecidableEq, Repr

/-- Whether a window has passed. A clock behind its start counts as standing at it. -/
def Window.passed (w : Window) (now : Nat) : Bool := w.length ≤ now - w.started

structure Limiter where
  settings : AdmissionSettings
  windows : KeyMap Window := .empty

namespace Limiter

/-- Tracked keys from which on passed windows are forgotten. -/
def pruneThreshold : Nat := 1024

def key (flowId : String) (type : TriggerType) (selector : Option String) : String :=
  flowId ++ ":" ++ type.name ++ ":" ++ selector.getD ""

def limitFor (l : Limiter) (type : TriggerType) : WindowLimit := l.settings.limitFor type

def tracked (l : Limiter) : Nat := l.windows.size

def pruned (l : Limiter) (key : String) (now : Nat) : KeyMap Window :=
  if pruneThreshold ≤ l.windows.size ∧ l.windows.contains key = false then
    ⟨l.windows.entries.filter fun e => !e.2.passed now,
      l.windows.ordered.sublist (List.filter_sublist.map _)⟩
  else l.windows

/-- The window of a key at a time, opened afresh when there is none or it has passed. -/
def current (windows : KeyMap Window) (key : String) (length now : Nat) : Window :=
  match windows.get? key with
  | some w => if w.passed now then ⟨now, length, 0⟩ else w
  | none => ⟨now, length, 0⟩

def acquire (l : Limiter) (key : String) (type : TriggerType) (now : Nat) : Bool × Limiter :=
  let limit := l.limitFor type
  let windows := l.pruned key now
  let w := current windows key (1000 * limit.windowSecs) now
  let admitted := w.count < limit.limit
  let w := if admitted then { w with count := w.count + 1 } else w
  (admitted, { l with windows := windows.insert key w })

end Limiter
end PluginFlow
