import PluginFlow.Proofs.Run
import PluginFlow.Proofs.Template

/-!
What nodes make of references. The text that a reference points at is filled as the texts of the
flow are, so placeholders in a state, a row or action data expand. What has no placeholders is used
as it is, which covers assets and all values but texts.
-/

namespace PluginFlow

def Value.filled (state : KeyMap Value) : Value → Value
  | .text s => .text (render s state)
  | v => v

namespace Value

variable {v : Value} {state : KeyMap Value}

theorem filled_eq_self (h : v.placeholders = []) : v.filled state = v := by
  cases v with
  | text s => exact congrArg text (Template.render_eq_self_iff.2 h state)
  | _ => rfl

theorem toText_filled : (v.filled state).toText = render v.toText state := by
  cases v with
  | text s => rfl
  | _ => exact (Template.render_eq_self_iff.2 (placeholders_eq_nil rfl) state).symm

theorem filled_congr {state' : KeyMap Value}
    (h : ∀ key ∈ v.placeholders, state'.get? key = state.get? key) :
    v.filled state' = v.filled state := by
  cases v with
  | text s => exact congrArg text (Template.render_congr h)
  | _ => rfl

end Value

def Reference.stateKey? : Reference → Option String
  | .state key => some key
  | _ => none

namespace Scope

variable {scope : Scope} {current : Option Item}

theorem resolve_reference {source : String} {r : Reference}
    (spelled : Reference.ofText? source = some r) :
    scope.resolve current (.text source) = scope.lookup current r := by
  simp only [resolve, spelled]

/-- A reference reads the state at its own key only. -/
theorem lookup_congr {r : Reference} {state' : KeyMap Value}
    (h : ∀ key ∈ r.stateKey?, state'.get? key = scope.state.get? key) :
    { scope with state := state' }.lookup current r = scope.lookup current r := by
  cases r with
  | state key => simp only [lookup, h key rfl]
  | _ => rfl

end Scope

namespace Turn

variable {t : Turn} {source : String} {r : Reference}

/-- A state that a turn cannot tell from its own when it uses what a reference points at. -/
def SeesNoChange (t : Turn) (r : Reference) (v : Value) (state' : KeyMap Value) : Prop :=
  (∀ key ∈ r.stateKey?, state'.get? key = t.state.get? key) ∧
    ∀ key ∈ v.placeholders, state'.get? key = t.state.get? key

theorem rowValue_reference (spelled : Reference.ofText? source = some r)
    (given : t.param? "value" = some (.text source)) (row : Item) :
    t.rowValue row = (t.scope.lookup (some row) r).filled t.state := by
  have resolved : t.scope.resolve (some row) (t.param "value") = t.scope.lookup (some row) r := by
    rw [param, given]
    exact Scope.resolve_reference spelled
  rw [rowValue, resolved]
  cases t.scope.lookup (some row) r <;> rfl

theorem filledParam_reference {key : String} (spelled : Reference.ofText? source = some r)
    (given : t.param? key = some (.text source)) :
    t.filledParam key = ((t.scope.lookup none r).filled t.state).toText := by
  rw [filledParam, param, given, Option.getD_some, Scope.resolve_reference spelled,
    Value.toText_filled]
  rfl

theorem filled_lookup_congr {current : Option Item} {state' : KeyMap Value}
    (h : t.SeesNoChange r (t.scope.lookup current r) state') :
    ({ t with state := state' }.scope.lookup current r).filled state' =
      (t.scope.lookup current r).filled t.state := by
  have same : { t.scope with state := state' }.lookup current r = t.scope.lookup current r :=
    Scope.lookup_congr h.1
  change Value.filled state' ({ t.scope with state := state' }.lookup current r) = _
  rw [same]
  exact Value.filled_congr h.2

/-- What a node uses in place of a reference, in a row or as the text of a param, is what the
reference points at if that has no placeholders. What is used depends on the state at no key but
the one referred to and those of the placeholders. -/
theorem uses_reference (t : Turn) (spelled : Reference.ofText? source = some r) :
    (t.param? "value" = some (.text source) → ∀ row,
      ((t.scope.lookup (some row) r).placeholders = [] →
        t.rowValue row = t.scope.lookup (some row) r) ∧
      ∀ state', t.SeesNoChange r (t.scope.lookup (some row) r) state' →
        { t with state := state' }.rowValue row = t.rowValue row) ∧
    ∀ key, t.param? key = some (.text source) →
      ((t.scope.lookup none r).placeholders = [] →
        t.filledParam key = (t.scope.lookup none r).toText) ∧
      ∀ state', t.SeesNoChange r (t.scope.lookup none r) state' →
        { t with state := state' }.filledParam key = t.filledParam key := by
  constructor
  · intro given row
    refine ⟨fun plain => ?_, fun state' same => ?_⟩
    · rw [rowValue_reference spelled given, Value.filled_eq_self plain]
    · rw [rowValue_reference spelled given,
        rowValue_reference spelled (t := { t with state := state' }) given]
      exact filled_lookup_congr same
  · intro key given
    refine ⟨fun plain => ?_, fun state' same => ?_⟩
    · rw [filledParam_reference spelled given, Value.filled_eq_self plain]
    · rw [filledParam_reference spelled given,
        filledParam_reference spelled (t := { t with state := state' }) given]
      exact congrArg Value.toText (filled_lookup_congr same)

end Turn

namespace Flow

def onCopy : Trigger := { type := .onClick, startNodeId := "copy" }

def copying : Flow :=
  { id := "copying", triggers := [onCopy],
    nodes :=
      [{ id := "copy", type := "SetField",
         params := .ofList [("field", .text "note"), ("value", .text "state.note")] }] }

end Flow

def Session.noted (token : String) : Session Unit Unit :=
  { Session.fresh with
    state := .ofList [("note", .text "\x7b\x7btoken\x7d\x7d"), ("token", .text token)] }

namespace Turn

def copying (note : String) : Turn :=
  { registry := Registry.builtin, assets := {}, settings := {}, flowId := "copying",
    node := { id := "copy", type := "SetField",
              params := .ofList [("field", .text "note"), ("value", .text "state.note")] },
    state := .ofList [("note", .text note), ("token", .text "secret")], context := {} }

theorem copying_uses_note :
    Reference.ofText? "state.note" = some (.state "note") ∧
      (copying "hello").param? "value" = some (.text "state.note") ∧
      (Value.text "hello").placeholders = [] ∧
      (copying "hello").rowValue .empty = .text "hello" := by
  have spelled : Reference.ofText? "state.note" = some (.state "note") := by decide
  have given : (copying "hello").param? "value" = some (.text "state.note") := by decide +kernel
  have literal : (Value.text "hello").placeholders = [] := by decide +kernel
  have found : (copying "hello").scope.lookup (some .empty) (.state "note") = .text "hello" := by
    decide +kernel
  have used := (((copying "hello").uses_reference spelled).1 given .empty).1
  rw [found] at used
  exact ⟨spelled, given, literal, used literal⟩

end Turn

namespace Engine

/-- A row gets another key of the state than the one referred to: the value referred to is the same
in both runs, the value put into the row is not. -/
theorem copying_expands_note :
    Reference.ofText? "state.note" = some (.state "note") ∧
      (Session.noted "secret").state.get? "note" = (Session.noted "public").state.get? "note" ∧
      (plain.execute Flow.copying Flow.onCopy {} (.noted "secret")).1.items =
        [.ofList [("note", .text "secret")]] ∧
      (plain.execute Flow.copying Flow.onCopy {} (.noted "public")).1.items =
        [.ofList [("note", .text "public")]] := by
  decide +kernel

end Engine
end PluginFlow
