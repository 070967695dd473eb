import PluginFlow.Proofs.Frame
import PluginFlow.Proofs.Markers
import PluginFlow.Proofs.References

/-!
Nodes on rows take the rows one by one. A row is the current one for itself, so what becomes of it
depends on no other row, and rows that are put together come out together.
-/

namespace PluginFlow

namespace Turn

def onRows (t : Turn) (rows : List Item) : Turn :=
  { t with context := { t.context with items := rows } }

def resolveFor (t : Turn) (row : Item) (raw : Value) : Value := (t.onRows [row]).resolve raw

def holdsFor (t : Turn) (row : Item) : Bool :=
  compareValues (t.resolveFor row (t.param "left")) (Text.trim (t.textParam "op" "=="))
    (t.resolveFor row (t.param "right"))

def valueFor (t : Turn) (row : Item) : Value :=
  (t.resolveFor row (t.param "value")).filled t.state

/-- A row with a field set, and all else as before. -/
structure SetsField (t : Turn) (field : String) (row row' : Item) : Prop where
  value : row'.get? field = some (t.valueFor row)
  others : ∀ key, key ≠ field → row'.get? key = row.get? key

variable {t : Turn}

/-- The rows of a turn are not looked at when there is a current row. -/
theorem resolve_current (t : Turn) (rows : List Item) (row : Item) (raw : Value) :
    (t.onRows rows).scope.resolve (some row) raw = t.resolveFor row raw := by
  cases raw with
  | text s =>
    unfold resolveFor resolve
    simp only [Scope.resolve]
    cases Reference.ofText? s with
    | none => rfl
    | some r => cases r <;> rfl
  | _ => rfl

/-- A reference to a row reads the single one. -/
theorem resolveFor_item (t : Turn) (row : Item) (key : String) :
    t.resolveFor row (.text (Reference.item key).source) = (row.get? key).getD .null := by
  rw [← t.resolve_current [],
    Scope.resolve_reference (Reference.ofText?_eq_some_iff.2 (rfl : _ = (Reference.item key).source))]
  rfl

theorem holds_onRows (rows : List Item) (row : Item) :
    (t.onRows rows).holds (some row) = t.holdsFor row := by
  unfold holds evaluate
  rw [resolve_current, resolve_current]
  rfl

theorem rowValue_eq (t : Turn) (row : Item) :
    t.rowValue row = (t.scope.resolve (some row) (t.param "value")).filled t.state := by
  unfold rowValue
  cases t.scope.resolve (some row) (t.param "value") <;> rfl

theorem rowValue_onRows (rows : List Item) (row : Item) :
    (t.onRows rows).rowValue row = t.valueFor row := by
  rw [rowValue_eq]
  exact congrArg (Value.filled t.state) (t.resolve_current rows row (t.param "value"))

theorem plan_filter_onRows (kind : NodeKind.ofName? t.node.type = some .filter)
    (rows : List Item) :
    (t.onRows rows).plan = .done { items := rows.filter t.holdsFor, next := t.node.next } := by
  have kind' : NodeKind.ofName? (t.onRows rows).node.type = some .filter := kind
  simp only [plan, kind', filter, keptRows, holds_onRows]
  rfl

theorem plan_setField_onRows (kind : NodeKind.ofName? t.node.type = some .setField)
    {rows : List Item} (filled : rows ≠ []) :
    (t.onRows rows).plan = .require (t.required "field") fun field =>
      .done { items := rows.map fun row => row.insert field.toText (t.valueFor row),
              next := t.node.next } := by
  have kind' : NodeKind.ofName? (t.onRows rows).node.type = some .setField := kind
  have some_rows : (t.onRows rows).context.items.isEmpty = false := by simpa [onRows] using filled
  simp only [plan, kind', setField, some_rows, setRows, rowValue_onRows]
  rfl

theorem setsField_insert (field : String) (row : Item) :
    t.SetsField field row (row.insert field (t.valueFor row)) where
  value := by rw [KeyMap.get?_insert, if_pos rfl]
  others key other := by rw [KeyMap.get?_insert, if_neg other]

end Turn

namespace Engine

variable {σ ω : Type} {e : Engine σ ω} {f : Flow} {n : Node} {c : Context} {s : Session σ ω}

def rowsAfter (e : Engine σ ω) (f : Flow) (n : Node) (c : Context) (s : Session σ ω)
    (rows : List Item) : List Item :=
  (e.visit f n { c with items := rows } s).2.1.items

theorem visit_of_done {o : Outcome} (h : (e.turn f n s.state c).plan = .done o) :
    (e.visit f n c s).1 = .ok (o.next.bind nonBlank) ∧
      (e.visit f n c s).2.1 = { c with items := o.items } ∧
      (e.visit f n c s).2.2.state = s.state.insertAll o.writes := by
  simp only [visit_eq, h, carryOut, state_trace, state_settle]
  exact ⟨trivial, trivial, trivial⟩

theorem visit_of_fail {fault : NodeFault} (h : (e.turn f n s.state c).plan = .fail fault) :
    (e.visit f n c s).1 = .error fault ∧ (e.visit f n c s).2.1 = c := by
  have failed : (e.visit f n c s).1 = .error fault :=
    visit_eq_error_iff.2 (carryOut_eq_error_iff.2 (.inl h))
  exact ⟨failed, (visit_of_error failed).1⟩

theorem filter_leaves (kind : NodeKind.ofName? n.type = some .filter) (rows : List Item) :
    (e.visit f n { c with items := rows } s).1 = .ok (n.next.bind nonBlank) ∧
      e.rowsAfter f n c s rows = rows.filter (e.turn f n s.state c).holdsFor := by
  have plan := Turn.plan_filter_onRows (t := e.turn f n s.state c) kind rows
  obtain ⟨next, context, -⟩ := visit_of_done (e := e) (f := f) (c := { c with items := rows }) plan
  exact ⟨next, congrArg Context.items context⟩

theorem setField_leaves (kind : NodeKind.ofName? n.type = some .setField) {field : Value}
    (given : (e.turn f n s.state c).param? "field" = some field) {rows : List Item}
    (filled : rows ≠ []) :
    (e.visit f n { c with items := rows } s).1 = .ok (n.next.bind nonBlank) ∧
      e.rowsAfter f n c s rows =
        rows.map fun row => row.insert field.toText ((e.turn f n s.state c).valueFor row) := by
  have plan := Turn.plan_setField_onRows (t := e.turn f n s.state c) kind filled
  rw [Turn.required, given, Plan.require] at plan
  obtain ⟨next, context, -⟩ := visit_of_done (e := e) (f := f) (c := { c with items := rows }) plan
  exact ⟨next, congrArg Context.items context⟩

/-- Without a field the rows are left alone. -/
theorem setField_lacks (kind : NodeKind.ofName? n.type = some .setField)
    (absent : (e.turn f n s.state c).param? "field" = none) {rows : List Item}
    (filled : rows ≠ []) :
    (e.visit f n { c with items := rows } s).1 = .error (.missingParam n.id "field") ∧
      e.rowsAfter f n c s rows = rows := by
  have plan := Turn.plan_setField_onRows (t := e.turn f n s.state c) kind filled
  rw [Turn.required, absent, Plan.require] at plan
  obtain ⟨failed, context⟩ := visit_of_fail (e := e) (f := f) (c := { c with items := rows }) plan
  exact ⟨failed, congrArg Context.items context⟩

theorem rowsAfter_append_of {next : Except NodeFault (Option String)}
    {become : List Item → List Item}
    (leaves : ∀ rows, rows ≠ [] → (e.visit f n { c with items := rows } s).1 = next ∧
      e.rowsAfter f n c s rows = become rows)
    (append : ∀ xs ys, become (xs ++ ys) = become xs ++ become ys)
    {xs ys : List Item} (hx : xs ≠ []) (hy : ys ≠ []) :
    (e.visit f n { c with items := xs } s).1 = (e.visit f n { c with items := xs ++ ys } s).1 ∧
      (e.visit f n { c with items := ys } s).1 = (e.visit f n { c with items := xs ++ ys } s).1 ∧
      e.rowsAfter f n c s (xs ++ ys) = e.rowsAfter f n c s xs ++ e.rowsAfter f n c s ys := by
  obtain ⟨nx, rx⟩ := leaves xs hx
  obtain ⟨ny, ry⟩ := leaves ys hy
  obtain ⟨nxy, rxy⟩ := leaves (xs ++ ys) (List.append_ne_nil_of_left_ne_nil hx ys)
  rw [nx, ny, nxy, rx, ry, rxy]
  exact ⟨rfl, rfl, append xs ys⟩

/-- What a node on rows does next does not depend on them, and it makes of them what it makes of one
part after the other. -/
theorem rowsAfter_append
    (kind : NodeKind.ofName? n.type = some .setField ∨ NodeKind.ofName? n.type = some .filter)
    {xs ys : List Item} (hx : xs ≠ []) (hy : ys ≠ []) :
    (e.visit f n { c with items := xs } s).1 = (e.visit f n { c with items := xs ++ ys } s).1 ∧
      (e.visit f n { c with items := ys } s).1 = (e.visit f n { c with items := xs ++ ys } s).1 ∧
      e.rowsAfter f n c s (xs ++ ys) = e.rowsAfter f n c s xs ++ e.rowsAfter f n c s ys := by
  rcases kind with kind | kind
  · cases field : (e.turn f n s.state c).param? "field" with
    | some field =>
      apply rowsAfter_append_of (fun rows filled => setField_leaves kind field filled) _ hx hy
      exact fun xs ys => List.map_append
    | none =>
      apply rowsAfter_append_of (fun rows filled => setField_lacks kind field filled) _ hx hy
      exact fun xs ys => rfl
  · apply rowsAfter_append_of (fun rows _ => filter_leaves kind rows) _ hx hy
    exact fun xs ys => List.filter_append xs ys

/-- The rows that a filter keeps it keeps again. -/
theorem filter_twice (kind : NodeKind.ofName? n.type = some .filter) :
    (e.visit f n (e.visit f n c s).2.1 (e.visit f n c s).2.2).2.1.items =
      (e.visit f n c s).2.1.items := by
  have plan := Turn.plan_filter_onRows (t := e.turn f n s.state c) kind c.items
  obtain ⟨-, context, state⟩ := visit_of_done (e := e) (f := f) (n := n) (c := c) plan
  have state : (e.visit f n c s).2.2.state = s.state := state
  -- the condition does not look at the rows of the context, so it is the same the second time
  have same : (e.turn f n (e.visit f n c s).2.2.state (e.visit f n c s).2.1).holdsFor =
      (e.turn f n s.state c).holdsFor := by
    rw [state, context]
    rfl
  have kept : ∀ row ∈ (e.visit f n c s).2.1.items,
      (e.turn f n s.state c).holdsFor row = true := by
    intro row hrow
    rw [context] at hrow
    exact (List.mem_filter.1 hrow).2
  calc (e.visit f n (e.visit f n c s).2.1 (e.visit f n c s).2.2).2.1.items
      = (e.visit f n c s).2.1.items.filter
          (e.turn f n (e.visit f n c s).2.2.state (e.visit f n c s).2.1).holdsFor :=
        (filter_leaves kind (e.visit f n c s).2.1.items).2
    _ = (e.visit f n c s).2.1.items := by
        rw [same]
        exact List.filter_eq_self.2 kept

/-- Nodes on rows take rows one by one: what they make of two parts they make of each part. Setting
a field keeps the rows and their order and changes each of them at the field only, by what the value
stands for with this row as the only one. A filter keeps, as they are and in order, the rows for
which its condition holds with each as the only one, and keeps them all the second time. Without its
field the one node fails and leaves the rows alone, and the other never fails. -/
theorem visit_row_by_row (e : Engine σ ω) (f : Flow) (n : Node) (c : Context) (s : Session σ ω) :
    (NodeKind.ofName? n.type = some .setField ∨ NodeKind.ofName? n.type = some .filter →
      ∀ xs ys : List Item, xs ≠ [] → ys ≠ [] →
        (e.visit f n { c with items := xs } s).1 =
            (e.visit f n { c with items := xs ++ ys } s).1 ∧
          (e.visit f n { c with items := ys } s).1 =
            (e.visit f n { c with items := xs ++ ys } s).1 ∧
          e.rowsAfter f n c s (xs ++ ys) =
            e.rowsAfter f n c s xs ++ e.rowsAfter f n c s ys) ∧
    (NodeKind.ofName? n.type = some .setField → ∀ rows : List Item, rows ≠ [] →
      (∀ field, (e.turn f n s.state c).param? "field" = some field →
        (e.visit f n { c with items := rows } s).1 = .ok (n.next.bind nonBlank) ∧
          List.Forall₂ ((e.turn f n s.state c).SetsField field.toText) rows
            (e.rowsAfter f n c s rows)) ∧
      ((e.turn f n s.state c).param? "field" = none →
        (e.visit f n { c with items := rows } s).1 = .error (.missingParam n.id "field") ∧
          e.rowsAfter f n c s rows = rows)) ∧
    (NodeKind.ofName? n.type = some .filter →
      (∀ rows, (e.visit f n { c with items := rows } s).1 = .ok (n.next.bind nonBlank) ∧
        e.rowsAfter f n c s rows = rows.filter (e.turn f n s.state c).holdsFor) ∧
      (e.visit f n (e.visit f n c s).2.1 (e.visit f n c s).2.2).2.1.items =
        (e.visit f n c s).2.1.items) ∧
    ∀ (row : Item) (key : String),
      (e.turn f n s.state c).resolveFor row (.text ("item." ++ key)) =
        (row.get? key).getD .null := by
  refine ⟨fun kind xs ys hx hy => rowsAfter_append kind hx hy, ?_, ?_, ?_⟩
  · intro kind rows filled
    refine ⟨fun field given => ?_, fun absent => setField_lacks kind absent filled⟩
    obtain ⟨next, set⟩ := setField_leaves kind given filled
    refine ⟨next, ?_⟩
    rw [set, List.forall₂_map_right_iff, List.forall₂_same]
    intro row _
    exact Turn.setsField_insert field.toText row
  · intro kind
    exact ⟨filter_leaves kind, filter_twice kind⟩
  · intro row key
    exact Turn.resolveFor_item _ row key

end Engine

def Item.counting (n : Nat) : Item := KeyMap.ofList [("n", .ofInt n)]

namespace Flow

def above : Node :=
  { id := "above", type := "Filter",
    params := .ofList [("left", .text "item.n"), ("op", .text ">"), ("right", .text "1")] }

def again : Node :=
  { id := "again", type := "SetField",
    params := .ofList [("field", .text "m"), ("value", .text "item.n")] }

def tallying : Flow := { id := "tallying", triggers := [], nodes := [above, again] }

end Flow

namespace Engine

/-- Of three rows the first is not kept, and each gets a copy of its own number. -/
theorem tallying_row_by_row :
    plain.rowsAfter Flow.tallying Flow.above {} .fresh ([.counting 1] ++ [.counting 2, .counting 3]) =
        plain.rowsAfter Flow.tallying Flow.above {} .fresh [.counting 1] ++
          plain.rowsAfter Flow.tallying Flow.above {} .fresh [.counting 2, .counting 3] ∧
      plain.rowsAfter Flow.tallying Flow.above {} .fresh
          [.counting 1, .counting 2, .counting 3] = [.counting 2, .counting 3] ∧
      List.Forall₂ ((plain.turn Flow.tallying Flow.again .empty {}).SetsField "m")
        [.counting 1, .counting 2, .counting 3]
        (plain.rowsAfter Flow.tallying Flow.again {} .fresh
          [.counting 1, .counting 2, .counting 3]) := by
  obtain ⟨append, -, kept, -⟩ := visit_row_by_row plain Flow.tallying Flow.above {} .fresh
  obtain ⟨-, set, -⟩ := visit_row_by_row plain Flow.tallying Flow.again {} .fresh
  refine ⟨(append (.inr (by decide)) _ _ (by simp) (by simp)).2.2, ?_, ?_⟩
  · rw [((kept (by decide)).1 _).2]
    decide +kernel
  · exact ((set (by decide) _ (by simp)).1 (.text "m") (by decide +kernel)).2

end Engine
end PluginFlow
