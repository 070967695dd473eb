import PluginFlow.Proofs.NodePlans
import PluginFlow.Validation

/-!
What the plan of a node can come to: the call it may make, the outcomes it may leave, where those
lead, and why it may fail.
-/

namespace PluginFlow

namespace Plan

/-- A plan leaves its outcome, or the one it makes of some answer to its call. -/
inductive Leaves : Plan → Outcome → Prop
  | done (o : Outcome) : Leaves (.done o) o
  | answered (c : Call) (resume : c.Answer → Outcome) (a : c.Answer) :
      Leaves (.ask c resume) (resume a)

@[simp] theorem leaves_fail {f : NodeFault} {o : Outcome} : ¬ (fail f).Leaves o := by
  intro h
  cases h

@[simp] theorem leaves_done {o o' : Outcome} : (done o).Leaves o' ↔ o' = o := by
  constructor
  · intro h
    cases h
    rfl
  · rintro rfl
    exact .done o'

@[simp] theorem leaves_ask {c : Call} {resume : c.Answer → Outcome} {o : Outcome} :
    (ask c resume).Leaves o ↔ ∃ a, resume a = o := by
  constructor
  · intro h
    cases h with
    | answered _ _ a => exact ⟨a, rfl⟩
  · rintro ⟨a, rfl⟩
    exact .answered c resume a

variable {α : Type} {x : Except NodeFault α} {k : α → Plan}

@[simp] theorem leaves_require {o : Outcome} :
    (require x k).Leaves o ↔ ∃ a, x = .ok a ∧ (k a).Leaves o := by
  cases x <;> simp [require]

def Always (P : Outcome → Prop) (p : Plan) : Prop := ∀ o, p.Leaves o → P o

variable {P : Outcome → Prop}

theorem always_fail {f : NodeFault} : (fail f).Always P := by
  intro o h
  exact absurd h leaves_fail

theorem always_done {o : Outcome} : (done o).Always P ↔ P o := by
  simp [Always]

theorem always_ask {c : Call} {resume : c.Answer → Outcome} :
    (ask c resume).Always P ↔ ∀ a, P (resume a) := by
  simp [Always]

theorem always_require : (require x k).Always P ↔ ∀ a, x = .ok a → (k a).Always P := by
  simp only [Always, leaves_require]
  constructor
  · intro h a ha o ho
    exact h o ⟨a, ha, ho⟩
  · rintro h o ⟨a, ha, ho⟩
    exact h a ha o ho

@[simp] theorem call?_require {c : Call} :
    (require x k).call? = some c ↔ ∃ a, x = .ok a ∧ (k a).call? = some c := by
  cases x <;> simp [require, call?]

@[simp] theorem require_eq_fail {f : NodeFault} :
    require x k = fail f ↔ x = .error f ∨ ∃ a, x = .ok a ∧ k a = fail f := by
  cases x <;> simp [require]

end Plan

def Call.effect : Call → SideEffect
  | .toast .. => .ui
  | .dialog .. => .ui
  | .navigate .. => .ui
  | .httpGet .. => .network
  | .tcpPing .. => .network
  | .captureImage => .camera
  | .persist .. => .storage

namespace Node

/-- The ids that a node can lead to: those of its two branches if it has a condition, else the next
one. -/
def exits (n : Node) : List (Option String) :=
  if NodeKind.ofName? n.type = some .ifElse then [n.nextTrue, n.nextFalse] else [n.next]

theorem mem_exits {n : Node} {id : Option String} (h : id ∈ n.exits) :
    id = n.next ∨ id = n.nextTrue ∨ id = n.nextFalse := by
  unfold exits at h
  split at h
  · exact .inr (by simpa using h)
  · exact .inl (List.mem_singleton.1 h)

end Node

namespace Turn

/-- A param that is neither absent nor null needs no declaration. -/
theorem param?_of_present {t : Turn} {key : String} {v : Value}
    (h : presentParam? t.node.params key = some v) : t.param? key = some v := by
  unfold presentParam? at h
  rw [param?, h]
  rfl

theorem required_eq_error {t : Turn} {key : String} {f : NodeFault} :
    t.required key = .error f ↔ t.param? key = none ∧ f = .missingParam t.node.id key := by
  unfold required
  cases t.param? key <;> simp [eq_comm]

/-- A request breaks off on crossed bounds, is refused by the policy, or is made within its
bounds for the URL that the policy has let through. -/
theorem curl_cases (t : Turn) :
    ((t.settings.network.timeout? (t.integerParam? "timeoutMs") = none ∨
        t.settings.network.maxBytes? (t.integerParam? "maxBytes") = none) ∧
      t.curl = .fail .broken) ∨
    (∃ v, Net.checkUrl (t.filledParam "url") = .error v ∧
      t.curl = .done (t.outcome
        (t.refusal "Curl destination blocked" (t.filledParam "url") v) t.noResponse)) ∨
    (∃ u timeout maxBytes, Net.checkUrl (t.filledParam "url") = .ok u ∧
      t.settings.network.timeout? (t.integerParam? "timeoutMs") = some timeout ∧
      t.settings.network.maxBytes? (t.integerParam? "maxBytes") = some maxBytes ∧
      t.curl = .ask (.httpGet u.text maxBytes timeout) t.responded) := by
  unfold curl
  simp only
  cases t.settings.network.timeout? (t.integerParam? "timeoutMs") with
  | none => exact .inl ⟨.inl rfl, rfl⟩
  | some timeout =>
    cases t.settings.network.maxBytes? (t.integerParam? "maxBytes") with
    | none => exact .inl ⟨.inr rfl, rfl⟩
    | some maxBytes =>
      cases Net.checkUrl (t.filledParam "url") with
      | error v => exact .inr (.inl ⟨v, rfl, rfl⟩)
      | ok u => exact .inr (.inr ⟨u, timeout, maxBytes, rfl, rfl, rfl, rfl⟩)

/-- The timeout that a ping asks for: two seconds unless a param stands for an integer. -/
def pingTimeout? (t : Turn) : Option Nat :=
  t.settings.network.timeout? (some ((t.integerParam? "timeoutMs").getD 2000))

/-- A ping breaks off on crossed bounds, is refused by the policy, or is made to the host and the
port that the policy has let through. -/
theorem ping_cases (t : Turn) :
    (t.pingTimeout? = none ∧ t.ping = .fail .broken) ∨
    (∃ v, Net.checkHostPort (t.filledParam "host") t.pingPort = .error v ∧
      t.ping = .done (t.outcome
        (t.refusal "Ping destination blocked"
          (t.filledParam "host" ++ ":" ++ Number.intText t.pingPort) v)
        (t.pingWrites false (-1)))) ∨
    (∃ timeout, Net.checkHostPort (t.filledParam "host") t.pingPort = .ok () ∧
      t.pingTimeout? = some timeout ∧
      t.ping = .ask (.tcpPing (t.filledParam "host") t.pingPort.toNat timeout) t.pinged) := by
  unfold ping pingTimeout?
  simp only
  cases t.settings.network.timeout? (some ((t.integerParam? "timeoutMs").getD 2000)) with
  | none => exact .inl ⟨rfl, rfl⟩
  | some timeout =>
    cases Net.checkHostPort (t.filledParam "host") t.pingPort with
    | error v => exact .inr (.inl ⟨v, rfl, rfl⟩)
    | ok _ => exact .inr (.inr ⟨timeout, rfl, rfl, rfl⟩)

/-- A plan that, however it ends well, keeps the rows and goes on to the next node. -/
def Moves (t : Turn) (p : Plan) : Prop :=
  ∀ o, p.Leaves o → ∃ notes writes, o = t.outcome notes writes

theorem moves_done (t : Turn) (notes : List Note) (writes : List (String × Value)) :
    t.Moves (.done (t.outcome notes writes)) :=
  Plan.always_done.2 ⟨notes, writes, rfl⟩

theorem moves_ask {t : Turn} {c : Call} {resume : c.Answer → Outcome}
    (h : ∀ a, ∃ notes writes, resume a = t.outcome notes writes) : t.Moves (.ask c resume) :=
  Plan.always_ask.2 h

theorem moves_require {t : Turn} {α : Type} {x : Except NodeFault α} {k : α → Plan}
    (h : ∀ a, t.Moves (k a)) : t.Moves (.require x k) :=
  Plan.always_require.2 fun a _ => h a

theorem curl_moves (t : Turn) : t.Moves t.curl := by
  rcases t.curl_cases with ⟨-, h⟩ | ⟨v, -, h⟩ | ⟨u, timeout, maxBytes, -, -, -, h⟩
  · rw [h]
    exact Plan.always_fail
  · rw [h]
    exact t.moves_done _ _
  · rw [h]
    apply moves_ask
    intro a
    cases a <;> exact ⟨_, _, rfl⟩

theorem ping_moves (t : Turn) : t.Moves t.ping := by
  rcases t.ping_cases with ⟨-, h⟩ | ⟨v, -, h⟩ | ⟨timeout, -, -, h⟩
  · rw [h]
    exact Plan.always_fail
  · rw [h]
    exact t.moves_done _ _
  · rw [h]
    apply moves_ask
    intro a
    cases a <;> exact ⟨_, _, rfl⟩

theorem captureImage_moves (t : Turn) : t.Moves t.captureImage := by
  apply moves_ask
  intro a
  cases a <;> exact ⟨_, _, rfl⟩

/-- Only branches choose where to go, and only nodes on rows change rows. -/
theorem plan_moves {t : Turn} (h₁ : NodeKind.ofName? t.node.type ≠ some .ifElse)
    (h₂ : NodeKind.ofName? t.node.type ≠ some .setField)
    (h₃ : NodeKind.ofName? t.node.type ≠ some .filter) : t.Moves t.plan := by
  unfold plan
  split
  · contradiction
  · contradiction
  · contradiction
  · exact moves_require fun _ => t.moves_done _ _
  · exact moves_require fun _ => t.moves_done _ _
  · exact moves_require fun _ => moves_ask fun _ => ⟨_, _, rfl⟩
  · exact moves_require fun _ => moves_ask fun _ => ⟨_, _, rfl⟩
  · exact moves_require fun _ => moves_ask fun _ => ⟨_, _, rfl⟩
  · exact moves_require fun _ => moves_ask fun _ => ⟨_, _, rfl⟩
  · exact t.moves_done _ _
  · exact moves_ask fun _ => ⟨_, _, rfl⟩
  · exact t.curl_moves
  · exact t.ping_moves
  · exact t.captureImage_moves
  · exact t.moves_done _ _

/-- A node leads to one of its exits, whatever it is answered. -/
theorem next_mem_exits {t : Turn} {o : Outcome} (h : t.plan.Leaves o) :
    o.next ∈ t.node.exits := by
  unfold Node.exits
  by_cases h₁ : NodeKind.ofName? t.node.type = some .ifElse
  · simp only [plan, h₁, ifElse, Plan.leaves_done] at h
    subst h
    rw [if_pos h₁]
    cases t.holds t.firstItem? with
    | true => exact List.mem_cons_self
    | false => exact List.mem_cons_of_mem _ List.mem_cons_self
  rw [if_neg h₁, List.mem_singleton]
  by_cases h₂ : NodeKind.ofName? t.node.type = some .setField
  · simp only [plan, h₂, setField, Plan.leaves_require, Plan.leaves_done] at h
    obtain ⟨field, -, rfl⟩ := h
    rfl
  by_cases h₃ : NodeKind.ofName? t.node.type = some .filter
  · simp only [plan, h₃, filter, Plan.leaves_done] at h
    subst h
    rfl
  obtain ⟨notes, writes, rfl⟩ := plan_moves h₁ h₂ h₃ o h
  rfl

/-- A node leads to one of the three ids that it names, whatever it is answered. -/
theorem next_of_leaves {t : Turn} {o : Outcome} (h : t.plan.Leaves o) :
    o.next = t.node.next ∨ o.next = t.node.nextTrue ∨ o.next = t.node.nextFalse :=
  Node.mem_exits (next_mem_exits h)

/-- A request is only made for a URL that was let through, within the bounds. -/
theorem curl_call?_eq_some {t : Turn} {c : Call} (h : t.curl.call? = some c) :
    ∃ u timeout maxBytes, Net.checkUrl (t.filledParam "url") = .ok u ∧
      t.settings.network.timeout? (t.integerParam? "timeoutMs") = some timeout ∧
      t.settings.network.maxBytes? (t.integerParam? "maxBytes") = some maxBytes ∧
      c = .httpGet u.text maxBytes timeout := by
  rcases t.curl_cases with ⟨-, hp⟩ | ⟨v, -, hp⟩ | ⟨u, timeout, maxBytes, hu, ht, hb, hp⟩ <;>
    rw [hp] at h <;> cases h
  exact ⟨u, timeout, maxBytes, hu, ht, hb, rfl⟩

/-- A ping is only made to a host and a port that were let through, within the bounds. -/
theorem ping_call?_eq_some {t : Turn} {c : Call} (h : t.ping.call? = some c) :
    ∃ timeout, Net.checkHostPort (t.filledParam "host") t.pingPort = .ok () ∧
      t.pingTimeout? = some timeout ∧
      c = .tcpPing (t.filledParam "host") t.pingPort.toNat timeout := by
  rcases t.ping_cases with ⟨-, hp⟩ | ⟨v, -, hp⟩ | ⟨timeout, hc, ht, hp⟩ <;>
    rw [hp] at h <;> cases h
  exact ⟨timeout, hc, ht, rfl⟩

/-- The catalog declares every effect that a node has: each call belongs to a class listed for
the type of the node. -/
theorem effect_of_call? {t : Turn} {k : NodeKind} {c : Call}
    (hk : NodeKind.ofName? t.node.type = some k) (h : t.plan.call? = some c) :
    c.effect ∈ Catalog.effects k := by
  cases k <;> simp only [plan, hk] at h
  case ifElse => cases h
  case setField =>
    obtain ⟨_, -, h⟩ := Plan.call?_require.1 h
    cases h
  case filter => cases h
  case setState =>
    obtain ⟨_, -, h⟩ := Plan.call?_require.1 h
    cases h
  case increment =>
    obtain ⟨_, -, h⟩ := Plan.call?_require.1 h
    cases h
  case showToast =>
    obtain ⟨_, -, h⟩ := Plan.call?_require.1 h
    cases h
    exact List.mem_singleton_self _
  case showDialog =>
    obtain ⟨_, -, h⟩ := Plan.call?_require.1 h
    cases h
    exact List.mem_singleton_self _
  case navigate =>
    obtain ⟨_, -, h⟩ := Plan.call?_require.1 h
    cases h
    exact List.mem_singleton_self _
  case showImage =>
    obtain ⟨_, -, h⟩ := Plan.call?_require.1 h
    cases h
    exact List.mem_singleton_self _
  case emitMessage => cases h
  case persistState =>
    cases h
    exact List.mem_cons_self
  case curl =>
    obtain ⟨u, timeout, maxBytes, -, -, -, rfl⟩ := curl_call?_eq_some h
    exact List.mem_singleton_self _
  case ping =>
    obtain ⟨timeout, -, -, rfl⟩ := ping_call?_eq_some h
    exact List.mem_singleton_self _
  case captureImage =>
    cases h
    exact List.mem_singleton_self _

/-- A node of a type without effects writes nothing to the state. -/
theorem writes_eq_nil_of_leaves {t : Turn} {k : NodeKind} {o : Outcome}
    (hk : NodeKind.ofName? t.node.type = some k) (he : Catalog.effects k = [])
    (h : t.plan.Leaves o) : o.writes = [] := by
  cases k <;> simp only [Catalog.effects, reduceCtorEq] at he
  · simp only [plan, hk, ifElse, Plan.leaves_done] at h
    subst h
    rfl
  · simp only [plan, hk, setField, Plan.leaves_require, Plan.leaves_done] at h
    obtain ⟨field, -, rfl⟩ := h
    rfl
  · simp only [plan, hk, filter, Plan.leaves_done] at h
    subst h
    rfl

/-- Why a node of a kind may fail: a param that its declaration demands and does not supply is
absent, or the bounds of the network settings cross. -/
inductive Lacks (t : Turn) (k : NodeKind) : NodeFault → Prop
  | param (p : ParamSpec) (declared : p ∈ Catalog.params k) (required : p.required = true)
      (bare : p.defaultValue = none) (absent : t.param? p.key = none) :
      Lacks t k (.missingParam t.node.id p.key)
  | timeout (n : Option Int) (crossed : t.settings.network.timeout? n = none) : Lacks t k .broken
  | maxBytes (n : Option Int) (crossed : t.settings.network.maxBytes? n = none) :
      Lacks t k .broken

theorem lacks_of_require {t : Turn} {k : NodeKind} {p : ParamSpec} {f : NodeFault}
    {next : Value → Plan} (declared : p ∈ Catalog.params k) (required : p.required = true)
    (bare : p.defaultValue = none) (h : Plan.require (t.required p.key) next = .fail f)
    (safe : ∀ v, next v ≠ .fail f) : t.Lacks k f := by
  rcases Plan.require_eq_fail.1 h with h | ⟨v, -, h⟩
  · obtain ⟨absent, rfl⟩ := required_eq_error.1 h
    exact .param p declared required bare absent
  · exact absurd h (safe v)

theorem curl_lacks {t : Turn} {k : NodeKind} {f : NodeFault} (h : t.curl = .fail f) :
    t.Lacks k f := by
  rcases t.curl_cases with ⟨hc, hp⟩ | ⟨v, -, hp⟩ | ⟨u, timeout, maxBytes, -, -, -, hp⟩ <;>
    rw [hp] at h <;> cases h
  rcases hc with hc | hc
  · exact .timeout _ hc
  · exact .maxBytes _ hc

theorem ping_lacks {t : Turn} {k : NodeKind} {f : NodeFault} (h : t.ping = .fail f) :
    t.Lacks k f := by
  rcases t.ping_cases with ⟨hc, hp⟩ | ⟨v, -, hp⟩ | ⟨timeout, -, -, hp⟩ <;>
    rw [hp] at h <;> cases h
  exact .timeout _ hc

/-- What a handler demands is what the catalog declares as demanded. -/
theorem lacks_of_plan_eq_fail {t : Turn} {k : NodeKind} {f : NodeFault}
    (hk : NodeKind.ofName? t.node.type = some k) (h : t.plan = .fail f) : t.Lacks k f := by
  cases k <;> simp only [plan, hk] at h
  case ifElse => cases h
  case filter => cases h
  case setField =>
    refine lacks_of_require (p := Catalog.requiredText "field" 128) List.mem_cons_self rfl rfl h ?_
    intro v hv
    cases hv
  case setState =>
    refine lacks_of_require (p := Catalog.requiredText "key" 128) List.mem_cons_self rfl rfl h ?_
    intro v hv
    cases hv
  case increment =>
    refine lacks_of_require (p := Catalog.requiredText "key" 128) List.mem_cons_self rfl rfl h ?_
    intro v hv
    cases hv
  case showToast =>
    refine lacks_of_require (p := Catalog.requiredText "message" 1000) List.mem_cons_self rfl rfl
      h ?_
    intro v hv
    cases hv
  case showDialog =>
    refine lacks_of_require (p := Catalog.requiredText "message" 4000)
      (List.mem_cons_of_mem _ List.mem_cons_self) rfl rfl h ?_
    intro v hv
    cases hv
  case navigate =>
    refine lacks_of_require (p := Catalog.requiredText "screenId" 128) List.mem_cons_self rfl rfl
      h ?_
    intro v hv
    cases hv
  case showImage =>
    refine lacks_of_require (p := Catalog.requiredAny "source") List.mem_cons_self rfl rfl h ?_
    intro v hv
    cases hv
  case emitMessage => cases h
  case persistState => cases h
  case curl => exact curl_lacks h
  case ping => exact ping_lacks h
  case captureImage => cases h

end Turn
end PluginFlow
