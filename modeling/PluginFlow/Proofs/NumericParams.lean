import PluginFlow.Proofs.Completion
import PluginFlow.Proofs.Mediation
import PluginFlow.Proofs.PlainTexts
import PluginFlow.Proofs.WholeNumbers

/-!
Timeouts, byte limits and ports. The bounds that the catalog declares for them are those of the
default network settings and of the policy, so a value that stands in a loaded flow is handed to the
platform as the integer it spells.
-/

namespace PluginFlow

namespace Number

theorem clampInt64_eq_iff {i j : Int} (low : minInt64 < i) (high : i < maxInt64) :
    clampInt64 j = i ↔ j = i := by
  unfold clampInt64
  omega

theorem isFinite_of_truncate? {n : Number} {i : Int} (h : n.truncate? = some i) :
    n.isFinite = true := by
  cases n with
  | finite => rfl
  | _ => cases h

end Number

namespace Value

/-- The integer that a value spells: the integer part of a number; what a text says between blanks,
or the integer part of it if it is a decimal or does not fit a word of sixty-four bits. -/
inductive Spells : Value → Int → Prop
  | number {n : Number} {i : Int} (part : n.truncate? = some i) : Spells (.number n) i
  | integer {s : String} {i : Int} (exactly : Number.integer? (Text.trim s).toList = some i) :
      Spells (.text s) i
  | decimal {s : String} {n : Number} {i : Int}
      (unfit : ∀ j, Number.integer? (Text.trim s).toList = some j →
        j < Number.minInt64 ∨ Number.maxInt64 < j)
      (read : Number.decimal? (Text.trim s).toList = some n) (part : n.truncate? = some i) :
      Spells (.text s) i

theorem toInt64?_eq_some_iff {n : Number} {i : Int} (low : Number.minInt64 < i)
    (high : i < Number.maxInt64) : n.toInt64? = some i ↔ n.truncate? = some i := by
  rw [Number.toInt64?, Option.map_eq_some_iff]
  constructor
  · rintro ⟨j, part, held⟩
    rwa [← (Number.clampInt64_eq_iff low high).1 held]
  · intro part
    exact ⟨i, part, (Number.clampInt64_eq_iff low high).2 rfl⟩

/-- What a text says exactly goes before what it says as a decimal. -/
theorem asInteger?_text_eq_some_iff {s : String} {i : Int} :
    (text s).asInteger? = some i ↔
      (Number.integer? (Text.trim s).toList = some i ∧ Number.minInt64 ≤ i ∧ i ≤ Number.maxInt64) ∨
      (∀ j, Number.integer? (Text.trim s).toList = some j →
        j < Number.minInt64 ∨ Number.maxInt64 < j) ∧
        ∃ n, Number.decimal? (Text.trim s).toList = some n ∧ n.toInt64? = some i := by
  have finite (n : Number) (part : n.toInt64? = some i) : n.isFinite = true := by
    obtain ⟨j, part, -⟩ := Option.map_eq_some_iff.1 part
    exact Number.isFinite_of_truncate? part
  rw [asInteger?, integerOfText?, numberOfText?]
  simp only [Option.or_eq_some_iff, Option.filter_eq_some_iff, Option.filter_eq_none_iff,
    Option.bind_eq_some_iff, Bool.and_eq_true, decide_eq_true_eq, not_and_or, not_le]
  refine or_congr Iff.rfl (and_congr Iff.rfl (exists_congr fun n => ?_))
  exact ⟨fun h => ⟨h.1.1, h.2⟩, fun h => ⟨⟨h.1, finite n h.2⟩, h.2⟩⟩

/-- Within sixty-four bits the integer view of a value is the integer that it spells. -/
theorem asInteger?_eq_some_iff {v : Value} {i : Int} (low : Number.minInt64 < i)
    (high : i < Number.maxInt64) : v.asInteger? = some i ↔ v.Spells i := by
  constructor
  · intro read
    cases v with
    | null => cases read
    | bool b => cases read
    | number n => exact .number ((toInt64?_eq_some_iff low high).1 read)
    | text s =>
      rcases asInteger?_text_eq_some_iff.1 read with ⟨exactly, -⟩ | ⟨unfit, n, read, part⟩
      · exact .integer exactly
      · exact .decimal unfit read ((toInt64?_eq_some_iff low high).1 part)
  · intro h
    cases h with
    | number part => exact (toInt64?_eq_some_iff low high).2 part
    | integer exactly => exact asInteger?_text_eq_some_iff.2 (.inl ⟨exactly, low.le, high.le⟩)
    | decimal unfit read part =>
      exact asInteger?_text_eq_some_iff.2
        (.inr ⟨unfit, _, read, (toInt64?_eq_some_iff low high).2 part⟩)

end Value

/-- A value that passes the declaration of an integer param is read as an integer within the
bounds. -/
theorem Catalog.exists_integer_of_not_rejects {key nodeId : String} {min max default : Nat}
    {v : Value} (small : max < 2 ^ 53) (ordered : min ≤ max)
    (h : ∀ i, ¬ (integer key min max default).Rejects nodeId v i) :
    ∃ i, v.asInteger? = some i ∧ (min : Int) ≤ i ∧ i ≤ max := by
  have numeric : ∃ x, (integer key min max default).Reads v x := by
    by_contra unread
    exact h _ (.noNumber (.inl rfl) (not_exists.1 unread))
  obtain ⟨x, reads⟩ := numeric
  have inside : ¬ (integer key min max default).Excludes x := fun outside =>
    h _ (.outOfRange reads outside)
  cases reads with
  | number type _ => cases type
  | @integer i _ read =>
    refine ⟨i, read, ?_, ?_⟩
    · refine Int.not_lt.1 fun below => inside (.inl ⟨_, rfl, ?_⟩)
      exact (Number.less_ofInt (by omega)).1.trans (decide_eq_true below)
    · refine Int.not_lt.1 fun above => inside (.inr ⟨_, rfl, ?_⟩)
      exact (Number.less_ofInt (by omega)).2.trans (decide_eq_true above)

def Node.Literal (n : Node) (key : String) (v : Value) : Prop :=
  n.params.get? key = some v ∧ v ≠ .null ∧ ¬ v.Refers

instance (n : Node) (key : String) (v : Value) : Decidable (n.Literal key v) :=
  have : Decidable v.Refers := decidable_of_iff _ Value.refers_iff.symm
  inferInstanceAs (Decidable (_ ∧ _))

/-- Whatever value a node has of its own under a key is read as one integer, which it spells. -/
def Node.Fixes (n : Node) (key : String) (i : Int) : Prop :=
  ∀ v, n.Literal key v → v.asInteger? = some i ∧ v.Spells i

theorem Node.Fixes.eq {n : Node} {key : String} {used i : Nat} {v : Value} (h : n.Fixes key used)
    (literal : n.Literal key v) (read : v.asInteger? = some (i : Int)) : used = i :=
  Int.ofNat.inj (Option.some.inj ((h v literal).1.symm.trans read))

theorem Scope.resolve_of_not_refers {v : Value} (literal : ¬ v.Refers) (scope : Scope)
    (current : Option Item) : scope.resolve current v = v := by
  cases v with
  | text s =>
    refine Scope.resolve_text_of_ne_source (fun r source => literal ⟨s, rfl, ?_⟩) scope current
    exact isReference_iff_source.2 (.inl ⟨r, source⟩)
  | _ => rfl

/-- A value that a node has of its own is what the node reads. -/
theorem Turn.integerParam?_of_literal {t : Turn} {key : String} {v : Value}
    (h : t.node.Literal key v) : t.integerParam? key = v.asInteger? := by
  obtain ⟨given, present, literal⟩ := h
  have param := Turn.param?_of_present (ParamSpec.presentParam?_eq_some_iff.2 ⟨given, present⟩)
  rw [integerParam?, param, Option.bind_some, resolve, Scope.resolve_of_not_refers literal]

namespace Node

variable {n : Node} {k : NodeKind} {key : String} {min max default : Nat}

/-- What a checked node has of its own under an integer param is read as an integer within the
bounds. -/
theorem Checked.exists_integer (checked : n.Checked (Catalog.spec k))
    (declared : Catalog.integer key min max default ∈ Catalog.params k) (small : max < 2 ^ 53)
    (ordered : min ≤ max) {v : Value} (literal : n.Literal key v) :
    ∃ i : Nat, v.asInteger? = some (i : Int) ∧ min ≤ i ∧ i ≤ max := by
  obtain ⟨i, read, low, high⟩ := Catalog.exists_integer_of_not_rejects small ordered
    (checked _ declared v literal.1 literal.2.1 literal.2.2)
  exact ⟨i.toNat, by rw [read, Int.toNat_of_nonneg (by omega)], by omega, by omega⟩

/-- If an integer param is used as it is whenever it is within its bounds, it is fixed by what a
checked node has of its own. -/
theorem Checked.fixes {t : Turn} (checked : t.node.Checked (Catalog.spec k))
    (declared : Catalog.integer key min max default ∈ Catalog.params k) (small : max < 2 ^ 53)
    (ordered : min ≤ max) {used : Nat}
    (kept : ∀ i : Nat, t.integerParam? key = some (i : Int) → min ≤ i → i ≤ max → used = i) :
    t.node.Fixes key used := by
  intro v literal
  obtain ⟨i, read, low, high⟩ := checked.exists_integer declared small ordered literal
  obtain rfl := kept i ((Turn.integerParam?_of_literal literal).trans read) low high
  have within : Number.minInt64 < (used : Int) ∧ (used : Int) < Number.maxInt64 := by
    unfold Number.minInt64 Number.maxInt64
    omega
  exact ⟨read, (Value.asInteger?_eq_some_iff within.1 within.2).1 read⟩

end Node

namespace NetworkSettings

theorem clamp?_of_within {low high n : Nat} (hl : low ≤ n) (hh : n ≤ high) :
    clamp? low high n = some n := by
  rw [clamp?, if_pos (hl.trans hh), Nat.min_eq_right hh, Nat.max_eq_right hl]

theorem exists_timeout_default (requested : Option Int) :
    ∃ timeout, ({} : NetworkSettings).timeout? requested = some timeout :=
  Option.ne_none_iff_exists'.1 (timeout?_ne_none (by decide) requested)

theorem exists_maxBytes_default (requested : Option Int) :
    ∃ maxBytes, ({} : NetworkSettings).maxBytes? requested = some maxBytes :=
  Option.ne_none_iff_exists'.1 (maxBytes?_ne_none (by decide) requested)

/-- The declared timeouts are those of the default settings. -/
theorem timeout?_default {i : Nat} (low : 250 ≤ i) (high : i ≤ 30000) :
    ({} : NetworkSettings).timeout? (some (i : Int)) = some i :=
  clamp?_of_within low high

/-- The declared byte limits are those of the default settings. -/
theorem maxBytes?_default {i : Nat} (low : 1 ≤ i) (high : i ≤ 1048576) :
    ({} : NetworkSettings).maxBytes? (some (i : Int)) = some i := by
  have requested : max (i : Int).toNat 1 = i := by omega
  rw [maxBytes?, Option.map_some, requested]
  exact clamp?_of_within low high

end NetworkSettings

/-- Only a port outside the range is refused for itself. -/
theorem Net.checkHostPort_of_port {host : String} {port : Int} (h : 1 ≤ port ∧ port ≤ 65535) :
    checkHostPort host port = checkHost host := by
  simp only [checkHostPort, checkHost_trim]
  cases checkHost host with
  | error v => rfl
  | ok _ => exact if_pos h

namespace Turn

variable {t : Turn}

/-- The request of a checked node with default settings. -/
theorem curl_fixed (network : t.settings.network = {})
    (checked : t.node.Checked (Catalog.spec .curl)) :
    ∃ timeout maxBytes : Nat,
      t.node.Fixes "timeoutMs" timeout ∧ t.node.Fixes "maxBytes" maxBytes ∧
        t.curl.call? = (Net.checkUrl (t.filledParam "url")).toOption.map fun u =>
          .httpGet u.text maxBytes timeout := by
  obtain ⟨timeout, ht⟩ := NetworkSettings.exists_timeout_default (t.integerParam? "timeoutMs")
  obtain ⟨maxBytes, hb⟩ := NetworkSettings.exists_maxBytes_default (t.integerParam? "maxBytes")
  refine ⟨timeout, maxBytes, ?_, ?_, ?_⟩
  · refine checked.fixes (List.mem_cons_of_mem _ List.mem_cons_self) (by decide) (by decide) ?_
    intro i read low high
    rw [read, NetworkSettings.timeout?_default low high] at ht
    exact (Option.some.inj ht).symm
  · refine checked.fixes (List.mem_cons_of_mem _ (List.mem_cons_of_mem _ List.mem_cons_self))
      (by decide) (by decide) ?_
    intro i read low high
    rw [read, NetworkSettings.maxBytes?_default low high] at hb
    exact (Option.some.inj hb).symm
  · simp only [curl, network, ht, hb]
    cases Net.checkUrl (t.filledParam "url") <;> rfl

/-- The ping of a checked node with default settings. -/
theorem ping_fixed (network : t.settings.network = {})
    (checked : t.node.Checked (Catalog.spec .ping)) :
    ∃ timeout : Nat,
      t.node.Fixes "timeoutMs" timeout ∧ t.node.Fixes "port" t.pingPort.toNat ∧
        t.ping.call? = (Net.checkHostPort (t.filledParam "host") t.pingPort).toOption.map fun _ =>
          .tcpPing (t.filledParam "host") t.pingPort.toNat timeout := by
  obtain ⟨timeout, ht⟩ := NetworkSettings.exists_timeout_default
    (some ((t.integerParam? "timeoutMs").getD 2000))
  refine ⟨timeout, ?_, ?_, ?_⟩
  · refine checked.fixes
      (List.mem_cons_of_mem _ (List.mem_cons_of_mem _ List.mem_cons_self)) (by decide) (by decide)
      ?_
    intro i read low high
    rw [read, Option.getD_some, NetworkSettings.timeout?_default low high] at ht
    exact (Option.some.inj ht).symm
  · refine checked.fixes (List.mem_cons_of_mem _ List.mem_cons_self) (by decide) (by decide) ?_
    intro i read _ _
    rw [pingPort, read, Option.getD_some, Int.toNat_natCast]
  · simp only [ping, network, ht]
    cases Net.checkHostPort (t.filledParam "host") t.pingPort <;> rfl

/-- The policy has nothing against a port that a checked node has of its own. -/
theorem checkHostPort_of_literal (checked : t.node.Checked (Catalog.spec .ping)) {v : Value}
    (literal : t.node.Literal "port" v) :
    Net.checkHostPort (t.filledParam "host") t.pingPort = Net.checkHost (t.filledParam "host") := by
  obtain ⟨i, read, low, high⟩ := checked.exists_integer
    (List.mem_cons_of_mem _ List.mem_cons_self) (by decide) (by decide) literal
  have port : t.pingPort = i := by
    rw [pingPort, integerParam?_of_literal literal, read, Option.getD_some]
  rw [port]
  exact Net.checkHostPort_of_port (by omega)

/-- A ping reports a refused destination only for what the policy has against it. -/
theorem reason_of_ping_leaves {o : Outcome} (leaves : t.ping.Leaves o) {ev : Audit.Event}
    (hev : ev ∈ o.events) {nodeId destination reason : String}
    (refused : ev.details = .policy nodeId destination reason) :
    ∃ v, Net.checkHostPort (t.filledParam "host") t.pingPort = .error v ∧ reason = v.name := by
  rcases t.ping_cases with ⟨-, h⟩ | ⟨v, hv, h⟩ | ⟨timeout, -, -, h⟩
  · rw [h] at leaves
    exact absurd leaves Plan.leaves_fail
  · rw [h] at leaves
    obtain rfl := Plan.leaves_done.1 leaves
    obtain rfl := List.mem_singleton.1 hev
    cases refused
    exact ⟨v, hv, rfl⟩
  · rw [h] at leaves
    obtain ⟨a, rfl⟩ := Plan.leaves_ask.1 leaves
    cases a <;> obtain rfl := List.mem_singleton.1 hev <;> cases refused

end Turn

namespace Net

theorem checkAddress_ne_invalidPort (a : Address) : checkAddress a ≠ .error .invalidPort := by
  unfold checkAddress
  split
  · simp
  · split <;> simp

theorem Host.check_ne_invalidPort (h : Host) : h.check ≠ .error .invalidPort := by
  cases h with
  | domain name =>
    rw [Host.check]
    split <;> simp
  | ipv4 a =>
    rw [Host.check]
    exact checkAddress_ne_invalidPort _
  | ipv6 a =>
    rw [Host.check]
    exact checkAddress_ne_invalidPort _

/-- A host without a port is not refused for its port. -/
theorem checkHost_ne_invalidPort (host : String) : checkHost host ≠ .error .invalidPort := by
  unfold checkHost
  simp only
  split
  · simp
  · split
    · rename_i fault _
      cases fault <;> simp [Violation.ofFault]
    · exact Host.check_ne_invalidPort _

theorem Violation.name_ne_invalidPort {v : Violation} (h : v ≠ .invalidPort) :
    v.name ≠ invalidPort.name := by
  cases v <;> first | exact absurd rfl h | decide

end Net

namespace Engine

variable {σ ω : Type} {e : Engine σ ω} {f : Flow} {n : Node} {c : Context} {s : Session σ ω}

/-- A node makes the call of its plan and no other. -/
theorem calls_visit (e : Engine σ ω) (f : Flow) (n : Node) (c : Context) (s : Session σ ω) :
    (e.visit f n c s).2.2.journal.calls =
      s.journal.calls ++ (e.turn f n s.state c).plan.call?.toList := by
  rw [← e.calls_carryOut]
  rcases h : e.carryOut (e.turn f n s.state c).plan s with ⟨fault | o, s'⟩
  · simp only [visit_eq, h, calls_trace]
  · simp only [visit_eq, h, calls_trace, calls_settle]

/-- A node records what an outcome of its plan notes, if it comes to one, and a trace at most. -/
theorem exists_events_visit (e : Engine σ ω) (f : Flow) (n : Node) (c : Context)
    (s : Session σ ω) :
    ∃ events, (e.visit f n c s).2.2.journal.events = s.journal.events ++ events ∧
      ∀ ev ∈ events, (∃ t state c, ev = e.traceEvent t state c) ∨
        ∃ o, (e.turn f n s.state c).plan.Leaves o ∧ ev ∈ o.events := by
  have kept := e.events_carryOut (e.turn f n s.state c).plan s
  have traced (t : Turn) (state : KeyMap Value) (c : Context) :
      ∀ ev ∈ (if e.settings.traceNodes then [e.traceEvent t state c] else []),
        ∃ t state c, ev = e.traceEvent t state c := by
    intro ev hev
    split at hev
    · exact ⟨t, state, c, List.mem_singleton.1 hev⟩
    · cases hev
  rcases h : e.carryOut (e.turn f n s.state c).plan s with ⟨fault | o, s'⟩
  · rw [h] at kept
    simp only [visit_eq, h, events_trace, kept]
    exact ⟨_, rfl, fun ev hev => .inl (traced _ _ _ ev hev)⟩
  · rw [h] at kept
    simp only [visit_eq, h, events_trace, events_settle, kept, List.append_assoc]
    refine ⟨_, rfl, fun ev hev => ?_⟩
    rcases List.mem_append.1 hev with noted | hev
    · exact .inr ⟨o, leaves_of_carryOut h, noted⟩
    · exact .inl (traced _ _ _ ev hev)

/-- A ping that is checked like its host alone is not refused for its port. -/
theorem ping_events (kind : NodeKind.ofName? n.type = some .ping)
    (portless : Net.checkHostPort ((e.turn f n s.state c).filledParam "host")
        (e.turn f n s.state c).pingPort =
      Net.checkHost ((e.turn f n s.state c).filledParam "host")) :
    ∃ events, (e.visit f n c s).2.2.journal.events = s.journal.events ++ events ∧
      ∀ ev ∈ events, ∀ nodeId destination,
        ev.details ≠ .policy nodeId destination Net.Violation.invalidPort.name := by
  have isPing : (e.turn f n s.state c).plan = (e.turn f n s.state c).ping := by
    simp only [Turn.plan, turn, kind]
  obtain ⟨events, recorded, origin⟩ := e.exists_events_visit f n c s
  refine ⟨events, recorded, fun ev hev nodeId destination refused => ?_⟩
  rcases origin ev hev with ⟨t, state, c, rfl⟩ | ⟨o, leaves, noted⟩
  · cases refused
  · rw [isPing] at leaves
    obtain ⟨v, hv, reason⟩ := Turn.reason_of_ping_leaves leaves noted refused
    rw [portless] at hv
    refine Net.Violation.name_ne_invalidPort ?_ reason.symm
    rintro rfl
    exact Net.checkHost_ne_invalidPort _ hv

/-- With the default network settings the nodes of a loaded flow hand on what stands in the flow. A
request is made with the timeout and the byte limit, a ping with the timeout and the port, that the
flow has for them, read as integers and not moved to any bound; and no ping is refused for a port
that stands in the flow. -/
theorem loaded_integers_kept {ω' : Type} {l : Loader ω'} {bytes : List UInt8} {g : Grants}
    {j : Journal ω'} {lf : LoadedFlow} (builtin : l.registry = Registry.builtin)
    (loaded : (l.load bytes g j).1 = .ok lf) (hn : n ∈ lf.definition.nodes) (e : Engine σ ω)
    (network : e.settings.network = {}) (c : Context) (s : Session σ ω) :
    (NodeKind.ofName? n.type = some .curl →
      ∃ timeout maxBytes : Nat, n.Fixes "timeoutMs" timeout ∧ n.Fixes "maxBytes" maxBytes ∧
        (e.visit lf.definition n c s).2.2.journal.calls = s.journal.calls ++
          ((Net.checkUrl ((e.turn lf.definition n s.state c).filledParam "url")).toOption.map
            fun u => Call.httpGet u.text maxBytes timeout).toList) ∧
    (NodeKind.ofName? n.type = some .ping →
      (∃ timeout port : Nat, n.Fixes "timeoutMs" timeout ∧ n.Fixes "port" port ∧
        (e.visit lf.definition n c s).2.2.journal.calls = s.journal.calls ++
          ((Net.checkHostPort ((e.turn lf.definition n s.state c).filledParam "host")
              (e.turn lf.definition n s.state c).pingPort).toOption.map
            fun _ => Call.tcpPing ((e.turn lf.definition n s.state c).filledParam "host") port
              timeout).toList) ∧
      ∀ v, n.Literal "port" v →
        Net.checkHostPort ((e.turn lf.definition n s.state c).filledParam "host")
            (e.turn lf.definition n s.state c).pingPort =
          Net.checkHost ((e.turn lf.definition n s.state c).filledParam "host") ∧
        ∃ events, (e.visit lf.definition n c s).2.2.journal.events = s.journal.events ++ events ∧
          ∀ ev ∈ events, ∀ nodeId destination,
            ev.details ≠ .policy nodeId destination Net.Violation.invalidPort.name) := by
  have known : ∀ k, NodeKind.ofName? n.type = some k → n.Checked (Catalog.spec k) := by
    intro k kind
    obtain ⟨sp, admissible⟩ := (Loader.accepted_of_load loaded).admissible n hn
    have checked := Loader.checked_of_load loaded hn admissible.known
    have registered := admissible.known
    rw [builtin] at registered
    obtain ⟨k', kind', rfl⟩ := Registry.builtin_spec? registered
    cases kind.symm.trans kind'
    exact checked
  rw [calls_visit]
  constructor
  · intro kind
    have isCurl : (e.turn lf.definition n s.state c).plan =
        (e.turn lf.definition n s.state c).curl := by
      simp only [Turn.plan, turn, kind]
    obtain ⟨timeout, maxBytes, ht, hb, call⟩ :=
      Turn.curl_fixed (t := e.turn lf.definition n s.state c) network (known .curl kind)
    exact ⟨timeout, maxBytes, ht, hb, by rw [isCurl, call]⟩
  · intro kind
    have isPing : (e.turn lf.definition n s.state c).plan =
        (e.turn lf.definition n s.state c).ping := by
      simp only [Turn.plan, turn, kind]
    constructor
    · obtain ⟨timeout, ht, hp, call⟩ :=
        Turn.ping_fixed (t := e.turn lf.definition n s.state c) network (known .ping kind)
      exact ⟨timeout, _, ht, hp, by rw [isPing, call]⟩
    · intro v literal
      have portless := Turn.checkHostPort_of_literal (t := e.turn lf.definition n s.state c)
        (known .ping kind) literal
      exact ⟨portless, ping_events kind portless⟩

end Engine
namespace Flow

def slowly : Node :=
  { id := "slowly", type := "Curl",
    params := .ofList
      [("url", .text "https://example.com/"), ("timeoutMs", .text " 250 "),
        ("maxBytes", .number (Number.ofRatio false (8195 * Number.unit) 4))] }

def elsewhere : Node :=
  { id := "elsewhere", type := "Ping",
    params := .ofList
      [("host", .text "example.com"), ("timeoutMs", .ofInt 30000), ("port", .text "8443.9")] }

def bounded : Flow := { id := "bounded", triggers := [], nodes := [slowly, elsewhere] }

def boundedBytes : List UInt8 := Text.Utf8.encode bounded.toDocument.compact

end Flow

namespace Engine

/-- A request and a ping with the integers that their nodes spell. -/
theorem bounded_integers_kept :
    (plain.visit Flow.bounded Flow.slowly {} .fresh).2.2.journal.calls =
        [.httpGet "https://example.com/" 2048 250] ∧
      (plain.visit Flow.bounded Flow.elsewhere {} .fresh).2.2.journal.calls =
        [.tcpPing "example.com" 8443 30000] := by
  have loaded : (Loader.plain.load Flow.boundedBytes (.ofList [.network]) ⟨(), []⟩).1 =
      .ok ⟨Flow.bounded, .ofList [.network], [], Flow.bounded.hash⟩ :=
    Loader.load_of_sound (by decide +kernel) (by decide +kernel)
  have first : Flow.slowly ∈ Flow.bounded.nodes := List.mem_cons_self
  have second : Flow.elsewhere ∈ Flow.bounded.nodes := List.mem_cons_of_mem _ List.mem_cons_self
  constructor
  · obtain ⟨timeout, maxBytes, ht, hb, calls⟩ :=
      (loaded_integers_kept rfl loaded first plain rfl {} .fresh).1 (by decide)
    obtain rfl : timeout = 250 := ht.eq (v := .text " 250 ") (by decide +kernel) (by decide +kernel)
    obtain rfl : maxBytes = 2048 :=
      hb.eq (v := .number (Number.ofRatio false (8195 * Number.unit) 4)) (by decide +kernel)
        (by decide +kernel)
    rw [calls]
    decide +kernel
  · obtain ⟨⟨timeout, port, ht, hp, calls⟩, -⟩ :=
      (loaded_integers_kept rfl loaded second plain rfl {} .fresh).2 (by decide)
    obtain rfl : timeout = 30000 := ht.eq (v := .ofInt 30000) (by decide +kernel) (by decide +kernel)
    obtain rfl : port = 8443 := hp.eq (v := .text "8443.9") (by decide +kernel) (by decide +kernel)
    rw [calls]
    decide +kernel

end Engine
end PluginFlow
