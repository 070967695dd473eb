import PluginFlow.Proofs.Run
import PluginFlow.Proofs.Url

/-!
What reaches the network. Whatever a flow, its params and the state say, a request or a ping is
made only for a destination that the policy lets through and only within the bounds of the settings.
-/

namespace PluginFlow

namespace Net

theorem checkUrl_eq_ok {s : String} {u : Url} (h : checkUrl s = .ok u) :
    Url.parse (Text.trim s) = .ok u ∧ u.scheme = "https" ∧
      checkHost (u.hostText?.getD "") = .ok () := by
  unfold checkUrl at h
  split at h
  · cases h
  rename_i u' hu
  split at h
  · cases h
  rename_i hs
  split at h
  · cases h
  rename_i hc
  cases h
  exact ⟨hu, Decidable.not_not.1 hs, hc⟩

/-- The text of a URL that is let through is let through itself, if it is read as that URL. -/
theorem checkUrl_text {s : String} {u : Url} (h : checkUrl s = .ok u)
    (readable : Url.parse u.text = .ok u) : checkUrl u.text = .ok u := by
  obtain ⟨hp, https, hc⟩ := checkUrl_eq_ok h
  unfold checkUrl
  simp only [Url.trim_text hp https, readable, https, hc]
  rfl

theorem checkHostPort_eq_ok {host : String} {port : Int} (h : checkHostPort host port = .ok ()) :
    checkHost host = .ok () ∧ 1 ≤ port ∧ port ≤ 65535 := by
  unfold checkHostPort at h
  rw [checkHost_trim] at h
  split at h
  · cases h
  rename_i hc
  split at h
  · rename_i hp
    exact ⟨hc, hp⟩
  · cases h

end Net

def NetworkSettings.AllowsTimeout (s : NetworkSettings) (timeoutMs : Nat) : Prop :=
  s.minTimeoutMs ≤ timeoutMs ∧ timeoutMs ≤ s.maxTimeoutMs

namespace Turn

/-- Only requests and pings reach the network. -/
theorem network_call {t : Turn} {c : Call} (h : t.plan.call? = some c)
    (hn : c.effect = .network) : t.curl.call? = some c ∨ t.ping.call? = some c := by
  cases hk : NodeKind.ofName? t.node.type with
  | none =>
    simp only [plan, hk] at h
    cases h
  | some k =>
    have he := effect_of_call? hk h
    rw [hn] at he
    cases k <;>
      simp only [Catalog.effects, List.mem_singleton, List.not_mem_nil, reduceCtorEq] at he
    case curl =>
      simp only [plan, hk] at h
      exact .inl h
    case ping =>
      simp only [plan, hk] at h
      exact .inr h

/-- A request is made for the text of a URL that was let through, within the bounds. -/
theorem request_of_call? {t : Turn} {url : String} {maxBytes timeoutMs : Nat}
    (h : t.plan.call? = some (.httpGet url maxBytes timeoutMs)) :
    (∃ u, Net.checkUrl (t.filledParam "url") = .ok u ∧ url = u.text) ∧
      (1 ≤ maxBytes ∧ maxBytes ≤ t.settings.network.maxBytesCeiling) ∧
      t.settings.network.AllowsTimeout timeoutMs := by
  rcases network_call h rfl with h | h
  · obtain ⟨u, timeout, bytes, hu, ht, hb, hc⟩ := curl_call?_eq_some h
    cases hc
    exact ⟨⟨u, hu, rfl⟩, NetworkSettings.clamp?_bounds hb, NetworkSettings.clamp?_bounds ht⟩
  · obtain ⟨timeout, -, -, hc⟩ := ping_call?_eq_some h
    cases hc

/-- A ping is made to a host and a port that were let through, within the bounds. -/
theorem ping_of_call? {t : Turn} {host : String} {port timeoutMs : Nat}
    (h : t.plan.call? = some (.tcpPing host port timeoutMs)) :
    Net.checkHost host = .ok () ∧ (port : Int) = t.pingPort ∧ (1 ≤ port ∧ port ≤ 65535) ∧
      t.settings.network.AllowsTimeout timeoutMs := by
  rcases network_call h rfl with h | h
  · obtain ⟨u, timeout, bytes, -, -, -, hc⟩ := curl_call?_eq_some h
    cases hc
  · obtain ⟨timeout, hp, ht, hc⟩ := ping_call?_eq_some h
    cases hc
    obtain ⟨hh, low, high⟩ := Net.checkHostPort_eq_ok hp
    have hi : (t.pingPort.toNat : Int) = t.pingPort := Int.toNat_of_nonneg (by omega)
    exact ⟨hh, hi, ⟨by omega, by omega⟩, NetworkSettings.clamp?_bounds ht⟩

theorem curl_refused {t : Turn} {v : Net.Violation}
    (h : Net.checkUrl (t.filledParam "url") = .error v) : t.curl.call? = none := by
  apply Option.eq_none_iff_forall_ne_some.2
  intro c hc
  obtain ⟨u, timeout, bytes, hu, -, -, -⟩ := curl_call?_eq_some hc
  rw [h] at hu
  cases hu

theorem ping_refused {t : Turn} {v : Net.Violation}
    (h : Net.checkHostPort (t.filledParam "host") t.pingPort = .error v) :
    t.ping.call? = none := by
  apply Option.eq_none_iff_forall_ne_some.2
  intro c hc
  obtain ⟨timeout, hp, -, -⟩ := ping_call?_eq_some hc
  rw [h] at hp
  cases hp

/-- What holds of the call that a turn makes to the network, under the settings of an engine. -/
structure Mediated (net : NetworkSettings) (t : Turn) : Prop where
  request : ∀ url maxBytes timeoutMs, t.plan.call? = some (.httpGet url maxBytes timeoutMs) →
    (∃ u, Net.checkUrl (t.filledParam "url") = .ok u ∧ url = u.text ∧
      (Net.Url.parse url = .ok u → Net.checkUrl url = .ok u)) ∧
    (1 ≤ maxBytes ∧ maxBytes ≤ net.maxBytesCeiling) ∧ net.AllowsTimeout timeoutMs
  ping : ∀ host port timeoutMs, t.plan.call? = some (.tcpPing host port timeoutMs) →
    Net.checkHost host = .ok () ∧ (1 ≤ port ∧ port ≤ 65535) ∧
    (∀ p, t.integerParam? "port" = some p → (port : Int) = p) ∧
    (t.integerParam? "port" = none → port = 443) ∧ net.AllowsTimeout timeoutMs
  requestRefused : NodeKind.ofName? t.node.type = some .curl →
    ∀ v, Net.checkUrl (t.filledParam "url") = .error v → t.plan.call? = none
  pingRefused : NodeKind.ofName? t.node.type = some .ping →
    ∀ v, Net.checkHostPort (t.filledParam "host") t.pingPort = .error v → t.plan.call? = none

theorem mediated (t : Turn) : t.Mediated t.settings.network := by
  constructor
  · intro url maxBytes timeoutMs h
    obtain ⟨⟨u, hu, rfl⟩, bounds⟩ := request_of_call? h
    exact ⟨⟨u, hu, rfl, Net.checkUrl_text hu⟩, bounds⟩
  · intro host port timeoutMs h
    obtain ⟨hh, hi, hp, ht⟩ := ping_of_call? h
    rw [pingPort] at hi
    refine ⟨hh, hp, ?_, ?_, ht⟩
    · intro p he
      rw [he] at hi
      exact hi
    · intro he
      rw [he] at hi
      exact Int.ofNat.inj hi
  · intro hk v hv
    simp only [plan, hk]
    exact curl_refused hv
  · intro hk v hv
    simp only [plan, hk]
    exact ping_refused hv

end Turn

namespace Engine

variable {σ ω : Type}

/-- All calls of a run are those of its turns, whose calls to the network are mediated, and at
most one dialog. -/
theorem execute_mediated (e : Engine σ ω) (f : Flow) (trigger : Trigger) (c : Context)
    (s : Session σ ω) :
    ∃ turns w, e.Runs f trigger c s turns w ∧
      (e.execute f trigger c s).2.journal.calls =
        s.journal.calls ++ turns.filterMap (·.plan.call?) ++ w.report.toList ∧
      ∀ t ∈ turns, t.Mediated e.settings.network := by
  obtain ⟨turns, w, h⟩ := exists_runs e f trigger c s
  refine ⟨turns, w, h, h.calls_eq, ?_⟩
  intro t ht
  obtain ⟨n, -, q, rfl⟩ := h.exists_turnAt ht
  exact (e.turnAt f n q).mediated

end Engine
end PluginFlow
