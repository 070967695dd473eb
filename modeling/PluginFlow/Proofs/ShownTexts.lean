import PluginFlow.Proofs.Redaction

/-!
How long the texts are that the audit trail shows of values. Traces and refusals cut what they show,
and the marker stands for what they hide. A call that was made is told by a word or by its status.
-/

namespace PluginFlow

namespace Redactor

theorem length_truncate_le (r : Redactor) (text : String) :
    (r.truncate text).length ≤ r.maxValueLen + 1 := by
  unfold truncate
  simp only
  split
  · rename_i short
    rw [← String.length_toList]
    omega
  · rw [String.length_ofList, List.length_append, List.length_take, List.length_singleton]
    omega

/-- What is shown of a value is the marker, or no longer than a text that was cut. -/
theorem redactWith_eq_or_length_le (r : Redactor) (extra : List String) (key : String) (v : Value) :
    r.redactWith extra key v = redacted ∨
      (r.redactWith extra key v).length ≤ r.maxValueLen + 1 := by
  by_cases hidden : key ∈ extra ∨ r.isSensitive key = true
  · exact .inl (redactWith_of_sensitive hidden v)
  · obtain ⟨unnamed, ordinary⟩ := not_or.1 hidden
    rw [redactWith_of_ordinary unnamed ordinary]
    exact .inr (r.length_truncate_le _)

end Redactor

def FieldChange.Within (limit : Nat) (ch : FieldChange) : Prop :=
  ∀ text, text ∈ ch.before ∨ text ∈ ch.after → text = Redactor.redacted ∨ text.length ≤ limit

/-- An event that shows no more of changed values and refused destinations than the marker or so
many characters. -/
def Audit.Event.Within (limit : Nat) (ev : Audit.Event) : Prop :=
  match ev.details with
  | .nodeTrace _ _ stateChanges itemChanges => ∀ ch ∈ stateChanges ++ itemChanges, ch.Within limit
  | .policy _ destination _ => destination.length ≤ limit
  | _ => True

theorem Redactor.within_of_mem_diff {r : Redactor} {before after : KeyMap Value}
    {extra : List String} {ch : FieldChange} (h : ch ∈ r.diff before after extra) :
    ch.Within (r.maxValueLen + 1) := by
  obtain ⟨hb, ha⟩ := mem_diff h
  have shown {m : KeyMap Value} {text : String}
      (ht : text ∈ (m.get? ch.key).map (r.redactWith extra ch.key)) :
      text = redacted ∨ text.length ≤ r.maxValueLen + 1 := by
    obtain ⟨v, -, rfl⟩ := Option.map_eq_some_iff.1 ht
    exact r.redactWith_eq_or_length_le extra ch.key v
  rintro text (ht | ht)
  · exact shown (hb ▸ ht)
  · exact shown (ha ▸ ht)

/-! ### Calls that fail -/

def Call.Failed : (c : Call) → c.Answer → Prop
  | .httpGet .., a => ∃ f, a = Except.error f
  | .tcpPing .., a => ∃ f, a = Except.error f
  | .captureImage, a => ∃ f, a = Except.error f
  | _, _ => False

inductive Plan.LeavesFailed : Plan → Outcome → Prop
  | failed (c : Call) (resume : c.Answer → Outcome) (a : c.Answer) (failed : c.Failed a) :
      LeavesFailed (.ask c resume) (resume a)

def Dispatch.CallFailed (d : Dispatch) : Prop :=
  ∃ o, d.result = .ok o ∧ d.turn.plan.LeavesFailed o

namespace Turn

/-- The events of a node: a refused destination, cut, or a call that was made, told by a word or by
its status unless it failed. -/
inductive Shows (t : Turn) (failed : Prop) : Audit.Event → Prop
  | refused (destination reason : String) :
      Shows t failed
        (.policyBlocked t.flowId t.node.id (t.redactor.truncate destination) reason)
  | made (capability : String) :
      Shows t failed (.capabilityUsed t.flowId t.node.id capability "ok")
  | answered (capability : String) (status : Nat) :
      Shows t failed (.capabilityUsed t.flowId t.node.id capability (Number.intText status))
  | unmade (h : failed) (capability outcome : String) :
      Shows t failed (.capabilityUsed t.flowId t.node.id capability outcome)

def Reports (t : Turn) (p : Plan) : Prop :=
  ∀ o, p.Leaves o → ∀ ev ∈ o.events, t.Shows (p.LeavesFailed o) ev

variable {t : Turn}

theorem reports_of_quiet {p : Plan} (h : p.Always (·.events = [])) : t.Reports p := by
  intro o leaves ev hev
  rw [h o leaves] at hev
  cases hev

/-- A call that failed is noted as one event. -/
theorem shows_failure {p : Plan} {message capability : String} {f : CapabilityFault}
    {writes : List (String × Value)}
    (failed : p.LeavesFailed (t.outcome (t.failure message capability f) writes)) :
    ∀ ev ∈ (t.outcome (t.failure message capability f) writes).events,
      t.Shows (p.LeavesFailed (t.outcome (t.failure message capability f) writes)) ev := by
  intro ev hev
  cases List.mem_singleton.1 hev
  exact .unmade failed capability f.message

theorem curl_reports (t : Turn) : t.Reports t.curl := by
  rcases t.curl_cases with ⟨-, h⟩ | ⟨v, -, h⟩ | ⟨u, timeout, maxBytes, -, -, -, h⟩
  · rw [h]
    exact reports_of_quiet Plan.always_fail
  · rw [h]
    refine Plan.always_done.2 fun ev hev => ?_
    cases List.mem_singleton.1 hev
    exact .refused _ _
  · rw [h]
    refine Plan.always_ask.2 fun a => ?_
    cases a with
    | ok r =>
      intro ev hev
      cases List.mem_singleton.1 hev
      exact .answered "http_get" r.status
    | error f =>
      exact shows_failure
        (.failed (.httpGet u.text maxBytes timeout) t.responded (.error f) ⟨f, rfl⟩)

theorem ping_reports (t : Turn) : t.Reports t.ping := by
  rcases t.ping_cases with ⟨-, h⟩ | ⟨v, -, h⟩ | ⟨timeout, -, -, h⟩
  · rw [h]
    exact reports_of_quiet Plan.always_fail
  · rw [h]
    refine Plan.always_done.2 fun ev hev => ?_
    cases List.mem_singleton.1 hev
    exact .refused _ _
  · rw [h]
    refine Plan.always_ask.2 fun a => ?_
    cases a with
    | ok latency =>
      intro ev hev
      cases List.mem_singleton.1 hev
      exact .made "tcp_ping"
    | error f =>
      exact shows_failure (.failed (.tcpPing (t.filledParam "host") t.pingPort.toNat timeout)
        t.pinged (.error f) ⟨f, rfl⟩)

theorem captureImage_reports (t : Turn) : t.Reports t.captureImage := by
  refine Plan.always_ask.2 fun a => ?_
  cases a with
  | ok bytes =>
    intro ev hev
    cases List.mem_singleton.1 hev
    exact .made "capture_image"
  | error f => exact shows_failure (.failed .captureImage t.captured (.error f) ⟨f, rfl⟩)

theorem persistState_reports (t : Turn) : t.Reports t.persistState := by
  refine Plan.always_ask.2 fun a ev hev => ?_
  cases List.mem_singleton.1 hev
  exact .made "persist"

/-- What a node notes is a refused destination, cut, or a call that it made. -/
theorem plan_reports (t : Turn) : t.Reports t.plan := by
  by_cases h₁ : NodeKind.ofName? t.node.type = some .persistState
  · simp only [plan, h₁]
    exact t.persistState_reports
  by_cases h₂ : NodeKind.ofName? t.node.type = some .curl
  · simp only [plan, h₂]
    exact t.curl_reports
  by_cases h₃ : NodeKind.ofName? t.node.type = some .ping
  · simp only [plan, h₃]
    exact t.ping_reports
  by_cases h₄ : NodeKind.ofName? t.node.type = some .captureImage
  · simp only [plan, h₄]
    exact t.captureImage_reports
  exact reports_of_quiet (plan_quiet h₁ h₂ h₃ h₄)

theorem Shows.imp {failed failed' : Prop} {ev : Audit.Event} (h : t.Shows failed ev)
    (weaker : failed → failed') : t.Shows failed' ev := by
  cases h with
  | refused destination reason => exact .refused destination reason
  | made capability => exact .made capability
  | answered capability status => exact .answered capability status
  | unmade failed capability outcome => exact .unmade (weaker failed) capability outcome

theorem Shows.within {failed : Prop} {ev : Audit.Event} (h : t.Shows failed ev) :
    ev.Within (t.redactor.maxValueLen + 1) := by
  cases h with
  | refused destination reason => exact t.redactor.length_truncate_le destination
  | made capability => trivial
  | answered capability status => trivial
  | unmade _ capability outcome => trivial

/-- The outcome of a call that did not fail is a word or a status. -/
theorem Shows.outcome_eq {failed : Prop} {ev : Audit.Event} (h : t.Shows failed ev)
    (unfailed : ¬ failed) {nodeId capability outcome : String}
    (told : ev.details = .capability nodeId capability outcome) :
    outcome = "ok" ∨ ∃ status : Nat, outcome = Number.intText status := by
  cases h with
  | refused destination reason => cases told
  | made capability =>
    cases told
    exact .inl rfl
  | answered capability status =>
    cases told
    exact .inr ⟨status, rfl⟩
  | unmade failed => exact absurd failed unfailed

end Turn

namespace Dispatch

variable {σ ω : Type} {e : Engine σ ω} {d : Dispatch}

/-- What a turn notes is a refusal or is told of its call, which may have failed. -/
theorem shows_of_mem_noted (possible : d.Possible) {ev : Audit.Event} (h : ev ∈ d.noted) :
    d.turn.Shows d.CallFailed ev := by
  unfold noted at h
  cases result : d.result with
  | error fault =>
    rw [result] at h
    cases h
  | ok o =>
    rw [result] at h
    exact (d.turn.plan_reports o (possible o result) ev h).imp fun failed => ⟨o, result, failed⟩

theorem traced_within (e : Engine σ ω) (d : Dispatch) :
    (d.traced e).Within (e.redactor.maxValueLen + 1) := by
  intro ch hch
  rcases List.mem_append.1 hch with h | h
  · exact Redactor.within_of_mem_diff h
  · exact Redactor.within_of_mem_diff h

theorem recorded_within (possible : d.Possible) (settings : d.turn.settings = e.settings)
    {ev : Audit.Event} (h : ev ∈ d.recorded e) : ev.Within (e.redactor.maxValueLen + 1) := by
  rcases List.mem_append.1 h with noted | traced
  · have within := (shows_of_mem_noted possible noted).within
    rwa [Turn.redactor, settings, ← Engine.redactor] at within
  · split at traced
    · rw [List.mem_singleton.1 traced]
      exact d.traced_within e
    · cases traced

end Dispatch

namespace Engine

variable {σ ω : Type}

theorem endEvent_within (e : Engine σ ω) (f : Flow) (trigger : Trigger) (c : Context)
    (s : Session σ ω) (limit : Nat) : (e.endEvent f trigger c s).Within limit := by
  unfold endEvent
  split <;> trivial

/-- Every run shows of a changed value the marker or no more than a text that was cut, and of a
refused destination no more than that. It tells of a call that did not fail by a word or by its
status. -/
theorem execute_shows_within (e : Engine σ ω) (f : Flow) (trigger : Trigger) (c : Context)
    (s : Session σ ω) :
    ∃ (ds : List Dispatch) (w : Walked σ ω) (events : List Audit.Event),
      e.Runs f trigger c s (ds.map (·.turn)) w ∧
      (e.execute f trigger c s).2.journal.events = s.journal.events ++ events ∧
      (∀ ev ∈ events, ev.Within (e.settings.redaction.maxValueLen + 1)) ∧
      events = ds.flatMap (Dispatch.recorded e) ++ [e.endEvent f trigger c s] ∧
      ∀ d ∈ ds, ¬ d.CallFailed → ∀ ev ∈ d.recorded e, ∀ nodeId capability outcome,
        ev.details = .capability nodeId capability outcome →
          outcome = "ok" ∨ ∃ status : Nat, outcome = Number.intText status := by
  obtain ⟨turns, w, h⟩ := exists_runs e f trigger c s
  obtain ⟨ds, rfl, possible, recorded⟩ := h.exists_dispatches
  rw [List.append_assoc] at recorded
  refine ⟨ds, w, _, h, recorded, ?_, rfl, ?_⟩
  · intro ev hev
    rcases List.mem_append.1 hev with hev | hev
    · obtain ⟨d, hd, hev⟩ := List.mem_flatMap.1 hev
      obtain ⟨n, -, q, turn⟩ := h.exists_turnAt (List.mem_map_of_mem hd)
      exact Dispatch.recorded_within (possible d hd) (by rw [turn]; rfl) hev
    · rw [List.mem_singleton.1 hev]
      exact e.endEvent_within f trigger c s _
  · intro d hd unfailed ev hev nodeId capability outcome told
    rcases List.mem_append.1 hev with noted | traced
    · exact (Dispatch.shows_of_mem_noted (possible d hd) noted).outcome_eq unfailed told
    · split at traced
      · rw [List.mem_singleton.1 traced] at told
        cases told
      · cases traced

end Engine

/-! ### Texts beyond the limit -/

namespace Flow

def onHang : Trigger := { type := .onClick, startNodeId := "hang" }

def hanging : Flow :=
  { id := "hanging", triggers := [onHang],
    nodes :=
      [{ id := "hang", type := "SetState",
         params := .ofList [("key", .text "image"), ("value", .text "a")], next := some "look" },
        { id := "look", type := "CaptureImage" }] }

end Flow

namespace Engine

def terse : Engine Unit Unit := { plain with settings := { redaction := ⟨4⟩ } }

/-- Where values are cut at four characters, the marker is longer than a value that was cut, and so
is what is told of a capture that failed. -/
theorem short_limit_exceeded :
    .nodeTrace "hanging" "hang" "SetState" [⟨"image", none, some Redactor.redacted⟩] [] ∈
        (terse.execute .hanging Flow.onHang {} .fresh).2.journal.events ∧
      terse.settings.redaction.maxValueLen + 1 < Redactor.redacted.length ∧
      .capabilityUsed "hanging" "look" "capture_image" "capability unavailable: camera" ∈
        (terse.execute .hanging Flow.onHang {} .fresh).2.journal.events ∧
      terse.settings.redaction.maxValueLen + 1 < "capability unavailable: camera".length := by
  decide +kernel

end Engine

/-- A ping that makes its call goes on with what the call comes to. -/
theorem Turn.plan_of_ping_call {t : Turn} {host : String} {port timeoutMs : Nat}
    (kind : NodeKind.ofName? t.node.type = some .ping)
    (asked : t.plan.call? = some (.tcpPing host port timeoutMs)) :
    t.plan = .ask (.tcpPing host port timeoutMs) t.pinged := by
  simp only [plan, kind] at asked ⊢
  rcases t.ping_cases with ⟨-, h⟩ | ⟨v, -, h⟩ | ⟨timeout, -, -, h⟩
  · rw [h] at asked
    cases asked
  · rw [h] at asked
    cases asked
  · rw [h] at asked ⊢
    cases asked
    rfl

namespace Engine

/-- A ping that failed is told with the whole text of its fault, wherever values are cut. -/
theorem told_of_failed_ping {σ ω : Type} {e : Engine σ ω} {f : Flow} {n : Node} {c : Context}
    {s : Session σ ω} {host : String} {port timeoutMs : Nat} {fault : CapabilityFault}
    (kind : NodeKind.ofName? n.type = some .ping)
    (asked : (e.turn f n s.state c).plan.call? = some (.tcpPing host port timeoutMs))
    (failed : (e.platform.respond (.tcpPing host port timeoutMs) s.world).answer =
      some (.error fault)) :
    .capabilityUsed f.id n.id "tcp_ping" fault.message ∈ (e.visit f n c s).2.2.journal.events := by
  have ended : e.carryOut (e.turn f n s.state c).plan s =
      (.ok ((e.turn f n s.state c).pinged (.error fault)),
        (e.ask (.tcpPing host port timeoutMs) s).2) := by
    rw [Turn.plan_of_ping_call kind asked]
    exact e.carryOut_of_answer failed
  have noted : .capabilityUsed f.id n.id "tcp_ping" fault.message ∈
      ((e.turn f n s.state c).pinged (.error fault)).events := List.mem_singleton_self _
  simp only [visit_eq, ended, events_trace, events_settle]
  exact List.mem_append_left _ (List.mem_append_right _ noted)

end Engine

def Platform.unreachable (fault : CapabilityFault) : Platform Unit where
  respond c s :=
    ⟨some (match c with
      | .tcpPing .. => .error fault
      | c => Platform.refusal c), s, []⟩
  clock s := (0, s)

namespace Engine

def cutOff (fault : CapabilityFault) : Engine Unit Unit :=
  { plain with platform := .unreachable fault }

def knocking : Node := { id := "knock", type := "Ping", params := .ofList [("host", .text "a.b")] }

/-- With the settings as they come, a fault is told in full however long it is, though values are
cut at two hundred and fifty-six characters. -/
theorem default_limit_exceeded (reason : String) :
    (cutOff (.failed reason)).settings.redaction.maxValueLen = 256 ∧
      .capabilityUsed "hanging" "knock" "tcp_ping" reason ∈
        ((cutOff (.failed reason)).visit .hanging knocking {} .fresh).2.2.journal.events := by
  have asked : ((cutOff (.failed reason)).turn .hanging knocking .empty {}).plan.call? =
      some (.tcpPing "a.b" 443 2000) := by
    -- A turn does not see the platform.
    have here : (cutOff (.failed reason)).turn .hanging knocking .empty {} =
        plain.turn .hanging knocking .empty {} := rfl
    rw [here]
    decide +kernel
  have failed : ((cutOff (.failed reason)).platform.respond (.tcpPing "a.b" 443 2000) ()).answer =
      some (.error (.failed reason)) := rfl
  exact ⟨rfl, told_of_failed_ping (s := .fresh) (by decide) asked failed⟩

end Engine
end PluginFlow
