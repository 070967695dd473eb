import PluginFlow.Proofs.Base64Reading
import PluginFlow.Proofs.Completion
import PluginFlow.Proofs.Frame
import PluginFlow.Proofs.Redaction
import PluginFlow.Proofs.WholeNumbers

/-!
What requests, pings and captures leave in the state. However they end they go on to the next node
and write all their keys, so that nothing of an earlier one stays, and a flow can tell from what
they write whether they succeeded. A latency of sixty-four bits is the exception: it is stored as a
signed word, and the longest one looks like a failure.
-/

namespace PluginFlow

namespace Turn

/-- A response, or what stands for none, under the three keys of a request. -/
structure StoresResponse (t : Turn) (state : KeyMap Value) (body : String) (status : Int)
    (contentType : String) : Prop where
  body : state.get? t.bodyKey = some (.text body)
  status : state.get? t.statusKey = some (.ofInt status)
  contentType : state.get? t.contentTypeKey = some (.text contentType)

theorem storesResponse_insertAll {t : Turn}
    (apart : [t.bodyKey, t.statusKey, t.contentTypeKey].Nodup) (state : KeyMap Value)
    (body : String) (status : Int) (contentType : String) :
    t.StoresResponse (state.insertAll (t.responseWrites body status contentType)) body status
      contentType := by
  have apart : ((t.responseWrites body status contentType).map (·.1)).Nodup := apart
  constructor <;> exact KeyMap.get?_insertAll_of_mem apart (by simp [responseWrites])

end Turn

namespace Engine

variable {σ ω : Type}

def AnswersTurn (e : Engine σ ω) (t : Turn) (world : σ) : Prop :=
  ∀ call ∈ t.plan.call?, (e.platform.respond call world).answer.isSome = true

/-- The policy lets the URL of a request through, and the platform answers with a response. -/
def Obtains (e : Engine σ ω) (t : Turn) (world : σ) (r : HttpResponse) : Prop :=
  ∃ u maxBytes timeout, Net.checkUrl (t.filledParam "url") = .ok u ∧
    t.plan.call? = some (.httpGet u.text maxBytes timeout) ∧
    (e.platform.respond (.httpGet u.text maxBytes timeout) world).answer = some (Except.ok r)

def Reaches (e : Engine σ ω) (t : Turn) (world : σ) (latency : UInt64) : Prop :=
  ∃ timeout, Net.checkHostPort (t.filledParam "host") t.pingPort = .ok () ∧
    t.plan.call? = some (.tcpPing (t.filledParam "host") t.pingPort.toNat timeout) ∧
    (e.platform.respond (.tcpPing (t.filledParam "host") t.pingPort.toNat timeout) world).answer =
      some (Except.ok latency)

def Captures (e : Engine σ ω) (world : σ) (x : Except CapabilityFault (List UInt8)) : Prop :=
  (e.platform.respond .captureImage world).answer = some x

variable {e : Engine σ ω} {t : Turn} {world : σ}

/-- The call of a node has one answer. -/
theorem Obtains.answer_eq {r : HttpResponse} {url : String} {maxBytes timeout : Nat}
    {a : Except CapabilityFault HttpResponse} (h : e.Obtains t world r)
    (asked : t.plan.call? = some (.httpGet url maxBytes timeout))
    (answered : (e.platform.respond (.httpGet url maxBytes timeout) world).answer = some a) :
    a = .ok r := by
  obtain ⟨u, maxBytes', timeout', -, asked', answered'⟩ := h
  rw [asked] at asked'
  injection asked' with same
  injection same with url bytes ms
  subst bytes ms
  rw [← url, answered] at answered'
  exact Option.some.inj answered'

theorem Reaches.answer_eq {latency : UInt64} {host : String} {port timeout : Nat}
    {a : Except CapabilityFault UInt64} (h : e.Reaches t world latency)
    (asked : t.plan.call? = some (.tcpPing host port timeout))
    (answered : (e.platform.respond (.tcpPing host port timeout) world).answer = some a) :
    a = .ok latency := by
  obtain ⟨timeout', -, asked', answered'⟩ := h
  rw [asked] at asked'
  injection asked' with same
  injection same with host port ms
  subst ms
  rw [← host, ← port, answered] at answered'
  exact Option.some.inj answered'

theorem Obtains.unique {r r' : HttpResponse} (h : e.Obtains t world r)
    (h' : e.Obtains t world r') : r' = r := by
  obtain ⟨u, maxBytes, timeout, -, asked, answered⟩ := h'
  exact Except.ok.inj (h.answer_eq asked answered)

theorem Reaches.unique {latency latency' : UInt64} (h : e.Reaches t world latency)
    (h' : e.Reaches t world latency') : latency' = latency := by
  obtain ⟨timeout, -, asked, answered⟩ := h'
  exact Except.ok.inj (h.answer_eq asked answered)

/-- A node that comes to an outcome of writes goes on to its next node and leaves the state with
them. -/
theorem visit_of_outcome {f : Flow} {n : Node} {c : Context} {s : Session σ ω} {notes : List Note}
    {writes : List (String × Value)}
    (h : (e.carryOut (e.turn f n s.state c).plan s).1 =
      .ok ((e.turn f n s.state c).outcome notes writes)) :
    (e.carryOut (e.turn f n s.state c).plan s).1.map (·.next) = .ok n.next ∧
      (e.visit f n c s).2.2.state = s.state.insertAll writes := by
  obtain ⟨⟨_, _⟩, rfl, -, result, -, -, state⟩ := e.exists_dispatch f n c s
  rw [h] at result
  rw [state, h]
  cases result
  exact ⟨rfl, rfl⟩

/-! ### Requests -/

/-- What a request leaves in a state: the response that it obtained, or what stands for none. -/
structure RequestLeaves (e : Engine σ ω) (t : Turn) (world : σ) (state : KeyMap Value) : Prop where
  response : ∀ r, e.Obtains t world r → t.StoresResponse state r.body r.status r.contentType
  silence : (∀ r, ¬ e.Obtains t world r) → t.StoresResponse state "" (-1) ""
  sentinel : state.get? t.statusKey = some (.ofInt (-1)) ↔ ∀ r, ¬ e.Obtains t world r
  status : ∀ r, e.Obtains t world r → r.status ≤ 2 ^ 53 →
    (state.get? t.statusKey).bind Value.asInteger? = some (r.status : Int)

theorem Obtains.leaves {r : HttpResponse} {state : KeyMap Value} (h : e.Obtains t world r)
    (stored : t.StoresResponse state r.body r.status r.contentType) :
    e.RequestLeaves t world state where
  response r' h' := h.unique h' ▸ stored
  silence none := absurd h (none r)
  sentinel := by
    rw [stored.status, Option.some.injEq, Value.ofInt_eq_ofInt_iff (by decide)]
    refine ⟨fun minus => ?_, fun none => absurd h (none r)⟩
    have := Int.natCast_nonneg r.status
    omega
  status r' h' short := by
    rw [h.unique h'] at short ⊢
    rw [stored.status, Option.bind_some, Value.asInteger?_ofInt (by simpa using short)]

theorem RequestLeaves.of_silence {state : KeyMap Value} (none : ∀ r, ¬ e.Obtains t world r)
    (stored : t.StoresResponse state "" (-1) "") : e.RequestLeaves t world state where
  response r h := absurd h (none r)
  silence _ := stored
  sentinel := iff_of_true stored.status none
  status r h := absurd h (none r)

/-- With sound settings a request that is not broken off ends with the writes of its response, or
without one. -/
theorem request_ends {s : Session σ ω} (sound : t.settings.fault? = none)
    (kind : NodeKind.ofName? t.node.type = some .curl) (served : e.AnswersTurn t s.world) :
    (∃ r notes, e.Obtains t s.world r ∧ (e.carryOut t.plan s).1 =
        .ok (t.outcome notes (t.responseWrites r.body r.status r.contentType))) ∨
      ((∀ r, ¬ e.Obtains t s.world r) ∧
        ∃ notes, (e.carryOut t.plan s).1 = .ok (t.outcome notes t.noResponse)) := by
  obtain ⟨timeouts, bytes⟩ := Settings.bounds_of_fault? sound
  have isCurl : t.plan = t.curl := by simp only [Turn.plan, kind]
  rcases t.curl_cases with ⟨crossed, -⟩ | ⟨v, refused, plan⟩ |
    ⟨u, timeout, maxBytes, passed, -, -, plan⟩
  · rcases crossed with crossed | crossed
    · exact absurd crossed (NetworkSettings.timeout?_ne_none timeouts _)
    · exact absurd crossed (NetworkSettings.maxBytes?_ne_none bytes _)
  · refine .inr ⟨?_, _, by rw [isCurl, plan]; rfl⟩
    rintro r ⟨u, -, -, passed, -⟩
    rw [refused] at passed
    cases passed
  · have asked : t.plan.call? = some (.httpGet u.text maxBytes timeout) := by
      rw [isCurl, plan]
      rfl
    obtain ⟨a, answered⟩ := Option.isSome_iff_exists.1 (served _ asked)
    have ended : (e.carryOut t.plan s).1 = .ok (t.responded a) := by
      rw [isCurl, plan]
      exact congrArg (·.1) (e.carryOut_of_answer answered)
    cases a with
    | ok r => exact .inl ⟨r, _, ⟨u, maxBytes, timeout, passed, asked, answered⟩, ended⟩
    | error fault =>
      refine .inr ⟨?_, _, ended⟩
      intro r obtained
      cases obtained.answer_eq asked answered

/-- A request goes on to its next node and leaves its response, or what stands for none. -/
theorem request_leaves {f : Flow} {n : Node} {c : Context} {s : Session σ ω}
    (sound : e.settings.fault? = none) (kind : NodeKind.ofName? n.type = some .curl)
    (served : e.AnswersTurn (e.turn f n s.state c) s.world)
    (apart : [(e.turn f n s.state c).bodyKey, (e.turn f n s.state c).statusKey,
      (e.turn f n s.state c).contentTypeKey].Nodup) :
    (e.carryOut (e.turn f n s.state c).plan s).1.map (·.next) = .ok n.next ∧
      e.RequestLeaves (e.turn f n s.state c) s.world (e.visit f n c s).2.2.state := by
  have stored := Turn.storesResponse_insertAll apart s.state
  rcases request_ends (t := e.turn f n s.state c) sound kind served with
    ⟨r, notes, obtained, ended⟩ | ⟨none, notes, ended⟩
  · obtain ⟨next, state⟩ := visit_of_outcome ended
    refine ⟨next, obtained.leaves ?_⟩
    rw [state]
    exact stored ..
  · obtain ⟨next, state⟩ := visit_of_outcome ended
    refine ⟨next, .of_silence none ?_⟩
    rw [state]
    exact stored ..

/-! ### Captures -/

/-- What a capture leaves in a state: the bytes as a text that can be read back, or the fault. -/
structure CaptureLeaves (e : Engine σ ω) (t : Turn) (world : σ) (state : KeyMap Value) : Prop where
  image : ∀ bytes, e.Captures world (.ok bytes) →
    state.get? t.imageKey = some (.text (Text.Base64.encode bytes)) ∧
      state.get? t.imageStatusKey = some (.text "ok")
  whole : ∀ bytes, e.Captures world (.ok bytes) →
    ∃ text, state.get? t.imageKey = some (.text text) ∧ Text.Base64.decode? text = some bytes ∧
      text.toList.length = (bytes.length + 2) / 3 * 4
  fault : ∀ f, e.Captures world (.error f) →
    state.get? t.imageKey = some (.text "") ∧
      state.get? t.imageStatusKey = some (.text ("error:" ++ f.message))
  sentinel : state.get? t.imageStatusKey = some (.text "ok") ↔ ∃ bytes, e.Captures world (.ok bytes)

theorem Captures.unique {x y : Except CapabilityFault (List UInt8)} (h : e.Captures world x)
    (h' : e.Captures world y) : y = x := by
  rw [Captures, h] at h'
  exact (Option.some.inj h').symm

theorem error_ne_ok (message : String) : "error:" ++ message ≠ "ok" := by
  intro same
  have longer := congrArg String.length same
  have short : "error:".length = 6 ∧ "ok".length = 2 := by decide
  rw [String.length_append] at longer
  omega

theorem Captures.leaves_image {bytes : List UInt8} {state : KeyMap Value}
    (h : e.Captures world (.ok bytes))
    (written : state.get? t.imageKey = some (.text (Text.Base64.encode bytes)) ∧
      state.get? t.imageStatusKey = some (.text "ok")) : e.CaptureLeaves t world state where
  image bytes' h' := by
    cases h.unique h'
    exact written
  whole bytes' h' := by
    cases h.unique h'
    exact ⟨_, written.1, Text.Base64.decode?_encode bytes, Text.Base64.length_encode bytes⟩
  fault f h' := by cases h.unique h'
  sentinel := iff_of_true written.2 ⟨bytes, h⟩

theorem Captures.leaves_fault {f : CapabilityFault} {state : KeyMap Value}
    (h : e.Captures world (.error f))
    (written : state.get? t.imageKey = some (.text "") ∧
      state.get? t.imageStatusKey = some (.text ("error:" ++ f.message))) :
    e.CaptureLeaves t world state where
  image bytes h' := by cases h.unique h'
  whole bytes h' := by cases h.unique h'
  fault f' h' := by
    cases h.unique h'
    exact written
  sentinel := by
    rw [written.2, Option.some.injEq, Value.text.injEq]
    refine iff_of_false (error_ne_ok _) ?_
    rintro ⟨bytes, h'⟩
    cases h.unique h'

theorem capture_ends {s : Session σ ω} (kind : NodeKind.ofName? t.node.type = some .captureImage)
    (served : e.AnswersTurn t s.world) :
    ∃ x, e.Captures s.world x ∧ (e.carryOut t.plan s).1 = .ok (t.captured x) := by
  have plan : t.plan = .ask .captureImage t.captured := by
    simp only [Turn.plan, kind]
    rfl
  obtain ⟨x, answered⟩ := Option.isSome_iff_exists.1 (served .captureImage (by rw [plan]; rfl))
  refine ⟨x, answered, ?_⟩
  rw [plan]
  exact congrArg (·.1) (e.carryOut_of_answer answered)

/-- A capture goes on to its next node and leaves its image, or the fault. -/
theorem capture_leaves {f : Flow} {n : Node} {c : Context} {s : Session σ ω}
    (kind : NodeKind.ofName? n.type = some .captureImage)
    (served : e.AnswersTurn (e.turn f n s.state c) s.world)
    (apart : (e.turn f n s.state c).imageKey ≠ (e.turn f n s.state c).imageStatusKey) :
    (e.carryOut (e.turn f n s.state c).plan s).1.map (·.next) = .ok n.next ∧
      e.CaptureLeaves (e.turn f n s.state c) s.world (e.visit f n c s).2.2.state := by
  obtain ⟨x, captured, ended⟩ := capture_ends (t := e.turn f n s.state c) kind served
  cases x with
  | ok bytes =>
    obtain ⟨next, state⟩ := visit_of_outcome ended
    rw [state]
    exact ⟨next, captured.leaves_image (KeyMap.get?_insertAll_pair apart _ _)⟩
  | error fault =>
    obtain ⟨next, state⟩ := visit_of_outcome ended
    rw [state]
    exact ⟨next, captured.leaves_fault (KeyMap.get?_insertAll_pair apart _ _)⟩

/-- Requests and captures absorb every failure: they go on to their next node, with sound settings
in the case of a request, and leave nothing of an earlier one under their keys. -/
theorem failures_absorbed (e : Engine σ ω) (f : Flow) (n : Node) (c : Context) (s : Session σ ω)
    (served : e.AnswersTurn (e.turn f n s.state c) s.world) :
    (e.settings.fault? = none → NodeKind.ofName? n.type = some .curl →
      [(e.turn f n s.state c).bodyKey, (e.turn f n s.state c).statusKey,
        (e.turn f n s.state c).contentTypeKey].Nodup →
      (e.carryOut (e.turn f n s.state c).plan s).1.map (·.next) = .ok n.next ∧
        e.RequestLeaves (e.turn f n s.state c) s.world (e.visit f n c s).2.2.state) ∧
    (NodeKind.ofName? n.type = some .captureImage →
      (e.turn f n s.state c).imageKey ≠ (e.turn f n s.state c).imageStatusKey →
      (e.carryOut (e.turn f n s.state c).plan s).1.map (·.next) = .ok n.next ∧
        e.CaptureLeaves (e.turn f n s.state c) s.world (e.visit f n c s).2.2.state) :=
  ⟨fun sound kind apart => request_leaves sound kind served apart,
    fun kind apart => capture_leaves kind served apart⟩

end Engine

namespace Flow

def fetch : Node :=
  { id := "fetch", type := "Curl", params := .ofList [("url", .text "https://example.com/")] }

def look : Node := { id := "look", type := "CaptureImage" }

def knock : Node :=
  { id := "knock", type := "Ping", params := .ofList [("host", .text "example.com")] }

def probing : Flow := { id := "probing", triggers := [], nodes := [fetch, look, knock] }

end Flow

namespace Engine

/-- A request that got a response, and a capture without a camera. -/
theorem probing_absorbed :
    (answered.visit Flow.probing Flow.fetch {} .fresh).2.2.state.get? "lastCurlBody" =
        some (.text "secret") ∧
      (answered.visit Flow.probing Flow.look {} .fresh).2.2.state.get? "lastImageStatus" =
        some (.text "error:capability unavailable: camera") := by
  have served (n : Node) : answered.AnswersTurn (answered.turn Flow.probing n .empty {}) () :=
    fun _ _ => rfl
  obtain ⟨-, request⟩ :=
    (failures_absorbed answered Flow.probing Flow.fetch {} .fresh (served _)).1 rfl (by decide)
      (by decide +kernel)
  obtain ⟨-, capture⟩ :=
    (failures_absorbed answered Flow.probing Flow.look {} .fresh (served _)).2 (by decide)
      (by decide +kernel)
  constructor
  · exact (request.response ⟨"secret", 200, "text/plain"⟩ ⟨_, _, _, rfl, rfl, rfl⟩).body
  · exact (capture.fault (.unavailable "camera") rfl).2

end Engine

/-! ### Pings -/

namespace Engine

variable {σ ω : Type} {e : Engine σ ω} {t : Turn} {world : σ}

/-- What a ping leaves in a state: that it came through and the latency as a signed word, or that it
did not. -/
structure PingLeaves (e : Engine σ ω) (t : Turn) (world : σ) (state : KeyMap Value) : Prop where
  reached : ∀ latency, e.Reaches t world latency →
    state.get? t.okKey = some (.bool true) ∧
      state.get? t.latencyKey = some (.ofInt latency.toInt64.toInt)
  lost : (∀ latency, ¬ e.Reaches t world latency) →
    state.get? t.okKey = some (.bool false) ∧ state.get? t.latencyKey = some (.ofInt (-1))
  ok : state.get? t.okKey = some (.bool true) ↔ ∃ latency, e.Reaches t world latency
  /-- The longest latency is stored as no latency is. -/
  sentinel : state.get? t.latencyKey = some (.ofInt (-1)) ↔
    (∀ latency, ¬ e.Reaches t world latency) ∨ e.Reaches t world (UInt64.ofNat (2 ^ 64 - 1))
  negative : ∀ latency, e.Reaches t world latency →
    ∃ x, state.get? t.latencyKey = some (.number x) ∧
      (x.less .zero = true ↔ 2 ^ 63 ≤ latency.toNat)
  faithful : ∀ latency, e.Reaches t world latency → latency.toNat ≤ 2 ^ 53 →
    (state.get? t.latencyKey).bind Value.asInteger? = some (latency.toNat : Int)

theorem Reaches.leaves {latency : UInt64} {state : KeyMap Value} (h : e.Reaches t world latency)
    (written : state.get? t.okKey = some (.bool true) ∧
      state.get? t.latencyKey = some (.ofInt latency.toInt64.toInt)) :
    e.PingLeaves t world state where
  reached latency' h' := h.unique h' ▸ written
  lost none := absurd h (none latency)
  ok := iff_of_true written.1 ⟨latency, h⟩
  sentinel := by
    rw [written.2, Option.some.injEq, Value.ofInt_eq_ofInt_iff (by decide),
      toInt_toInt64_eq_neg_one]
    constructor
    · rintro rfl
      exact .inr h
    · rintro (none | longest)
      · exact absurd h (none latency)
      · exact (h.unique longest).symm
  negative latency' h' := by
    refine ⟨_, written.2, ?_⟩
    have low := latency.toNat_lt
    rw [h.unique h', Number.less_zero_ofInt, decide_eq_true_iff, toInt_toInt64]
    split <;> omega
  faithful latency' h' short := by
    rw [h.unique h'] at short ⊢
    have same : latency.toInt64.toInt = latency.toNat := by
      rw [toInt_toInt64, if_pos (by omega)]
    rw [written.2, same, Option.bind_some, Value.asInteger?_ofInt (by simpa using short)]

theorem PingLeaves.of_loss {state : KeyMap Value} (none : ∀ latency, ¬ e.Reaches t world latency)
    (written : state.get? t.okKey = some (.bool false) ∧
      state.get? t.latencyKey = some (.ofInt (-1))) : e.PingLeaves t world state where
  reached latency h := absurd h (none latency)
  lost _ := written
  ok := by
    rw [written.1, Option.some.injEq, Value.bool.injEq]
    exact iff_of_false Bool.false_ne_true fun ⟨latency, h⟩ => none latency h
  sentinel := iff_of_true written.2 (.inl none)
  negative latency h := absurd h (none latency)
  faithful latency h := absurd h (none latency)

/-- With sound settings a ping that is not broken off ends with the writes of its latency, or
without one. -/
theorem ping_ends {s : Session σ ω} (sound : t.settings.fault? = none)
    (kind : NodeKind.ofName? t.node.type = some .ping) (served : e.AnswersTurn t s.world) :
    (∃ latency notes, e.Reaches t s.world latency ∧ (e.carryOut t.plan s).1 =
        .ok (t.outcome notes (t.pingWrites true latency.toInt64.toInt))) ∨
      ((∀ latency, ¬ e.Reaches t s.world latency) ∧
        ∃ notes, (e.carryOut t.plan s).1 = .ok (t.outcome notes (t.pingWrites false (-1)))) := by
  have isPing : t.plan = t.ping := by simp only [Turn.plan, kind]
  rcases t.ping_cases with ⟨crossed, -⟩ | ⟨v, refused, plan⟩ | ⟨timeout, passed, -, plan⟩
  · exact absurd crossed
      (NetworkSettings.timeout?_ne_none (Settings.bounds_of_fault? sound).1 _)
  · refine .inr ⟨?_, _, by rw [isPing, plan]; rfl⟩
    rintro latency ⟨-, passed, -⟩
    rw [refused] at passed
    cases passed
  · have asked : t.plan.call? =
        some (.tcpPing (t.filledParam "host") t.pingPort.toNat timeout) := by
      rw [isPing, plan]
      rfl
    obtain ⟨a, answered⟩ := Option.isSome_iff_exists.1 (served _ asked)
    have ended : (e.carryOut t.plan s).1 = .ok (t.pinged a) := by
      rw [isPing, plan]
      exact congrArg (·.1) (e.carryOut_of_answer answered)
    cases a with
    | ok latency => exact .inl ⟨latency, _, ⟨timeout, passed, asked, answered⟩, ended⟩
    | error fault =>
      refine .inr ⟨?_, _, ended⟩
      intro latency reached
      cases reached.answer_eq asked answered

/-- A ping goes on to its next node and leaves its latency, or that there is none. -/
theorem ping_leaves {f : Flow} {n : Node} {c : Context} {s : Session σ ω}
    (sound : e.settings.fault? = none) (kind : NodeKind.ofName? n.type = some .ping)
    (served : e.AnswersTurn (e.turn f n s.state c) s.world)
    (apart : (e.turn f n s.state c).okKey ≠ (e.turn f n s.state c).latencyKey) :
    (e.carryOut (e.turn f n s.state c).plan s).1.map (·.next) = .ok n.next ∧
      e.PingLeaves (e.turn f n s.state c) s.world (e.visit f n c s).2.2.state := by
  rcases ping_ends (t := e.turn f n s.state c) sound kind served with
    ⟨latency, notes, reached, ended⟩ | ⟨none, notes, ended⟩
  · obtain ⟨next, state⟩ := visit_of_outcome ended
    rw [state]
    exact ⟨next, reached.leaves (KeyMap.get?_insertAll_pair apart _ _)⟩
  · obtain ⟨next, state⟩ := visit_of_outcome ended
    rw [state]
    exact ⟨next, .of_loss none (KeyMap.get?_insertAll_pair apart _ _)⟩

end Engine

def Platform.reaching (latency : UInt64) : Platform Unit where
  respond c s :=
    ⟨some (match c with
      | .tcpPing .. => .ok latency
      | c => Platform.refusal c), s, []⟩
  clock s := (0, s)

namespace Engine

def reaching (latency : UInt64) : Engine Unit Unit :=
  { plain with platform := .reaching latency }

/-- A ping of twelve milliseconds. -/
theorem knock_leaves_latency :
    ((reaching 12).visit Flow.probing Flow.knock {} .fresh).2.2.state.get? "lastPingLatencyMs" =
      some (.ofInt 12) := by
  obtain ⟨-, ping⟩ := ping_leaves (e := reaching 12) (f := Flow.probing) (n := Flow.knock)
    (c := {}) (s := .fresh) rfl (by decide) (fun _ _ => rfl) (by decide +kernel)
  have signed : (12 : UInt64).toInt64.toInt = 12 := by decide
  rw [← signed]
  exact (ping.reached 12 ⟨2000, by decide +kernel, by decide +kernel, rfl⟩).2

/-- The longest ping comes through and leaves the latency of one that does not. -/
theorem longest_knock_seems_lost :
    (reaching (UInt64.ofNat (2 ^ 64 - 1))).settings.fault? = none ∧
      ((reaching (UInt64.ofNat (2 ^ 64 - 1))).visit Flow.probing Flow.knock {}
        .fresh).2.2.state.get? "lastPingOk" = some (.bool true) ∧
      ((reaching (UInt64.ofNat (2 ^ 64 - 1))).visit Flow.probing Flow.knock {}
        .fresh).2.2.state.get? "lastPingLatencyMs" = some (.ofInt (-1)) := by
  decide +kernel

end Engine
end PluginFlow
