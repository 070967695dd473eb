import PluginFlow.Engine

/-!
What a node amounts to: it fails at once, or it leaves an outcome, maybe after a single call whose
answer decides everything that follows. What a node can reach is known from its plan before
anything is done; that its steps come to the same is shown in `Proofs/Refinement`.
-/

namespace PluginFlow

/-- What a node leaves behind when it succeeds; the writes are made in order. -/
structure Outcome where
  notes : List Note := []
  writes : List (String × Value) := []
  items : List Item
  next : Option String
  deriving DecidableEq

inductive Plan
  | fail (f : NodeFault)
  | done (o : Outcome)
  | ask (c : Call) (resume : c.Answer → Outcome)

namespace Plan

def call? : Plan → Option Call
  | ask c _ => some c
  | _ => none

def require {α : Type} (x : Except NodeFault α) (k : α → Plan) : Plan :=
  match x with
  | .ok a => k a
  | .error f => fail f

end Plan

namespace Turn

/-- The end of a turn that leaves the rows as they are and goes on to the next node. -/
def outcome (t : Turn) (notes : List Note) (writes : List (String × Value)) : Outcome :=
  { notes := notes, writes := writes, items := t.context.items, next := t.node.next }

def write (t : Turn) (writes : List (String × Value)) : Outcome := t.outcome [] writes

def ifElse (t : Turn) : Plan :=
  .done { items := t.context.items,
          next := if t.holds t.firstItem? then t.node.nextTrue else t.node.nextFalse }

def setField (t : Turn) : Plan :=
  .require (t.required "field") fun field =>
    let rows := if t.context.items.isEmpty then [.empty] else t.context.items
    .done { items := t.setRows field.toText rows, next := t.node.next }

def filter (t : Turn) : Plan :=
  .done { items := t.keptRows t.context.items, next := t.node.next }

def setState (t : Turn) : Plan :=
  .require (t.required "key") fun key =>
    .done (t.write [(key.toText, t.resolve (t.param "value"))])

def increment (t : Turn) : Plan :=
  .require (t.required "key") fun key =>
    let current := ((t.state.get? key.toText).bind Value.asNumber?).getD .zero
    .done (t.write [(key.toText, .number (current.add t.increase))])

def showToast (t : Turn) : Plan :=
  .require (t.required "message") fun message =>
    .ask (.toast (t.fill message.toText) t.duration) fun _ => t.write []

def showDialog (t : Turn) : Plan :=
  .require (t.required "message") fun message =>
    .ask (.dialog (t.fill (t.textParam "title" "")) (t.fill message.toText) t.duration) fun _ =>
      t.write []

def goTo (t : Turn) (screen : String) (extras : KeyMap Value) : Plan :=
  .ask (.navigate screen extras) fun _ => t.write [(currentScreenKey, .text screen)]

def navigate (t : Turn) : Plan :=
  .require (t.required "screenId") fun screen => t.goTo (t.fill screen.toText) .empty

def showImage (t : Turn) : Plan :=
  .require (t.required "source") fun source =>
    t.goTo (t.fill (t.textParam "screenId" "image_viewer"))
      (KeyMap.empty.insert "source" (t.resolve source))

def emitMessage (t : Turn) : Plan :=
  .done <| t.outcome
    [t.log .debug "EmitMessage has no messaging transport, skipping" "message_type"
      (t.textParam "messageType" "")] []

def persistState (t : Turn) : Plan :=
  .ask (.persist t.state) fun _ => t.outcome [t.used "persist" "ok"] []

def refusal (t : Turn) (message destination : String) (v : Net.Violation) : List Note :=
  [t.log .warn message "reason" v.name,
    .event (.policyBlocked t.flowId t.node.id (t.redactor.truncate destination) v.name)]

def failure (t : Turn) (message capability : String) (f : CapabilityFault) : List Note :=
  [t.log .warn message "error" f.message, t.used capability f.message]

def responseWrites (t : Turn) (body : String) (status : Int) (contentType : String) :
    List (String × Value) :=
  [(t.bodyKey, .text body), (t.statusKey, .ofInt status), (t.contentTypeKey, .text contentType)]

def noResponse (t : Turn) : List (String × Value) := t.responseWrites "" (-1) ""

def responded (t : Turn) : Except CapabilityFault HttpResponse → Outcome
  | .ok r =>
    t.outcome [t.used "http_get" (Number.intText r.status)]
      (t.responseWrites r.body r.status r.contentType)
  | .error f => t.outcome (t.failure "Curl failed" "http_get" f) t.noResponse

def curl (t : Turn) : Plan :=
  let url := t.filledParam "url"
  let net := t.settings.network
  match net.timeout? (t.integerParam? "timeoutMs"), net.maxBytes? (t.integerParam? "maxBytes") with
  | some timeout, some maxBytes =>
    match Net.checkUrl url with
    | .error v => .done (t.outcome (t.refusal "Curl destination blocked" url v) t.noResponse)
    | .ok checked => .ask (.httpGet checked.text maxBytes timeout) t.responded
  | _, _ => .fail .broken

def pingWrites (t : Turn) (ok : Bool) (latency : Int) : List (String × Value) :=
  [(t.okKey, .bool ok), (t.latencyKey, .ofInt latency)]

def pinged (t : Turn) : Except CapabilityFault UInt64 → Outcome
  | .ok latency =>
    t.outcome [t.used "tcp_ping" "ok"] (t.pingWrites true latency.toInt64.toInt)
  | .error f => t.outcome (t.failure "Ping failed" "tcp_ping" f) (t.pingWrites false (-1))

def ping (t : Turn) : Plan :=
  let host := t.filledParam "host"
  match t.settings.network.timeout? (some ((t.integerParam? "timeoutMs").getD 2000)) with
  | none => .fail .broken
  | some timeout =>
    match Net.checkHostPort host t.pingPort with
    | .error v =>
      .done <| t.outcome
        (t.refusal "Ping destination blocked" (host ++ ":" ++ Number.intText t.pingPort) v)
        (t.pingWrites false (-1))
    | .ok _ => .ask (.tcpPing host t.pingPort.toNat timeout) t.pinged

def captured (t : Turn) : Except CapabilityFault (List UInt8) → Outcome
  | .ok bytes =>
    t.outcome [t.used "capture_image" "ok"]
      [(t.imageKey, .text (Text.Base64.encode bytes)), (t.imageStatusKey, .text "ok")]
  | .error f =>
    t.outcome (t.failure "Image capture failed" "capture_image" f)
      [(t.imageKey, .text ""), (t.imageStatusKey, .text ("error:" ++ f.message))]

def captureImage (t : Turn) : Plan := .ask .captureImage t.captured

def passOver (t : Turn) : Plan :=
  .done (t.outcome [t.log .warn "Unknown node type, continuing" "node_type" t.node.type] [])

def plan (t : Turn) : Plan :=
  match NodeKind.ofName? t.node.type with
  | some .ifElse => t.ifElse
  | some .setField => t.setField
  | some .filter => t.filter
  | some .setState => t.setState
  | some .increment => t.increment
  | some .showToast => t.showToast
  | some .showDialog => t.showDialog
  | some .navigate => t.navigate
  | some .showImage => t.showImage
  | some .emitMessage => t.emitMessage
  | some .persistState => t.persistState
  | some .curl => t.curl
  | some .ping => t.ping
  | some .captureImage => t.captureImage
  | none => t.passOver

end Turn

namespace Engine

variable {σ ω : Type}

def carryOut (e : Engine σ ω) (p : Plan) (s : Session σ ω) :
    Except NodeFault Outcome × Session σ ω :=
  match p with
  | .fail f => (.error f, s)
  | .done o => (.ok o, s)
  | .ask c resume =>
    match e.ask c s with
    | (some answer, s) => (.ok (resume answer), s)
    | (none, s) => (.error .broken, s)

def settle (e : Engine σ ω) (o : Outcome) (s : Session σ ω) : Session σ ω :=
  let s := o.notes.foldl e.note s
  { s with state := s.state.insertAll o.writes }

end Engine
end PluginFlow
