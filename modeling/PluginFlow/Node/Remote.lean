import PluginFlow.Net.Policy
import PluginFlow.Node.Turn
import PluginFlow.Text.Base64

/-!
Nodes that reach beyond the plugin: requests, pings, the camera and storage. Network and camera
never fail a node; their failures are written to the state.
-/

namespace PluginFlow

namespace Turn

def bodyKey (t : Turn) : String := t.textParam "bodyKey" "lastCurlBody"

def statusKey (t : Turn) : String := t.textParam "statusKey" "lastCurlStatus"

def contentTypeKey (t : Turn) : String := t.textParam "contentTypeKey" "lastCurlContentType"

def okKey (t : Turn) : String := t.textParam "okKey" "lastPingOk"

def latencyKey (t : Turn) : String := t.textParam "latencyKey" "lastPingLatencyMs"

/-- The port of a ping: the one for secure pages unless a param stands for an integer. -/
def pingPort (t : Turn) : Int := (t.integerParam? "port").getD 443

def imageKey (t : Turn) : String := t.textParam "imageKey" "lastImageBase64"

def imageStatusKey (t : Turn) : String := t.textParam "statusKey" "lastImageStatus"

end Turn

namespace Handler

def persistState (t : Turn) : Script (Option String) := do
  let _ ← .call (.persist t.state)
  .say (t.used "persist" "ok")
  return t.node.next

def tellRefusal (t : Turn) (message destination : String) (v : Net.Violation) : Script Unit := do
  .say (t.log .warn message "reason" v.name)
  .say (.event (.policyBlocked t.flowId t.node.id (t.redactor.truncate destination) v.name))

def tellFailure (t : Turn) (message capability : String) (f : CapabilityFault) : Script Unit := do
  .say (t.log .warn message "error" f.message)
  .say (t.used capability f.message)

def setResponse (t : Turn) (body : String) (status : Int) (contentType : String) :
    Script Unit := do
  .set t.bodyKey (.text body)
  .set t.statusKey (.ofInt status)
  .set t.contentTypeKey (.text contentType)

def afterRequest (t : Turn) : Except CapabilityFault HttpResponse → Script Unit
  | .ok r => do
    .say (t.used "http_get" (Number.intText r.status))
    setResponse t r.body r.status r.contentType
  | .error f => do
    tellFailure t "Curl failed" "http_get" f
    setResponse t "" (-1) ""

def curl (t : Turn) : Script (Option String) := do
  let url := t.filledParam "url"
  let net := t.settings.network
  let timeout ← .unwrap (net.timeout? (t.integerParam? "timeoutMs"))
  let maxBytes ← .unwrap (net.maxBytes? (t.integerParam? "maxBytes"))
  match Net.checkUrl url with
  | .error v =>
    tellRefusal t "Curl destination blocked" url v
    setResponse t "" (-1) ""
    return t.node.next
  | .ok checked =>
    afterRequest t (← .call (.httpGet checked.text maxBytes timeout))
    return t.node.next

def setPinged (t : Turn) (ok : Bool) (latency : Int) : Script Unit := do
  .set t.okKey (.bool ok)
  .set t.latencyKey (.ofInt latency)

/-- The end of a ping that was made. A latency is stored as a signed word. -/
def afterPing (t : Turn) : Except CapabilityFault UInt64 → Script Unit
  | .ok latency => do
    .say (t.used "tcp_ping" "ok")
    setPinged t true latency.toInt64.toInt
  | .error f => do
    tellFailure t "Ping failed" "tcp_ping" f
    setPinged t false (-1)

def ping (t : Turn) : Script (Option String) := do
  let host := t.filledParam "host"
  let port := t.pingPort
  let timeout ← .unwrap
    (t.settings.network.timeout? (some ((t.integerParam? "timeoutMs").getD 2000)))
  match Net.checkHostPort host port with
  | .error v =>
    tellRefusal t "Ping destination blocked" (host ++ ":" ++ Number.intText port) v
    setPinged t false (-1)
    return t.node.next
  | .ok _ =>
    afterPing t (← .call (.tcpPing host port.toNat timeout))
    return t.node.next

def afterCapture (t : Turn) : Except CapabilityFault (List UInt8) → Script Unit
  | .ok bytes => do
    .say (t.used "capture_image" "ok")
    .set t.imageKey (.text (Text.Base64.encode bytes))
    .set t.imageStatusKey (.text "ok")
  | .error f => do
    tellFailure t "Image capture failed" "capture_image" f
    .set t.imageKey (.text "")
    .set t.imageStatusKey (.text ("error:" ++ f.message))

def captureImage (t : Turn) : Script (Option String) := do
  afterCapture t (← .call .captureImage)
  return t.node.next

end Handler
end PluginFlow
