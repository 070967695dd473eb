import PluginFlow.Flow.Definition

/-!
Settings of an engine: the step budget, the length of the history, tracing, redaction, admission
windows and the bounds of network requests.
-/

namespace PluginFlow

structure WindowLimit where
  limit : Nat
  windowSecs : Nat
  deriving DecidableEq, Repr

structure AdmissionSettings where
  timer : WindowLimit := ⟨6, 60⟩
  message : WindowLimit := ⟨20, 10⟩
  ui : WindowLimit := ⟨30, 10⟩
  deriving DecidableEq, Repr

namespace AdmissionSettings

instance : Inhabited AdmissionSettings := ⟨{}⟩

def limitFor (s : AdmissionSettings) : TriggerType → WindowLimit
  | .onTimer => s.timer
  | .onMessage => s.message
  | _ => s.ui

end AdmissionSettings

structure RedactionSettings where
  maxValueLen : Nat := 256
  deriving DecidableEq, Repr

structure NetworkSettings where
  defaultTimeoutMs : Nat := 5000
  minTimeoutMs : Nat := 250
  maxTimeoutMs : Nat := 30000
  defaultMaxBytes : Nat := 65536
  maxBytesCeiling : Nat := 1048576
  /-- Whether the addresses of a host are checked before connecting. -/
  resolveBeforeConnect : Bool := true
  deriving DecidableEq, Repr

namespace NetworkSettings

instance : Inhabited NetworkSettings := ⟨{}⟩

/-- Holds a number within bounds; there is no answer when the bounds cross. -/
def clamp? (low high n : Nat) : Option Nat :=
  if low ≤ high then some (max low (min high n)) else none

/-- The timeout for a requested one, negative requests counting as zero. -/
def timeout? (s : NetworkSettings) (requested : Option Int) : Option Nat :=
  clamp? s.minTimeoutMs s.maxTimeoutMs ((requested.map Int.toNat).getD s.defaultTimeoutMs)

/-- The response size for a requested one, at least one byte. -/
def maxBytes? (s : NetworkSettings) (requested : Option Int) : Option Nat :=
  clamp? 1 s.maxBytesCeiling
    ((requested.map fun n => max n.toNat 1).getD s.defaultMaxBytes)

theorem clamp?_isSome_iff {low high n : Nat} : (clamp? low high n).isSome ↔ low ≤ high := by
  unfold clamp?
  split <;> simp [*]

theorem clamp?_bounds {low high n m : Nat} (h : clamp? low high n = some m) :
    low ≤ m ∧ m ≤ high := by
  unfold clamp? at h
  split at h
  · cases h
    omega
  · cases h

end NetworkSettings

structure Settings where
  maxStepsPerRun : Nat := 128
  historyCapacity : Nat := 50
  traceNodes : Bool := true
  redaction : RedactionSettings := {}
  rateLimits : AdmissionSettings := {}
  network : NetworkSettings := {}
  deriving DecidableEq, Repr

inductive SettingsFault
  | noSteps
  | noHistory
  | timeoutBounds
  | noBytes
  | noWindow (name : String)
  deriving DecidableEq, Repr

def SettingsFault.message : SettingsFault → String
  | noSteps => "maxStepsPerRun must be at least 1"
  | noHistory => "historyCapacity must be at least 1"
  | timeoutBounds => "network timeouts must satisfy 0 < minTimeoutMs <= maxTimeoutMs"
  | noBytes => "maxBytesCeiling must be at least 1"
  | noWindow name => "rateLimits." ++ name ++ ".windowSecs must be at least 1"

namespace Settings

instance : Inhabited Settings := ⟨{}⟩

def fault? (s : Settings) : Option SettingsFault :=
  if s.maxStepsPerRun = 0 then some .noSteps
  else if s.historyCapacity = 0 then some .noHistory
  else if s.network.minTimeoutMs = 0 ∨ s.network.maxTimeoutMs < s.network.minTimeoutMs then
    some .timeoutBounds
  else if s.network.maxBytesCeiling = 0 then some .noBytes
  else if s.rateLimits.timer.windowSecs = 0 then some (.noWindow "timer")
  else if s.rateLimits.message.windowSecs = 0 then some (.noWindow "message")
  else if s.rateLimits.ui.windowSecs = 0 then some (.noWindow "ui")
  else none

end Settings
end PluginFlow
