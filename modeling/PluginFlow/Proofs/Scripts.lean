import PluginFlow.Proofs.Session

/-!
The order of the steps of a node. Every handler takes the steps that can fail before the first one
that changes the state or the rows, and a script of this order leaves both alone when it fails.
-/

namespace PluginFlow

namespace Script

variable {α β : Type}

def Certain : Script α → Prop
  | done _ => True
  | fail _ => False
  | note _ rest => rest.Certain
  | update _ _ rest => rest.Certain
  | rows _ rest => rest.Certain
  | ask _ _ => False

/-- Every step that can fail comes before the first change of the state or the rows. -/
def ChecksFirst : Script α → Prop
  | done _ => True
  | fail _ => True
  | note _ rest => rest.ChecksFirst
  | update _ _ rest => rest.Certain
  | rows _ rest => rest.Certain
  | ask _ rest => ∀ answer, (rest answer).ChecksFirst

namespace ChecksFirst

theorem require {x : Except NodeFault α} {k : α → Script β} (h : ∀ a, (k a).ChecksFirst) :
    (.require x >>= k : Script β).ChecksFirst := by
  cases x with
  | ok a => exact h a
  | error fault => trivial

theorem unwrap {x : Option α} {k : α → Script β} (h : ∀ a, (k a).ChecksFirst) :
    (.unwrap x >>= k : Script β).ChecksFirst := by
  cases x with
  | none => trivial
  | some a => exact h a

theorem call {c : Call} {k : c.Answer → Script β} (h : ∀ answer, (k answer).ChecksFirst) :
    (.call c >>= k : Script β).ChecksFirst := h

end ChecksFirst
end Script

namespace Handler

variable (t : Turn)

theorem curl_checksFirst : (curl t).ChecksFirst := by
  refine .unwrap fun timeout => .unwrap fun maxBytes => ?_
  cases Net.checkUrl (t.filledParam "url") with
  | error v => trivial
  | ok checked =>
    refine .call fun answer => ?_
    cases answer <;> trivial

theorem ping_checksFirst : (ping t).ChecksFirst := by
  refine .unwrap fun timeout => ?_
  cases Net.checkHostPort (t.filledParam "host") t.pingPort with
  | error v => trivial
  | ok _ =>
    refine .call fun answer => ?_
    cases answer <;> trivial

theorem captureImage_checksFirst : (captureImage t).ChecksFirst := by
  refine .call fun answer => ?_
  cases answer <;> trivial

end Handler

/-- A node of any type looks at its params and makes its call before it changes anything. -/
theorem Turn.handle_checksFirst (t : Turn) : t.handle.ChecksFirst := by
  rcases kind : NodeKind.ofName? t.node.type with _ | k
  · simp only [handle, kind]
    trivial
  · cases k <;> simp only [handle, kind]
    -- What comes after the checks and the call are notes and changes, which cannot fail.
    case ifElse => trivial
    case setField => exact .require fun field => trivial
    case filter => trivial
    case setState => exact .require fun key => trivial
    case increment => exact .require fun key => trivial
    case showToast => exact .require fun message => .call fun _ => trivial
    case showDialog => exact .require fun message => .call fun _ => trivial
    case navigate => exact .require fun screen => .call fun _ => trivial
    case showImage => exact .require fun source => .call fun _ => trivial
    case emitMessage => trivial
    case persistState => exact .call fun _ => trivial
    case curl => exact Handler.curl_checksFirst t
    case ping => exact Handler.ping_checksFirst t
    case captureImage => exact Handler.captureImage_checksFirst t

namespace Engine

variable {σ ω : Type} {e : Engine σ ω} {α : Type}

theorem perform_ne_error {m : Script α} (certain : m.Certain) (c : Context) (s : Session σ ω)
    (fault : NodeFault) : (e.perform m c s).1 ≠ .error fault := by
  induction m generalizing c s with
  | done a =>
    intro failed
    cases failed
  | fail f => exact certain.elim
  | note n rest ih => exact ih certain c _
  | update key change rest ih => exact ih certain c _
  | rows change rest ih => exact ih certain _ s
  | ask call rest => exact certain.elim

/-- A script that checks first leaves the rows and the state alone when it fails. -/
theorem perform_of_error {m : Script α} (order : m.ChecksFirst) {c : Context} {s : Session σ ω}
    {fault : NodeFault} (failed : (e.perform m c s).1 = .error fault) :
    (e.perform m c s).2.1 = c ∧ (e.perform m c s).2.2.state = s.state := by
  induction m generalizing s with
  | done a => exact ⟨rfl, rfl⟩
  | fail f => exact ⟨rfl, rfl⟩
  | note n rest ih =>
    obtain ⟨rows, state⟩ := ih order failed
    exact ⟨rows, state.trans (state_note e s n)⟩
  -- From a change on nothing can fail.
  | update key change rest => exact absurd failed (perform_ne_error order _ _ fault)
  | rows change rest => exact absurd failed (perform_ne_error order _ _ fault)
  | ask call rest ih =>
    rw [perform] at failed ⊢
    rcases asked : e.ask call s with ⟨_ | answer, s'⟩
    · exact ⟨rfl, by rw [← e.state_ask call s, asked]⟩
    · rw [asked] at failed
      obtain ⟨rows, state⟩ := ih answer (order answer) failed
      exact ⟨rows, state.trans (by rw [← e.state_ask call s, asked])⟩

end Engine
end PluginFlow
