import PluginFlow.Proofs.Session

/-!
The steps of a node come to its plan. From the state and the rows that a turn has found, doing the
steps of its handler one after the other is the same as carrying out its plan and taking over what
it leaves, so plans tell what every node does.
-/

namespace PluginFlow.Engine

variable {σ ω : Type}

def follow (e : Engine σ ω) (p : Plan) (c : Context) (s : Session σ ω) :
    Except NodeFault (Option String) × Context × Session σ ω :=
  match e.carryOut p s with
  | (.ok o, s) => (.ok o.next, { c with items := o.items }, e.settle o s)
  | (.error fault, s) => (.error fault, c, s)

/-- From what a turn has found, the steps of a script do what a plan says. -/
def ComesTo (e : Engine σ ω) (t : Turn) (m : Script (Option String)) (p : Plan) : Prop :=
  ∀ s : Session σ ω, s.state = t.state → e.perform m t.context s = e.follow p t.context s

variable {e : Engine σ ω} {t : Turn}

theorem comesTo_require {α : Type} {x : Except NodeFault α} {k : α → Script (Option String)}
    {k' : α → Plan} (h : ∀ a, e.ComesTo t (k a) (k' a)) :
    e.ComesTo t (.require x >>= k) (.require x k') := by
  cases x with
  | ok a => exact h a
  | error fault => exact fun _ _ => rfl

/-- A call leaves the state alone, so what comes after it finds the same. -/
theorem comesTo_call {call : Call} {k : call.Answer → Script (Option String)}
    {resume : call.Answer → Outcome} (h : ∀ a, e.ComesTo t (k a) (.done (resume a))) :
    e.ComesTo t (.call call >>= k) (.ask call resume) := by
  have step : (.call call >>= k : Script (Option String)) = .ask call k := rfl
  intro s found
  rw [step, perform, follow, carryOut]
  rcases asked : e.ask call s with ⟨_ | a, s'⟩
  · rfl
  · have kept : s'.state = s.state := by
      rw [← e.state_ask call s, asked]
    exact h a s' (kept.trans found)

theorem comesTo_ifElse : e.ComesTo t (Handler.ifElse t) t.ifElse := fun _ _ => rfl

theorem comesTo_setField : e.ComesTo t (Handler.setField t) t.setField :=
  comesTo_require fun _ _ _ => rfl

theorem comesTo_filter : e.ComesTo t (Handler.filter t) t.filter := fun _ _ => rfl

theorem comesTo_setState : e.ComesTo t (Handler.setState t) t.setState :=
  comesTo_require fun _ _ _ => rfl

/-- The value that is added to is the one that the turn has found. -/
theorem comesTo_increment : e.ComesTo t (Handler.increment t) t.increment := by
  apply comesTo_require
  intro key s found
  rw [← found]
  rfl

theorem comesTo_showToast : e.ComesTo t (Handler.showToast t) t.showToast :=
  comesTo_require fun _ => comesTo_call fun _ _ _ => rfl

theorem comesTo_showDialog : e.ComesTo t (Handler.showDialog t) t.showDialog :=
  comesTo_require fun _ => comesTo_call fun _ _ _ => rfl

theorem comesTo_navigate : e.ComesTo t (Handler.navigate t) t.navigate :=
  comesTo_require fun _ => comesTo_call fun _ _ _ => rfl

theorem comesTo_showImage : e.ComesTo t (Handler.showImage t) t.showImage :=
  comesTo_require fun _ => comesTo_call fun _ _ _ => rfl

theorem comesTo_emitMessage : e.ComesTo t (Handler.emitMessage t) t.emitMessage := fun _ _ => rfl

theorem comesTo_persistState : e.ComesTo t (Handler.persistState t) t.persistState :=
  comesTo_call fun _ _ _ => rfl

theorem comesTo_curl : e.ComesTo t (Handler.curl t) t.curl := by
  unfold Handler.curl Turn.curl
  simp only
  cases t.settings.network.timeout? (t.integerParam? "timeoutMs") with
  | none => exact fun _ _ => rfl
  | some timeout =>
    cases t.settings.network.maxBytes? (t.integerParam? "maxBytes") with
    | none => exact fun _ _ => rfl
    | some maxBytes =>
      cases Net.checkUrl (t.filledParam "url") with
      | error v => exact fun _ _ => rfl
      | ok checked =>
        apply comesTo_call
        intro answer
        cases answer <;> exact fun _ _ => rfl

theorem comesTo_ping : e.ComesTo t (Handler.ping t) t.ping := by
  unfold Handler.ping Turn.ping
  simp only
  cases t.settings.network.timeout? (some ((t.integerParam? "timeoutMs").getD 2000)) with
  | none => exact fun _ _ => rfl
  | some timeout =>
    cases Net.checkHostPort (t.filledParam "host") t.pingPort with
    | error v => exact fun _ _ => rfl
    | ok _ =>
      apply comesTo_call
      intro answer
      cases answer <;> exact fun _ _ => rfl

theorem comesTo_captureImage : e.ComesTo t (Handler.captureImage t) t.captureImage := by
  apply comesTo_call
  intro answer
  cases answer <;> exact fun _ _ => rfl

theorem comesTo_passOver : e.ComesTo t (Handler.passOver t) t.passOver := fun _ _ => rfl

/-- What a node does is what its plan says. -/
theorem comesTo_plan (e : Engine σ ω) (t : Turn) : e.ComesTo t t.handle t.plan := by
  rcases kind : NodeKind.ofName? t.node.type with _ | k
  · simp only [Turn.handle, Turn.plan, kind]
    exact comesTo_passOver
  · cases k <;> simp only [Turn.handle, Turn.plan, kind]
    case ifElse => exact comesTo_ifElse
    case setField => exact comesTo_setField
    case filter => exact comesTo_filter
    case setState => exact comesTo_setState
    case increment => exact comesTo_increment
    case showToast => exact comesTo_showToast
    case showDialog => exact comesTo_showDialog
    case navigate => exact comesTo_navigate
    case showImage => exact comesTo_showImage
    case emitMessage => exact comesTo_emitMessage
    case persistState => exact comesTo_persistState
    case curl => exact comesTo_curl
    case ping => exact comesTo_ping
    case captureImage => exact comesTo_captureImage

/-- A visit carries out the plan of the node, takes over what it leaves and traces it. -/
theorem visit_eq (e : Engine σ ω) (f : Flow) (n : Node) (c : Context) (s : Session σ ω) :
    e.visit f n c s =
      match e.carryOut (e.turn f n s.state c).plan s with
      | (.ok o, s') =>
        (.ok (o.next.bind nonBlank), { c with items := o.items },
          e.trace (e.turn f n s.state c) { c with items := o.items } (e.settle o s'))
      | (.error fault, s') => (.error fault, c, e.trace (e.turn f n s.state c) c s') := by
  have done : e.perform (e.turn f n s.state c).handle c s =
      e.follow (e.turn f n s.state c).plan c s :=
    e.comesTo_plan (e.turn f n s.state c) s rfl
  simp only [visit, done, follow]
  rcases e.carryOut (e.turn f n s.state c).plan s with ⟨fault | o, s'⟩ <;> rfl

end PluginFlow.Engine
