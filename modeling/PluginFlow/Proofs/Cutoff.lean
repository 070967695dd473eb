import PluginFlow.Net.Sandbox

/-!
Bodies of responses. A body is read piece by piece until there are enough bytes or trouble comes.
What is kept are the first bytes that were delivered, however they were cut into pieces.
-/

namespace PluginFlow.Net

def delivered : List (Except Trouble (List UInt8)) → List UInt8
  | [] => []
  | .error _ :: _ => []
  | .ok piece :: rest => piece ++ delivered rest

def trouble? : List (Except Trouble (List UInt8)) → Option Trouble
  | [] => none
  | .error t :: _ => some t
  | .ok _ :: rest => trouble? rest

/-- Reading on behind some bytes, with one rule for each way to end and one to go on. A piece is
taken only with the room that these bytes leave below the limit. -/
inductive Reads (limit : Nat) :
    List UInt8 → List (Except Trouble (List UInt8)) → Except Trouble (List UInt8) → Prop
  | ended {body : List UInt8} : Reads limit body [] (.ok body)
  | broken {body : List UInt8} {t : Trouble} {rest : List (Except Trouble (List UInt8))} :
      Reads limit body (.error t :: rest) (.error t)
  | filled {body piece : List UInt8} {rest : List (Except Trouble (List UInt8))} {room : Nat}
      (left : body.length + room = limit) (full : room ≤ piece.length) :
      Reads limit body (.ok piece :: rest) (.ok (body ++ piece.take room))
  | onward {body piece : List UInt8} {rest : List (Except Trouble (List UInt8))} {room : Nat}
      {o : Except Trouble (List UInt8)} (left : body.length + room = limit)
      (short : piece.length < room) (later : Reads limit (body ++ piece) rest o) :
      Reads limit body (.ok piece :: rest) o

variable {limit room : Nat} {body : List UInt8} {pieces : List (Except Trouble (List UInt8))}
  {o : Except Trouble (List UInt8)} {t : Trouble}

theorem collect_cons_of_full {piece : List UInt8} {rest : List (Except Trouble (List UInt8))}
    (full : room ≤ piece.length) : collect room (.ok piece :: rest) = .ok (piece.take room) := by
  rw [collect, if_pos full]

theorem collect_cons_of_short {piece : List UInt8} {rest : List (Except Trouble (List UInt8))}
    (short : piece.length < room) :
    collect room (.ok piece :: rest) = (collect (room - piece.length) rest).map (piece ++ ·) := by
  rw [collect, if_neg (Nat.not_le.2 short)]
  cases collect (room - piece.length) rest <;> rfl

/-- Reading on behind some bytes comes to what is collected in the room that they leave. -/
theorem Reads.eq_collect (h : Reads limit body pieces o) (left : body.length + room = limit) :
    o = (collect room pieces).map (body ++ ·) := by
  induction h generalizing room with
  | ended => exact congrArg Except.ok (List.append_nil _).symm
  | broken => rfl
  | filled left' full =>
    obtain rfl : room = _ := Nat.add_left_cancel (left.trans left'.symm)
    rw [collect_cons_of_full full]
    rfl
  | @onward body piece _ room' _ left' short _ ih =>
    obtain rfl : room = room' := Nat.add_left_cancel (left.trans left'.symm)
    have left : (body ++ piece).length + (room - piece.length) = limit := by
      rw [List.length_append]
      omega
    rw [ih left, collect_cons_of_short short]
    cases collect (room - piece.length) _ with
    | error t => rfl
    | ok later => exact congrArg Except.ok (List.append_assoc _ _ _)

/-- Behind bytes within the limit reading always comes to an end. -/
theorem exists_reads (limit : Nat) (body : List UInt8)
    (pieces : List (Except Trouble (List UInt8))) (within : body.length ≤ limit) :
    ∃ o, Reads limit body pieces o := by
  induction pieces generalizing body with
  | nil => exact ⟨_, .ended⟩
  | cons first rest ih =>
    cases first with
    | error t => exact ⟨_, .broken⟩
    | ok piece =>
      have left : body.length + (limit - body.length) = limit := Nat.add_sub_cancel' within
      rcases Nat.lt_or_ge piece.length (limit - body.length) with short | full
      · obtain ⟨o, later⟩ := ih (body ++ piece) (by rw [List.length_append]; omega)
        exact ⟨o, .onward left short later⟩
      · exact ⟨_, .filled left full⟩

/-- There is one way to read a body, and it is what `collect` does: the room below the limit never
runs out on the way. -/
theorem reads_iff : Reads limit [] pieces o ↔ o = collect limit pieces := by
  have same (o : Except Trouble (List UInt8)) : o.map (([] : List UInt8) ++ ·) = o := by
    cases o <;> rfl
  constructor
  · intro h
    rw [h.eq_collect (Nat.zero_add limit), same]
  · rintro rfl
    obtain ⟨o, h⟩ := exists_reads limit [] pieces (Nat.zero_le limit)
    have collected := h.eq_collect (Nat.zero_add limit)
    rw [same] at collected
    exact collected ▸ h

/-- Trouble counts when it comes before the limit. -/
theorem collect_of_trouble (met : trouble? pieces = some t)
    (early : (delivered pieces).length < room) : collect room pieces = .error t := by
  induction pieces generalizing room with
  | nil => cases met
  | cons first rest ih =>
    cases first with
    | error _ =>
      cases met
      rfl
    | ok piece =>
      rw [delivered, List.length_append] at early
      rw [collect_cons_of_short (by omega), ih met (by omega)]
      rfl

/-- What is collected are the first bytes, when there are enough before trouble comes. -/
theorem collect_of_enough (positive : 0 < room)
    (enough : trouble? pieces = none ∨ room ≤ (delivered pieces).length) :
    collect room pieces = .ok ((delivered pieces).take room) := by
  induction pieces generalizing room with
  | nil => rw [collect, delivered, List.take_nil]
  | cons first rest ih =>
    cases first with
    | error _ =>
      rcases enough with none | enough
      · cases none
      · exact absurd enough (Nat.not_le.2 positive)
    | ok piece =>
      rw [delivered, List.length_append] at enough
      rw [delivered]
      rcases Nat.lt_or_ge piece.length room with short | full
      · have later : trouble? rest = none ∨ room - piece.length ≤ (delivered rest).length := by
          exact enough.imp_right fun _ => by omega
        rw [collect_cons_of_short short, ih (by omega) later, List.take_append,
          List.take_of_length_le (Nat.le_of_lt short)]
        rfl
      · rw [collect_cons_of_full full, List.take_append_of_le_length full]

/-- Which bytes come, and what trouble they end in, is all that matters of the pieces. -/
theorem collect_eq_of_delivered {pieces' : List (Except Trouble (List UInt8))}
    (same : delivered pieces' = delivered pieces) (ending : trouble? pieces' = trouble? pieces)
    (positive : 0 < room) : collect room pieces' = collect room pieces := by
  cases met : trouble? pieces with
  | none =>
    rw [collect_of_enough positive (.inl (ending.trans met)), same,
      collect_of_enough positive (.inl met)]
  | some t =>
    rcases Nat.lt_or_ge (delivered pieces).length room with early | enough
    · rw [collect_of_trouble (ending.trans met) (same ▸ early), collect_of_trouble met early]
    · rw [collect_of_enough positive (.inr (same ▸ enough)), same,
        collect_of_enough positive (.inr enough)]

theorem eq_take_of_collect (h : collect room pieces = .ok body) :
    body = (delivered pieces).take room := by
  induction pieces generalizing room body with
  | nil =>
    cases h
    exact List.take_nil.symm
  | cons first rest ih =>
    cases first with
    | error _ => cases h
    | ok piece =>
      rw [delivered]
      rcases Nat.lt_or_ge piece.length room with short | full
      · rw [collect_cons_of_short short] at h
        cases later : collect (room - piece.length) rest with
        | error _ => simp [later, Except.map] at h
        | ok bytes =>
          rw [later] at h
          cases h
          rw [ih later, List.take_append, List.take_of_length_le (Nat.le_of_lt short)]
      · rw [collect_cons_of_full full] at h
        cases h
        exact (List.take_append_of_le_length full).symm

def Arrival.answer (a : Arrival) (timeoutMs : Nat) :
    Except Trouble (List UInt8) → Except CapabilityFault HttpResponse
  | .ok body => .ok ⟨Text.Utf8.repair body, a.status, contentTypeText a.contentType⟩
  | .error t => .error (t.fault timeoutMs)

namespace Sandbox

variable {σ : Type} {s : Sandbox σ} {url : String} {timeoutMs : Nat} {w : σ} {a : Arrival}

/-- A request is answered: its host resolves to addresses that may be contacted, and one of these
sends a response. -/
inductive Receives (s : Sandbox σ) (url : String) (timeoutMs : Nat) (w : σ) : Arrival → Prop
  | response {u : Url} {host : String} {addresses : List Address} {remarks : List Log} {w₁ w₂ : σ}
      {a : Arrival} (read : Url.parse url = .ok u) (named : u.hostText? = some host)
      (resolved : s.resolve host (u.port?.getD 443) timeoutMs w = (.ok addresses, w₁, remarks))
      (sent : s.transport.request u addresses w₁ = (.ok a, w₂)) : Receives s url timeoutMs w a

theorem httpGet_of_receives (h : s.Receives url timeoutMs w a) (limit : Nat) :
    (s.httpGet url limit timeoutMs w).1 = a.answer timeoutMs (collect limit a.pieces) := by
  obtain ⟨read, named, resolved, sent⟩ := h
  simp only [httpGet, read, named, resolved, sent, Arrival.response]
  cases collect limit _ <;> rfl

theorem receives_of_httpGet {limit : Nat} {r : HttpResponse}
    (answered : (s.httpGet url limit timeoutMs w).1 = .ok r) :
    ∃ a, s.Receives url timeoutMs w a := by
  unfold httpGet at answered
  split at answered
  case h_1 => cases answered
  case h_2 u read =>
    split at answered
    case h_1 => cases answered
    case h_2 host named =>
      split at answered
      case h_1 => cases answered
      case h_2 resolved =>
        split at answered
        case h_1 => cases answered
        case h_2 a _ sent => exact ⟨a, .response read named resolved sent⟩

/-- An answered request gives the first bytes of its body. The reading has one course, in which the
bytes that were kept and the room that is left always add up to the limit. Trouble counts before the
limit and not behind it, and it makes no difference how the bytes were cut into pieces. Only without
any room does the first piece count although nothing of it is kept. -/
theorem httpGet_cuts_body (received : s.Receives url timeoutMs w a) (limit : Nat) :
    (∃ o, (∀ o', Reads limit [] a.pieces o' ↔ o' = o) ∧
      (s.httpGet url limit timeoutMs w).1 = a.answer timeoutMs o) ∧
    (0 < limit →
      (trouble? a.pieces = none ∨ limit ≤ (delivered a.pieces).length →
        (s.httpGet url limit timeoutMs w).1 =
          a.answer timeoutMs (.ok ((delivered a.pieces).take limit))) ∧
      (∀ t, trouble? a.pieces = some t → (delivered a.pieces).length < limit →
        (s.httpGet url limit timeoutMs w).1 = .error (t.fault timeoutMs)) ∧
      (∀ (s' : Sandbox σ) (w' : σ) (pieces : List (Except Trouble (List UInt8))),
        s'.Receives url timeoutMs w' { a with pieces } →
        delivered pieces = delivered a.pieces → trouble? pieces = trouble? a.pieces →
        (s'.httpGet url limit timeoutMs w').1 = (s.httpGet url limit timeoutMs w).1)) ∧
    (limit = 0 →
      (∀ t rest, a.pieces = .error t :: rest →
        (s.httpGet url limit timeoutMs w).1 = .error (t.fault timeoutMs)) ∧
      ((∀ t rest, a.pieces ≠ .error t :: rest) →
        (s.httpGet url limit timeoutMs w).1 = a.answer timeoutMs (.ok []))) := by
  rw [httpGet_of_receives received]
  refine ⟨⟨_, fun _ => reads_iff, rfl⟩, fun positive => ⟨?_, ?_, ?_⟩, ?_⟩
  · intro enough
    rw [collect_of_enough positive enough]
  · intro t met early
    rw [collect_of_trouble met early]
    rfl
  · intro s' w' pieces received' same ending
    rw [httpGet_of_receives received', collect_eq_of_delivered same ending positive]
    rfl
  · rintro rfl
    constructor
    · intro t rest first
      rw [first]
      rfl
    · intro calm
      rcases a with ⟨status, contentType, _ | ⟨_ | piece, rest⟩⟩
      · rfl
      · exact absurd rfl (calm _ _)
      · have nothing : collect 0 (.ok piece :: rest) = .ok [] :=
          collect_cons_of_full (Nat.zero_le _)
        rw [nothing]

def answering (a : Arrival) : Sandbox Unit where
  transport :=
    { lookup _ _ w := (.ok [.v4 ⟨93, 184, 216, 34⟩], w)
      request _ _ w := (.ok a, w)
      connect _ _ w := (.error (.failed "not connected"), w)
      clock w := (0, w) }

theorem answering_receives (a : Arrival) :
    (answering a).Receives "https://example.com/" 2000 () a := by
  have read : Url.parse "https://example.com/" =
      .ok { scheme := "https", hasAuthority := true, host := some (.domain "example.com"),
            path := "/" } := rfl
  exact .response read rfl rfl rfl

def greeting : Arrival where
  status := 200
  contentType := none
  pieces := [.ok [104, 101], .ok [], .ok [108, 108, 111], .error .timedOut]

/-- Four of the five bytes are kept, and the trouble behind them is not met. With room for six it
is. -/
theorem greeting_cut :
    (answering greeting).Receives "https://example.com/" 2000 () greeting ∧
    ((answering greeting).httpGet "https://example.com/" 4 2000 ()).1 = .ok ⟨"hell", 200, ""⟩ ∧
    ((answering greeting).httpGet "https://example.com/" 6 2000 ()).1 =
      .error (.timeout 2000) := by
  refine ⟨answering_receives greeting, ?_, ?_⟩
  · obtain ⟨-, cut, -⟩ := httpGet_cuts_body (answering_receives greeting) 4
    exact (cut (by decide)).1 (.inr (by decide))
  · obtain ⟨-, cut, -⟩ := httpGet_cuts_body (answering_receives greeting) 6
    exact (cut (by decide)).2.1 .timedOut rfl (by decide)

end Sandbox

/-- Without any room the limit is reached from the start, yet trouble in place of the first piece
counts. -/
theorem first_trouble_counts_without_room :
    ¬ ∀ (limit : Nat) (pieces : List (Except Trouble (List UInt8))),
      limit ≤ (delivered pieces).length →
        collect limit pieces = .ok ((delivered pieces).take limit) := by
  intro all
  cases all 0 [.error .timedOut] (Nat.zero_le _)

end PluginFlow.Net
