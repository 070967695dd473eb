import PluginFlow.Net.Sandbox
import PluginFlow.Proofs.Mediation

/-!
The host that is checked before a ping, and the host that is contacted. Blanks around a host are
taken off for the check only, so a host with blanks is contacted under another text than was checked.
-/

namespace PluginFlow

/-- A text that is changed by trimming begins or ends with a blank. -/
theorem Text.blank_end_of_trim_ne {s : String} (h : trim s ≠ s) :
    ∃ c, isBlank c = true ∧ (s.toList.head? = some c ∨ s.toList.getLast? = some c) := by
  refine Classical.byContradiction fun visible => h (trim_of_ends ?_ ?_)
  · intro c hc
    exact Bool.eq_false_iff.2 fun blank => visible ⟨c, blank, .inl hc⟩
  · intro c hc
    exact Bool.eq_false_iff.2 fun blank => visible ⟨c, blank, .inr hc⟩

namespace Net

theorem dropWhile_concat {α : Type} {p : α → Bool} {x : α} (h : p x = false) (xs : List α) :
    (xs ++ [x]).dropWhile p = xs.dropWhile p ++ [x] := by
  rw [List.dropWhile_append]
  split
  case isTrue gone =>
    rw [List.isEmpty_iff.1 gone, List.dropWhile_cons_of_neg (by simp [h])]
    rfl
  case isFalse => rfl

def unbracketed (cs : List Char) : List Char :=
  ((cs.dropWhile (· == '[')).reverse.dropWhile (· == ']')).reverse

theorem bareHost_eq (s : String) : bareHost s = unbracketed (Text.trim s).toList := rfl

theorem toList_withoutBrackets (s : String) :
    (withoutBrackets s).toList = unbracketed s.toList := by
  rw [withoutBrackets, String.toList_ofList]
  rfl

theorem head?_unbracketed {cs : List Char} {c : Char} (h : cs.head? = some c)
    (front : (c == '[') = false) (back : (c == ']') = false) :
    (unbracketed cs).head? = some c := by
  obtain ⟨rest, rfl⟩ := List.head?_eq_some_iff.1 h
  rw [unbracketed, List.dropWhile_cons_of_neg (by simp [front]), List.reverse_cons,
    dropWhile_concat (p := (· == ']')) back, List.reverse_append]
  rfl

theorem getLast?_unbracketed {cs : List Char} {c : Char} (h : cs.getLast? = some c)
    (front : (c == '[') = false) (back : (c == ']') = false) :
    (unbracketed cs).getLast? = some c := by
  obtain ⟨rest, rfl⟩ := List.getLast?_eq_some_iff.1 h
  rw [unbracketed, dropWhile_concat (p := (· == '[')) front, List.reverse_append, List.reverse_singleton,
    List.singleton_append, List.dropWhile_cons_of_neg (by simp [back]), List.reverse_cons,
    List.reverse_reverse, List.getLast?_concat]

/-- The blank stays when the brackets are taken off. -/
theorem blank_end_of_unbracketed {cs : List Char} {c : Char} (blank : Text.isBlank c = true)
    (h : cs.head? = some c ∨ cs.getLast? = some c) :
    (unbracketed cs).head? = some c ∨ (unbracketed cs).getLast? = some c := by
  have front : (c == '[') = false := by
    apply beq_false_of_ne
    rintro rfl
    cases blank
  have back : (c == ']') = false := by
    apply beq_false_of_ne
    rintro rfl
    cases blank
  exact h.imp (fun h => head?_unbracketed h front back) fun h => getLast?_unbracketed h front back

theorem checkHost_eq_ok {s : String} (h : checkHost s = .ok ()) :
    ∃ host, readHost (bareHost s) = .ok host ∧ host.check = .ok () := by
  unfold checkHost at h
  simp only at h
  split at h
  · cases h
  split at h
  · cases h
  case h_2 host read => exact ⟨host, read, h⟩

/-- What is known of a host that passed the check, and of the text under which it is contacted:
brackets are taken off that text, and nothing else. -/
structure Vouched (text : String) (host : Host) : Prop where
  read : readHost (bareHost text) = .ok host
  passed : host.check = .ok ()
  trimmed : readHost (withoutBrackets (Text.trim text)).toList = .ok host
  same : Text.trim text = text → readHost (withoutBrackets text).toList = .ok host
  blank : Text.trim text ≠ text → ∃ c, Text.isBlank c = true ∧
    ((withoutBrackets text).toList.head? = some c ∨
      (withoutBrackets text).toList.getLast? = some c)

theorem exists_vouched {text : String} (h : checkHost text = .ok ()) :
    ∃ host, Vouched text host := by
  obtain ⟨host, read, passed⟩ := checkHost_eq_ok h
  have trimmed : readHost (withoutBrackets (Text.trim text)).toList = .ok host := by
    rw [toList_withoutBrackets, ← bareHost_eq, read]
  refine ⟨host, read, passed, trimmed, fun same => ?_, fun changed => ?_⟩
  · rw [same] at trimmed
    exact trimmed
  · obtain ⟨c, blank, h⟩ := Text.blank_end_of_trim_ne changed
    rw [toList_withoutBrackets]
    exact ⟨c, blank, blank_end_of_unbracketed blank h⟩

end Net

namespace Engine

variable {σ ω : Type}

/-- Every ping of a run is made to a host that passed the check. It is contacted as the host that
was checked unless its text has a blank end; then the blank is still there. -/
theorem execute_pings_vouched (e : Engine σ ω) (f : Flow) (trigger : Trigger) (c : Context)
    (s : Session σ ω) :
    ∃ made, (e.execute f trigger c s).2.journal.calls = s.journal.calls ++ made ∧
      ∀ text port timeoutMs, Call.tcpPing text port timeoutMs ∈ made →
        ∃ host, Net.Vouched text host := by
  obtain ⟨turns, w, h⟩ := exists_runs e f trigger c s
  refine ⟨turns.filterMap (·.plan.call?) ++ w.report.toList, ?_, ?_⟩
  · rw [h.calls_eq, List.append_assoc]
  · intro text port timeoutMs called
    rcases List.mem_append.1 called with of_turn | of_report
    · obtain ⟨t, -, call⟩ := List.mem_filterMap.1 of_turn
      exact Net.exists_vouched (Turn.ping_of_call? call).1
    · unfold Walked.report at of_report
      split at of_report <;> simp at of_report

end Engine

namespace Flow

def onKnocking : Trigger := { type := .onClick, startNodeId := "knock" }

def knockingAt (host : String) : Flow :=
  { id := "knocking", triggers := [onKnocking],
    nodes := [{ id := "knock", type := "Ping", params := .ofList [("host", .text host)] }] }

end Flow

namespace Engine

/-- Brackets are taken off before the check and before the connection. -/
theorem bracketed_host_vouched :
    ∃ made, (plain.execute (.knockingAt "[example.com]") Flow.onKnocking {} .fresh).2.journal.calls =
        Session.fresh.journal.calls ++ made ∧
      Call.tcpPing "[example.com]" 443 2000 ∈ made ∧
      ∃ host, Net.Vouched "[example.com]" host := by
  obtain ⟨made, calls, vouched⟩ :=
    execute_pings_vouched plain (.knockingAt "[example.com]") Flow.onKnocking {} .fresh
  have called : Call.tcpPing "[example.com]" 443 2000 ∈ made := by
    have knocked : (plain.execute (.knockingAt "[example.com]") Flow.onKnocking {}
        .fresh).2.journal.calls = [.tcpPing "[example.com]" 443 2000] := by
      decide +kernel
    have made_eq : made = [.tcpPing "[example.com]" 443 2000] := calls.symm.trans knocked
    rw [made_eq]
    exact List.mem_singleton_self _
  exact ⟨made, calls, called, vouched _ _ _ called⟩

/-- A ping is made to a text with a blank, which names no host; the host that was checked is the one
without the blank. -/
theorem blank_host_pinged :
    (plain.execute (.knockingAt " example.com") Flow.onKnocking {} .fresh).2.journal.calls =
      [.tcpPing " example.com" 443 2000] ∧
    Net.checkHost " example.com" = .ok () ∧
    Net.readHost (Net.bareHost " example.com") = .ok (.domain "example.com") ∧
    Net.readHost (Net.withoutBrackets " example.com").toList = .error .invalidName := by
  refine ⟨by decide +kernel, rfl, rfl, rfl⟩

end Engine
end PluginFlow
