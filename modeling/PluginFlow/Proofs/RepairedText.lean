import Mathlib.Data.String.Basic
import PluginFlow.Proofs.Cutoff
import PluginFlow.Proofs.Utf8

/-!
How long repaired texts get. A character is no longer than the bytes that it was read from, but an
invalid part may be a single byte, and three bytes stand in its place. The body of a response is cut
before it is repaired, so it may be longer than the bytes that were asked for.
-/

namespace PluginFlow.Text.Utf8

theorem utf8Size_eq (c : Char) :
    c.utf8Size =
      if c.toNat < 0x80 then 1 else if c.toNat < 0x800 then 2
      else if c.toNat < 0x10000 then 3 else 4 := by
  simp only [Char.utf8Size, UInt32.le_iff_toNat_le, Char.toNat, ← Nat.lt_succ_iff]
  rfl

theorem toNat_ofNat_le (n : Nat) : (Char.ofNat n).toNat ≤ n := by
  rw [Char.ofNat]
  by_cases valid : n.isValidChar
  · rw [dif_pos valid]
    exact Nat.le_refl n
  · rw [dif_neg valid]
    exact Nat.zero_le n

theorem utf8Size_ofNat_le_one {n : Nat} (h : n < 0x80) : (Char.ofNat n).utf8Size ≤ 1 := by
  have bound := (toNat_ofNat_le n).trans_lt h
  rw [utf8Size_eq, if_pos bound]

theorem utf8Size_ofNat_le_two {n : Nat} (h : n < 0x800) : (Char.ofNat n).utf8Size ≤ 2 := by
  have bound := (toNat_ofNat_le n).trans_lt h
  rw [utf8Size_eq, if_pos bound]
  split <;> omega

theorem utf8Size_ofNat_le_three {n : Nat} (h : n < 0x10000) : (Char.ofNat n).utf8Size ≤ 3 := by
  have bound := (toNat_ofNat_le n).trans_lt h
  rw [utf8Size_eq, if_pos bound]
  split_ifs <;> omega

/-- The number of bytes that a piece was read from; of an invalid part at least one. -/
def width : Option Char → Nat
  | some c => c.utf8Size
  | none => 1

def widths : List (Option Char) → Nat
  | [] => 0
  | piece :: found => width piece + widths found

@[simp] theorem widths_nil : widths [] = 0 := rfl

@[simp] theorem widths_cons (piece : Option Char) (found : List (Option Char)) :
    widths (piece :: found) = width piece + widths found :=
  rfl

@[simp] theorem widths_append (found later : List (Option Char)) :
    widths (found ++ later) = widths found + widths later := by
  induction found with
  | nil => exact (Nat.zero_add _).symm
  | cons piece found ih => rw [List.cons_append, widths_cons, ih, widths_cons, Nat.add_assoc]

/-- Some bytes of a character were read. Whatever the owed ones will be, it gets no longer than all
of its bytes. -/
structure Pending.Begun (p : Pending) (read : Nat) : Prop where
  some_read : 1 ≤ read
  some_owed : 1 ≤ p.owed
  fits : ∀ n < (p.value + 1) * 64 ^ p.owed, (Char.ofNat n).utf8Size ≤ read + p.owed

inductive Unfinished : Option Pending → Nat → Prop
  | nothing : Unfinished none 0
  | begun {p : Pending} {read : Nat} (h : p.Begun read) : Unfinished (some p) read

theorem begun_two {low high k : Nat} (h : k < 32) : Pending.Begun ⟨1, low, high, k⟩ 1 := by
  refine ⟨Nat.le_refl 1, Nat.le_refl 1, fun n bound => utf8Size_ofNat_le_two ?_⟩
  have bound : n < (k + 1) * 64 := bound
  omega

theorem begun_three {low high k : Nat} (h : k < 16) : Pending.Begun ⟨2, low, high, k⟩ 1 := by
  refine ⟨Nat.le_refl 1, Nat.le_succ 1, fun n bound => utf8Size_ofNat_le_three ?_⟩
  have bound : n < (k + 1) * 4096 := bound
  omega

theorem begun_four {low high k : Nat} : Pending.Begun ⟨3, low, high, k⟩ 1 :=
  ⟨Nat.le_refl 1, Nat.le_add_left 1 2, fun n _ => Char.utf8Size_le_four (Char.ofNat n)⟩

/-- A byte between two characters. -/
theorem widths_first (b : UInt8) :
    ∃ read, Unfinished (first b).pending read ∧ widths (first b).found + read ≤ 1 := by
  unfold first
  simp only
  split_ifs with ascii
  · exact ⟨0, .nothing, by simpa [width] using utf8Size_ofNat_le_one ascii⟩
  · exact ⟨1, .begun (begun_two (Nat.mod_lt _ (by decide))), by simp⟩
  · exact ⟨1, .begun (begun_three (by decide)), by simp⟩
  · exact ⟨1, .begun (begun_three (Nat.mod_lt _ (by decide))), by simp⟩
  · exact ⟨1, .begun (begun_three (Nat.mod_lt _ (by decide))), by simp⟩
  · exact ⟨1, .begun begun_four, by simp⟩
  · exact ⟨1, .begun begun_four, by simp⟩
  · exact ⟨1, .begun begun_four, by simp⟩
  · exact ⟨0, .nothing, Nat.le_refl 1⟩

/-- A byte that continues a character. -/
theorem Pending.Begun.next {p : Pending} {read : Nat} (h : p.Begun read) (more : 1 < p.owed)
    (low high : Nat) (b : UInt8) :
    Pending.Begun ⟨p.owed - 1, low, high, p.value * 64 + b.toNat % 64⟩ (read + 1) := by
  refine ⟨Nat.le_add_left 1 read, Nat.le_sub_one_of_lt more, fun n bound => ?_⟩
  have digit : b.toNat % 64 < 64 := Nat.mod_lt _ (by decide)
  have part : p.value * 64 + b.toNat % 64 + 1 ≤ (p.value + 1) * 64 := by omega
  have whole : n < (p.value + 1) * 64 ^ p.owed := by
    calc n < (p.value * 64 + b.toNat % 64 + 1) * 64 ^ (p.owed - 1) := bound
      _ ≤ (p.value + 1) * 64 * 64 ^ (p.owed - 1) := Nat.mul_le_mul_right _ part
      _ = (p.value + 1) * 64 ^ p.owed := by
        rw [Nat.mul_assoc, ← Nat.pow_succ', Nat.succ_eq_add_one, Nat.sub_add_cancel h.some_owed]
  have size := h.fits n whole
  change _ ≤ read + 1 + (p.owed - 1)
  omega

theorem widths_step {p : Option Pending} {read : Nat} (h : Unfinished p read) (b : UInt8) :
    ∃ read', Unfinished (step p b).pending read' ∧ widths (step p b).found + read' ≤ read + 1 := by
  cases h with
  | nothing => exact widths_first b
  | @begun p _ h =>
    unfold step
    simp only
    split_ifs with _ last
    · refine ⟨0, .nothing, ?_⟩
      have owed : p.owed = 1 := Nat.le_antisymm last h.some_owed
      have size := h.fits (p.value * 64 + b.toNat % 64) (by rw [owed]; omega)
      simpa [width, owed] using size
    · exact ⟨read + 1, .begun (h.next (Nat.not_le.1 last) _ _ b), by simp⟩
    · obtain ⟨read', later, size⟩ := widths_first b
      have some_read := h.some_read
      refine ⟨read', later, ?_⟩
      rw [widths_cons, width]
      omega

theorem widths_decodeFrom {p : Option Pending} {read : Nat} (h : Unfinished p read)
    (bytes : List UInt8) : widths (decodeFrom p bytes) ≤ read + bytes.length := by
  -- The bytes of an unfinished piece are counted when its end is found.
  induction bytes generalizing p read with
  | nil =>
    cases h with
    | nothing => exact Nat.le_refl 0
    | begun h => exact h.some_read
  | cons b rest ih =>
    obtain ⟨read', later, size⟩ := widths_step h b
    have rest_size := ih later
    rw [decodeFrom_cons, widths_append, List.length_cons]
    omega

/-- All pieces together are no longer than the bytes. -/
theorem widths_pieces (bytes : List UInt8) : widths (pieces bytes) ≤ bytes.length :=
  (widths_decodeFrom .nothing bytes).trans_eq (Nat.zero_add _)

theorem utf8Len_repaired (found : List (Option Char)) :
    String.utf8Len (found.map (·.getD '\uFFFD')) = widths found + 2 * found.count none := by
  induction found with
  | nil => rfl
  | cons piece found ih =>
    rw [List.map_cons, String.utf8Len, ih, widths_cons]
    cases piece with
    | some c =>
      rw [List.count_cons_of_ne (by simp), Option.getD_some, width]
      omega
    | none =>
      have mark : ('\uFFFD').utf8Size = 3 := rfl
      rw [List.count_cons_self, Option.getD_none, width, mark]
      omega

theorem count_none_le_widths (found : List (Option Char)) : found.count none ≤ widths found := by
  induction found with
  | nil => exact Nat.le_refl 0
  | cons piece found ih =>
    cases piece with
    | some c =>
      rw [List.count_cons_of_ne (by simp), widths_cons]
      exact Nat.le_add_left_of_le ih
    | none =>
      rw [List.count_cons_self, widths_cons, width]
      omega

/-- A repaired text has two bytes more for each invalid part, at most. -/
theorem repair_size_le (bytes : List UInt8) :
    (repair bytes).utf8ByteSize ≤ bytes.length + 2 * (pieces bytes).count none := by
  rw [repair, String.utf8ByteSize_ofList, utf8Len_repaired]
  exact Nat.add_le_add_right (widths_pieces bytes) _

theorem count_none_le_length (bytes : List UInt8) : (pieces bytes).count none ≤ bytes.length :=
  (count_none_le_widths _).trans (widths_pieces bytes)

theorem valid?_eq_some {found : List (Option Char)} {cs : List Char}
    (h : valid? found = some cs) : found = cs.map some := by
  induction found generalizing cs with
  | nil =>
    cases h
    rfl
  | cons piece found ih =>
    cases piece with
    | none => cases h
    | some c =>
      obtain ⟨later, read, rfl⟩ := Option.map_eq_some_iff.1 h
      rw [ih read, List.map_cons]

theorem pieces_of_decode? {bytes : List UInt8} {text : String} (h : decode? bytes = some text) :
    pieces bytes = text.toList.map some := by
  obtain ⟨cs, read, rfl⟩ := Option.map_eq_some_iff.1 h
  rw [valid?_eq_some read, String.toList_ofList]

theorem count_none_of_decode? {bytes : List UInt8} {text : String}
    (h : decode? bytes = some text) : (pieces bytes).count none = 0 := by
  rw [pieces_of_decode? h, List.count_eq_zero]
  simp

theorem repair_of_decode? {bytes : List UInt8} {text : String} (h : decode? bytes = some text) :
    repair bytes = text := by
  rw [repair, pieces_of_decode? h, List.map_map]
  simp [Function.comp_def]

/-- In a cut one character may be left unfinished. -/
theorem count_none_decodeFrom_cut {p : Option Pending} {bytes later : List UInt8}
    (h : none ∉ decodeFrom p (bytes ++ later)) : (decodeFrom p bytes).count none ≤ 1 := by
  induction bytes generalizing p with
  | nil => cases p <;> simp [decodeFrom]
  | cons b rest ih =>
    rw [List.cons_append, decodeFrom_cons, List.mem_append, not_or] at h
    rw [decodeFrom_cons, List.count_append, List.count_eq_zero.2 h.1, Nat.zero_add]
    exact ih h.2

theorem count_none_take {bytes : List UInt8} {text : String} (h : decode? bytes = some text)
    (n : Nat) : (pieces (bytes.take n)).count none ≤ 1 := by
  have whole : none ∉ pieces (bytes.take n ++ bytes.drop n) := by
    rw [List.take_append_drop]
    exact List.count_eq_zero.1 (count_none_of_decode? h)
  exact count_none_decodeFrom_cut whole

end PluginFlow.Text.Utf8

namespace PluginFlow.Net.Sandbox

open Text.Utf8

variable {σ : Type} {s : Sandbox σ} {url : String} {limit timeoutMs : Nat} {w : σ}
  {r : HttpResponse} {a : Arrival}

theorem body_of_httpGet (received : s.Receives url timeoutMs w a)
    (answered : (s.httpGet url limit timeoutMs w).1 = .ok r) :
    r.body = repair ((delivered a.pieces).take limit) := by
  rw [httpGet_of_receives received] at answered
  cases collected : collect limit a.pieces with
  | error t =>
    rw [collected] at answered
    cases answered
  | ok body =>
    rw [collected] at answered
    cases answered
    rw [eq_take_of_collect collected]

/-- The text of a body may exceed the limit, by two bytes for each invalid part of the bytes that are
kept. Where these are valid it does not, and in a valid response at most one character is cut. -/
theorem httpGet_body_size (answered : (s.httpGet url limit timeoutMs w).1 = .ok r) :
    (∃ a, s.Receives url timeoutMs w a) ∧
    ∀ a, s.Receives url timeoutMs w a →
      ∃ kept, kept = (delivered a.pieces).take limit ∧ r.body = repair kept ∧
        r.body.utf8ByteSize ≤ limit + 2 * (pieces kept).count none ∧
        r.body.utf8ByteSize ≤ 3 * limit ∧
        (∀ text, decode? kept = some text → r.body = text ∧ r.body.utf8ByteSize ≤ limit) ∧
        (∀ text, decode? (delivered a.pieces) = some text →
          r.body.utf8ByteSize ≤ limit + 2) := by
  refine ⟨receives_of_httpGet answered, fun a received => ⟨_, rfl, ?_⟩⟩
  have body := body_of_httpGet received answered
  have kept : ((delivered a.pieces).take limit).length ≤ limit := List.length_take_le _ _
  have size := repair_size_le ((delivered a.pieces).take limit)
  rw [← body] at size
  refine ⟨body, size.trans (Nat.add_le_add_right kept _), ?_, ?_, ?_⟩
  · have invalid := count_none_le_length ((delivered a.pieces).take limit)
    omega
  · intro text read
    have none_invalid := count_none_of_decode? read
    exact ⟨body.trans (repair_of_decode? read), by omega⟩
  · intro text read
    have one_cut := count_none_take read limit
    omega

def accented : Arrival where
  status := 200
  contentType := none
  pieces := [.ok [82, 101, 110], .ok [195, 169]]

/-- The cut character takes the text two bytes past the limit. -/
theorem accented_body_size :
    ((answering accented).httpGet "https://example.com/" 4 2000 ()).1 =
      .ok ⟨"Ren\uFFFD", 200, ""⟩ ∧
    decode? (delivered accented.pieces) = some "René" ∧ "Ren\uFFFD".utf8ByteSize ≤ 4 + 2 := by
  have answered : ((answering accented).httpGet "https://example.com/" 4 2000 ()).1 =
      .ok ⟨"Ren\uFFFD", 200, ""⟩ := httpGet_of_receives (answering_receives accented) 4
  have read : decode? (delivered accented.pieces) = some "René" := by decide +kernel
  refine ⟨answered, read, ?_⟩
  obtain ⟨_, -, -, -, -, -, bound⟩ :=
    (httpGet_body_size answered).2 accented (answering_receives accented)
  exact bound "René" read

/-- One byte that begins no character makes a text of three bytes. -/
theorem stray_byte_exceeds_limit :
    ¬ ∀ (s : Sandbox Unit) (url : String) (limit timeoutMs : Nat) (r : HttpResponse),
      (s.httpGet url limit timeoutMs ()).1 = .ok r → r.body.utf8ByteSize ≤ limit := by
  intro all
  have bound := all (answering ⟨200, none, [.ok [255]]⟩) "https://example.com/" 1 2000
    ⟨"\uFFFD", 200, ""⟩ (httpGet_of_receives (answering_receives _) 1)
  exact absurd bound (by decide +kernel)

end PluginFlow.Net.Sandbox
