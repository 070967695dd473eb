import PluginFlow.Proofs.Digits
import PluginFlow.Proofs.Url

/-!
Addresses and their texts. Every address is read back from its text, and the host of a URL that
spells it is that address.
-/

namespace PluginFlow

namespace Net

namespace Idna

variable {α : Type} [BEq α] [LawfulBEq α] {separator : α}

theorem splitOn_of_not_mem {part : List α} (h : separator ∉ part) :
    splitOn separator part = [part] := by
  induction part with
  | nil => rfl
  | cons x part ih =>
    obtain ⟨hx, hp⟩ := not_or.1 (mt List.mem_cons.2 h)
    simp [splitOn, Ne.symm hx, ih hp]

theorem splitOn_append {part rest : List α} (h : separator ∉ part) :
    splitOn separator (part ++ separator :: rest) = part :: splitOn separator rest := by
  induction part with
  | nil => simp [splitOn]
  | cons x part ih =>
    obtain ⟨hx, hp⟩ := not_or.1 (mt List.mem_cons.2 h)
    simp [splitOn, Ne.symm hx, ih hp]

/-- Joined parts are cut where they were joined. -/
theorem splitOn_intercalate {parts : List (List α)} (nonempty : parts ≠ [])
    (h : ∀ part ∈ parts, separator ∉ part) :
    splitOn separator ([separator].intercalate parts) = parts := by
  induction parts with
  | nil => exact absurd rfl nonempty
  | cons part parts ih =>
    obtain ⟨hp, hps⟩ := List.forall_mem_cons.1 h
    cases parts with
    | nil => rw [List.intercalate_singleton, splitOn_of_not_mem hp]
    | cons next parts =>
      rw [List.intercalate_cons_cons, List.append_assoc, List.singleton_append, splitOn_append hp,
        ih (List.cons_ne_nil _ _) hps]

end Idna

/-! ### Dotted decimal texts -/

namespace Ipv4

def parts (x : Ipv4) : List (List Char) := x.octets.map fun o => Number.natDigits o.toNat

theorem parts_ne_nil (x : Ipv4) : x.parts ≠ [] := List.cons_ne_nil _ _

theorem toList_text (x : Ipv4) : x.text.toList = ['.'].intercalate x.parts := by
  have digits : String.toList ∘ (fun o : UInt8 => Number.intText o.toNat) =
      fun o => Number.natDigits o.toNat := by
    funext o
    simp [Number.intText]
  rw [text, String.toList_intercalate, List.map_map, digits]
  rfl

theorem isDigit_of_mem_parts {x : Ipv4} {part : List Char} (h : part ∈ x.parts) :
    ∀ c ∈ part, c.isDigit := by
  obtain ⟨o, -, rfl⟩ := List.mem_map.1 h
  exact fun c hc => Nat.isDigit_of_mem_toDigits (by decide) (by decide) hc

theorem splitOn_text (x : Ipv4) : Idna.splitOn '.' x.text.toList = x.parts := by
  have separate : ∀ part ∈ x.parts, '.' ∉ part := by
    intro part hp stop
    exact absurd (isDigit_of_mem_parts hp '.' stop) (by decide)
  rw [toList_text, Idna.splitOn_intercalate x.parts_ne_nil separate]

theorem octet?_natDigits (o : UInt8) : octet? (Number.natDigits o.toNat) = some o := by
  have all : ∀ n < 256, octet? (Number.natDigits n) = some n.toUInt8 := by decide +kernel
  rw [all _ o.toNat_lt]
  simp

theorem length_text (x : Ipv4) : 7 ≤ x.text.toList.length := by
  have digit : ∀ o : UInt8, 0 < (Number.natDigits o.toNat).length :=
    fun o => Nat.length_toDigits_pos
  have ha := digit x.a
  have hb := digit x.b
  have hc := digit x.c
  have hd := digit x.d
  rw [toList_text]
  simp only [parts, octets, List.map_cons, List.map_nil, List.intercalate_cons_cons,
    List.intercalate_singleton, List.length_append, List.length_cons, List.length_nil]
  omega

theorem toList_text_ne_nil (x : Ipv4) : x.text.toList ≠ [] := by
  intro empty
  have long := x.length_text
  rw [empty] at long
  exact absurd long (by decide)

theorem mem_text {x : Ipv4} {c : Char} (h : c ∈ x.text.toList) : c = '.' ∨ c.isDigit := by
  rw [toList_text] at h
  rcases Url.mem_of_mem_intercalate h with stop | ⟨part, hp, hc⟩
  · exact .inl stop
  · exact .inr (isDigit_of_mem_parts hp c hc)

theorem colon_not_mem_text (x : Ipv4) : ':' ∉ x.text.toList := by
  intro h
  rcases mem_text h with stop | digit
  · cases stop
  · exact absurd digit (by decide)

/-- An address is read back from its text. -/
theorem ofChars?_text (x : Ipv4) : ofChars? x.text.toList = some x := by
  rw [ofChars?, splitOn_text]
  simp only [parts, octets, List.map_cons, List.map_nil, octet?_natDigits]
  rfl

theorem ext_toNat {x y : Ipv4} :
    x = y ↔ x.a.toNat = y.a.toNat ∧ x.b.toNat = y.b.toNat ∧ x.c.toNat = y.c.toNat ∧
      x.d.toNat = y.d.toNat := by
  cases x
  cases y
  simp [UInt8.toNat_inj]

theorem toNat_ofNat (n : Nat) :
    (ofNat n).a.toNat = n / 16777216 % 256 ∧ (ofNat n).b.toNat = n / 65536 % 256 ∧
      (ofNat n).c.toNat = n / 256 % 256 ∧ (ofNat n).d.toNat = n % 256 := by
  simp [ofNat]

def toNat (x : Ipv4) : Nat :=
  256 * (256 * (256 * x.a.toNat + x.b.toNat) + x.c.toNat) + x.d.toNat

theorem ofNat_toNat (x : Ipv4) : ofNat x.toNat = x := by
  have ha := x.a.toNat_lt
  have hb := x.b.toNat_lt
  have hc := x.c.toNat_lt
  have hd := x.d.toNat_lt
  obtain ⟨h₁, h₂, h₃, h₄⟩ := toNat_ofNat x.toNat
  rw [ext_toNat, h₁, h₂, h₃, h₄, toNat]
  omega

/-- Two octets as one piece of sixteen bits. -/
theorem toNat_piece (a b : UInt8) :
    (a.toUInt16 * 256 + b.toUInt16).toNat = 256 * a.toNat + b.toNat := by
  have ha := a.toNat_lt
  have hb := b.toNat_lt
  simp only [UInt16.toNat_add, UInt16.toNat_mul, UInt8.toNat_toUInt16]
  change (a.toNat * 256 % 65536 + b.toNat) % 65536 = _
  omega

/-- The address of two pieces. -/
theorem ofNat_eq_iff {hi lo : UInt16} {x : Ipv4} :
    ofNat (hi.toNat * 65536 + lo.toNat) = x ↔
      hi = x.a.toUInt16 * 256 + x.b.toUInt16 ∧ lo = x.c.toUInt16 * 256 + x.d.toUInt16 := by
  obtain ⟨ha, hb, hc, hd⟩ := toNat_ofNat (hi.toNat * 65536 + lo.toNat)
  rw [ext_toNat, ha, hb, hc, hd, ← UInt16.toNat_inj, ← UInt16.toNat_inj, toNat_piece, toNat_piece]
  have := hi.toNat_lt
  have := lo.toNat_lt
  have := x.a.toNat_lt
  have := x.b.toNat_lt
  have := x.c.toNat_lt
  have := x.d.toNat_lt
  omega

end Ipv4

/-! ### Hexadecimal texts -/

/-- Hexadecimal digits stand for the number they were written for. -/
theorem mapM_hexValue?_hexText (n : Nat) :
    ∃ values, (Text.hexText n).mapM Text.hexValue? = some values ∧
      values.foldl (fun n d => 16 * n + d) 0 = n := by
  have digit : ∀ d < 16, Text.hexValue? d.digitChar = some d := by decide
  induction n using Nat.strongRecOn with
  | ind n ih =>
    by_cases low : n < 16
    · exact ⟨[n], by simp [Text.hexText, Nat.toDigits_of_lt_base low, digit n low], by simp⟩
    · obtain ⟨values, read, value⟩ := ih (n / 16) (by omega)
      refine ⟨values ++ [n % 16], ?_, ?_⟩
      · rw [Text.hexText] at read ⊢
        rw [Nat.toDigits_of_base_le (by decide) (by omega), List.mapM_append, read]
        simp [digit (n % 16) (by omega)]
      · rw [List.foldl_append, value]
        simp only [List.foldl_cons, List.foldl_nil]
        omega

theorem isSome_of_mem_hexText {n : Nat} {c : Char} (h : c ∈ Text.hexText n) :
    (Text.hexValue? c).isSome := by
  have digit : ∀ d < 16, (Text.hexValue? d.digitChar).isSome := by decide
  induction n using Nat.strongRecOn with
  | ind n ih =>
    rw [Text.hexText] at h
    by_cases low : n < 16
    · rw [Nat.toDigits_of_lt_base low] at h
      rw [List.mem_singleton.1 h]
      exact digit n low
    · rw [Nat.toDigits_of_base_le (by decide) (by omega)] at h
      rcases List.mem_append.1 h with front | last
      · exact ih (n / 16) (by omega) front
      · rw [List.mem_singleton.1 last]
        exact digit (n % 16) (by omega)

namespace Ipv6

def digits (p : UInt16) : List Char := Text.hexText p.toNat

theorem digits_ne_nil (p : UInt16) : digits p ≠ [] := Nat.toDigits_ne_nil

theorem colon_not_mem_digits (p : UInt16) : ':' ∉ digits p := by
  intro h
  exact absurd (isSome_of_mem_hexText h) (by decide)

theorem piece?_digits (p : UInt16) : piece? (digits p) = some p := by
  obtain ⟨values, read, value⟩ := mapM_hexValue?_hexText p.toNat
  have short : (digits p).length ≤ 4 := by
    rw [digits, Text.hexText, Nat.length_toDigits_le_iff (by decide) (by decide)]
    exact p.toNat_lt
  have some : (digits p).isEmpty = false := by simpa using digits_ne_nil p
  rw [piece?, some, if_neg (by simpa using short), digits, read]
  simp [value]

theorem toList_piecesText (ps : List UInt16) :
    (piecesText ps).toList = [':'].intercalate (ps.map digits) := by
  rw [piecesText, String.toList_intercalate, List.map_map]
  congr 1
  apply List.map_congr_left
  intro p _
  exact String.toList_ofList

theorem splitOn_piecesText {ps : List UInt16} (h : ps ≠ []) :
    Idna.splitOn ':' (piecesText ps).toList = ps.map digits := by
  rw [toList_piecesText, Idna.splitOn_intercalate (by simpa using h)]
  intro part hp
  obtain ⟨p, -, rfl⟩ := List.mem_map.1 hp
  exact colon_not_mem_digits p

theorem pieces?_digits (ipv4Last : Bool) (ps : List UInt16) :
    pieces? ipv4Last (ps.map digits) = some ps := by
  induction ps with
  | nil => rfl
  | cons p ps ih =>
    cases ps with
    | nil => simp [pieces?, piece?_digits]
    | cons q ps =>
      rw [List.map_cons, List.map_cons, pieces?, piece?_digits, ← List.map_cons, ih]
      · rfl
      · exact List.cons_ne_nil _ _

theorem side?_piecesText (ipv4Last : Bool) (ps : List UInt16) :
    side? ipv4Last (piecesText ps).toList = some ps := by
  cases ps with
  | nil => rfl
  | cons p ps =>
    have shown : (piecesText (p :: ps)).toList.isEmpty = false := by
      rw [toList_piecesText]
      cases ps with
      | nil => simpa using digits_ne_nil p
      | cons q ps => simp [List.intercalate_cons_cons, digits_ne_nil]
    rw [side?, shown, splitOn_piecesText (List.cons_ne_nil _ _)]
    exact pieces?_digits ipv4Last (p :: ps)

/-! ### The run that is left out -/

theorem splitRun?_append {before part rest : List Char} (h : ':' ∉ part) :
    splitRun? before (part ++ rest) = splitRun? (part.reverse ++ before) rest := by
  induction part generalizing before with
  | nil => rfl
  | cons c part ih =>
    obtain ⟨hc, hp⟩ := not_or.1 (mt List.mem_cons.2 h)
    rw [List.cons_append, splitRun?, ih hp, List.reverse_cons, List.append_assoc]
    · rfl
    · intro _ same
      exact absurd same.symm hc

theorem splitRun?_colon {before rest : List Char} {c : Char} (h : c ≠ ':') :
    splitRun? before (':' :: c :: rest) = splitRun? (':' :: before) (c :: rest) := by
  rw [splitRun?]
  intro _ _ same
  exact absurd (List.cons.inj same).1 h

/-- A text of pieces begins with a digit. -/
theorem exists_piecesText_cons (p : UInt16) (ps : List UInt16) :
    ∃ c rest, c ≠ ':' ∧ (piecesText (p :: ps)).toList = c :: rest := by
  obtain ⟨c, more, hd⟩ := List.exists_cons_of_ne_nil (digits_ne_nil p)
  have hc : c ≠ ':' := by
    rintro rfl
    exact colon_not_mem_digits p (hd ▸ List.mem_cons_self)
  rw [toList_piecesText, List.map_cons, hd]
  cases ps with
  | nil => exact ⟨c, more, hc, by simp⟩
  | cons q ps =>
    rw [List.map_cons, List.intercalate_cons_cons]
    exact ⟨c, _, hc, rfl⟩

/-- Joined pieces hold no two colons in a row. -/
theorem splitRun?_piecesText (ps : List UInt16) (before rest : List Char) :
    splitRun? before ((piecesText ps).toList ++ rest) =
      splitRun? ((piecesText ps).toList.reverse ++ before) rest := by
  induction ps generalizing before with
  | nil => rfl
  | cons p ps ih =>
    cases ps with
    | nil =>
      rw [toList_piecesText, List.map_singleton, List.intercalate_singleton]
      exact splitRun?_append (colon_not_mem_digits p)
    | cons q ps =>
      have joined : (piecesText (p :: q :: ps)).toList =
          digits p ++ ':' :: (piecesText (q :: ps)).toList := by
        simp [toList_piecesText, List.intercalate_cons_cons]
      obtain ⟨c, more, hc, hq⟩ := exists_piecesText_cons q ps
      calc
        splitRun? before ((piecesText (p :: q :: ps)).toList ++ rest)
        _ = splitRun? before (digits p ++ ':' :: c :: (more ++ rest)) := by simp [joined, hq]
        _ = splitRun? (':' :: ((digits p).reverse ++ before)) (c :: (more ++ rest)) := by
          rw [splitRun?_append (colon_not_mem_digits p), splitRun?_colon hc]
        _ = splitRun? (':' :: ((digits p).reverse ++ before))
              ((piecesText (q :: ps)).toList ++ rest) := by simp [hq]
        _ = splitRun? ((piecesText (p :: q :: ps)).toList.reverse ++ before) rest := by
          rw [ih]
          simp [joined]

theorem splitRun?_run (head tail : List UInt16) :
    splitRun? [] ((piecesText head).toList ++ ':' :: ':' :: (piecesText tail).toList) =
      some ((piecesText head).toList, (piecesText tail).toList) := by
  rw [splitRun?_piecesText, splitRun?, List.append_nil, List.reverse_reverse]

theorem splitRun?_no_run (ps : List UInt16) : splitRun? [] (piecesText ps).toList = none := by
  rw [← List.append_nil (piecesText ps).toList, splitRun?_piecesText]
  rfl

theorem exists_leadingZeros (ps : List UInt16) :
    ∃ rest, ps = List.replicate (leadingZeros ps) 0 ++ rest := by
  induction ps with
  | nil => exact ⟨[], rfl⟩
  | cons p ps ih =>
    rw [leadingZeros]
    split
    · rename_i zero
      obtain ⟨rest, h⟩ := ih
      refine ⟨rest, ?_⟩
      rw [List.replicate_succ, List.cons_append, ← h, eq_of_beq zero]
    · exact ⟨p :: ps, rfl⟩

/-- The run that is left out consists of zeros. -/
theorem exists_longestZeros (start : Nat) (ps : List UInt16) :
    ∃ before after, ps = before ++ List.replicate (longestZeros start ps).2 0 ++ after ∧
      (longestZeros start ps).1 = start + before.length := by
  induction ps generalizing start with
  | nil => exact ⟨[], [], rfl, rfl⟩
  | cons p ps ih =>
    rw [longestZeros]
    split
    · obtain ⟨rest, h⟩ := exists_leadingZeros (p :: ps)
      exact ⟨[], rest, h, rfl⟩
    · obtain ⟨before, after, h, place⟩ := ih (start + 1)
      refine ⟨p :: before, after, ?_, ?_⟩
      · rw [List.cons_append, List.cons_append, ← h]
      · rw [place, List.length_cons]
        omega

/-- An address is read back from its text. -/
theorem ofChars?_text (x : Ipv6) : ofChars? x.text.toList = some x := by
  obtain ⟨before, after, split, place⟩ := exists_longestZeros 0 x.pieces
  have whole := x.size_eq
  rw [text]
  generalize longestZeros 0 x.pieces = run at split place
  obtain ⟨start, length⟩ := run
  dsimp only at split place ⊢
  rw [Nat.zero_add] at place
  subst place
  -- With a run left out the two sides are read apart, without one all eight pieces together.
  by_cases long : 2 ≤ length
  · have head : x.pieces.take before.length = before := by simp [split]
    have tail : x.pieces.drop (before.length + length) = after := by simp [split]
    rw [if_pos long, head, tail, String.toList_append, String.toList_append, List.append_assoc,
      ofChars?]
    have shown : "::".toList = [':', ':'] := rfl
    rw [shown, List.cons_append, List.cons_append, List.nil_append, splitRun?_run]
    have lengths := congrArg List.length split
    simp only [whole, List.length_append, List.length_replicate] at lengths
    have zeros : 8 - before.length - after.length = length := by omega
    simp only [side?_piecesText, Option.bind_eq_bind, Option.bind_some, zeros]
    rw [if_pos (by omega), ofPieces?]
    simp [← split, whole]
  · rw [if_neg long, ofChars?, splitRun?_no_run, splitOn_piecesText, pieces?_digits]
    · simp [ofPieces?, whole]
    · intro none
      simp [none] at whole

theorem mem_piecesText {ps : List UInt16} {c : Char} (h : c ∈ (piecesText ps).toList) :
    c = ':' ∨ (Text.hexValue? c).isSome := by
  rw [toList_piecesText] at h
  rcases Url.mem_of_mem_intercalate h with colon | ⟨part, hp, hc⟩
  · exact .inl colon
  · obtain ⟨p, -, rfl⟩ := List.mem_map.1 hp
    exact .inr (isSome_of_mem_hexText hc)

theorem mem_text {x : Ipv6} {c : Char} (h : c ∈ x.text.toList) :
    c = ':' ∨ (Text.hexValue? c).isSome := by
  rw [text] at h
  split at h
  split at h
  · rw [String.toList_append, String.toList_append, List.mem_append, List.mem_append] at h
    rcases h with (front | colons) | back
    · exact mem_piecesText front
    · exact .inl (List.eq_of_mem_replicate (n := 2) colons)
    · exact mem_piecesText back
  · exact mem_piecesText h

theorem colon_mem_text (x : Ipv6) : ':' ∈ x.text.toList := by
  rw [text]
  split
  split
  · simp
  · obtain ⟨pieces, size⟩ := x
    match pieces, size with
    | p :: q :: ps, _ => simp [toList_piecesText, List.intercalate_cons_cons]

/-! ### IPv4 addresses in the form of IPv6 ones -/

/-- The pieces behind an IPv4 address in the form of an IPv6 one. -/
theorem mapped?_eq_some {x : Ipv6} {a : Ipv4} :
    x.mapped? = some a ↔ x.pieces = [0, 0, 0, 0, 0, 0xFFFF, a.a.toUInt16 * 256 + a.b.toUInt16,
      a.c.toUInt16 * 256 + a.d.toUInt16] := by
  unfold mapped?
  split
  · rename_i hi lo pieces
    simp [pieces, Ipv4.ofNat_eq_iff]
  · rename_i other
    refine ⟨fun h => (nomatch h), fun h => absurd h (other _ _)⟩

theorem ofChars?_mapped (a : Ipv4) :
    ofChars? ("::ffff:" ++ a.text).toList = ofPieces? [0, 0, 0, 0, 0, 0xFFFF,
      a.a.toUInt16 * 256 + a.b.toUInt16, a.c.toUInt16 * 256 + a.d.toUInt16] := by
  have long := a.length_text
  have parts : Idna.splitOn ':' ("ffff:".toList ++ a.text.toList) =
      ["ffff".toList, a.text.toList] := by
    have shown : "ffff:".toList ++ a.text.toList = "ffff".toList ++ ':' :: a.text.toList := rfl
    rw [shown, Idna.splitOn_append (by decide), Idna.splitOn_of_not_mem a.colon_not_mem_text]
  have first : piece? "ffff".toList = some 0xFFFF := by decide
  have last : piece? a.text.toList = none := by
    rw [piece?, if_pos]
    simp only [Bool.or_eq_true, decide_eq_true_eq]
    omega
  have shown : ("::ffff:" ++ a.text).toList = ':' :: ':' :: ("ffff:".toList ++ a.text.toList) := by
    rw [String.toList_append]
    rfl
  have tail : side? true ("ffff:".toList ++ a.text.toList) =
      some [0xFFFF, a.a.toUInt16 * 256 + a.b.toUInt16, a.c.toUInt16 * 256 + a.d.toUInt16] := by
    rw [side?, parts]
    simp only [pieces?, first, last, Ipv4.ofChars?_text]
    rfl
  rw [ofChars?, shown, splitRun?]
  simp only [List.reverse_nil, tail]
  rfl

/-- An address is read back from its text with an embedded IPv4 address. -/
theorem ofChars?_mixedText (x : Ipv6) : ofChars? x.mixedText.toList = some x := by
  rw [mixedText]
  cases h : x.mapped? with
  | none => exact ofChars?_text x
  | some a =>
    rw [ofChars?_mapped, ← mapped?_eq_some.1 h, ofPieces?, dif_pos x.size_eq]

theorem mem_mixedText {x : Ipv6} {c : Char} (h : c ∈ x.mixedText.toList) :
    c = ':' ∨ c = '.' ∨ (Text.hexValue? c).isSome := by
  rw [mixedText] at h
  split at h
  · rw [String.toList_append, List.mem_append] at h
    rcases h with front | octets
    · have all : "::ffff:".toList.all (fun c => c == ':' || (Text.hexValue? c).isSome) = true := by
        decide
      have shown := List.all_eq_true.1 all c front
      rw [Bool.or_eq_true, beq_iff_eq] at shown
      exact shown.imp_right .inr
    · rcases Ipv4.mem_text octets with stop | digit
      · exact .inr (.inl stop)
      · exact .inr (.inr (by simp [Text.hexValue?, Text.isDigit_eq, digit]))
  · exact (mem_text h).imp_right .inr

theorem colon_mem_mixedText (x : Ipv6) : ':' ∈ x.mixedText.toList := by
  rw [mixedText]
  split
  · simp
  · exact colon_mem_text x

end Ipv6
end Net
end PluginFlow
