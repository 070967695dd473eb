import PluginFlow.Flow.Form
import PluginFlow.Proofs.JsonText
import PluginFlow.Proofs.Outcome

/-!
What readers make of documents and of anything else. A reader of lists, maps or records restores a
document of its shape as far as the readers of the parts restore these; and what holds of everything
that the readers of the parts give holds of the parts of what it gives itself.
-/

namespace PluginFlow

namespace KeyMap

variable {α : Type}

theorem insertEntry_of_greatest {key : String} {value : α} {es : List (String × α)}
    (greatest : ∀ k ∈ es.map (·.1), k < key) : insertEntry key value es = es ++ [(key, value)] := by
  induction es with
  | nil => rfl
  | cons e es ih =>
    obtain ⟨k, v⟩ := e
    have before : k < key := greatest k List.mem_cons_self
    have other : ¬ key < k := fun after => String.lt_irrefl k (String.lt_trans before after)
    have apart : key ≠ k := fun same => String.lt_irrefl k (same ▸ before)
    rw [insertEntry, if_neg other, if_neg apart,
      ih fun x hx => greatest x (List.mem_cons_of_mem _ hx), List.cons_append]

theorem entries_insertAll {m : KeyMap α} {es : List (String × α)}
    (ordered : ((m.entries ++ es).map (·.1)).Pairwise (· < ·)) :
    (m.insertAll es).entries = m.entries ++ es := by
  induction es generalizing m with
  | nil => exact (List.append_nil _).symm
  | cons e es ih =>
    have greatest : ∀ k ∈ m.entries.map (·.1), k < e.1 := by
      rw [List.map_append, List.pairwise_append] at ordered
      exact fun k hk => ordered.2.2 k hk e.1 List.mem_cons_self
    have put : (m.insert e.1 e.2).entries = m.entries ++ [e] := insertEntry_of_greatest greatest
    have step := @ih (m.insert e.1 e.2)
    rw [put, List.append_assoc] at step
    exact step ordered

/-- Entries in the order of their keys are those of the map that they make. -/
theorem entries_ofList {es : List (String × α)} (ordered : (es.map (·.1)).Pairwise (· < ·)) :
    (ofList es).entries = es := entries_insertAll ordered

@[simp] theorem ofList_entries (m : KeyMap α) : ofList m.entries = m := by
  obtain ⟨es, ordered⟩ := m
  have same := entries_ofList ordered
  generalize ofList es = m at same
  cases m
  cases same
  rfl

end KeyMap

namespace Json.Reader

variable {α σ : Type}

theorem key_text (s : String) : key (textDraft s) = .ok s := by
  rw [textDraft, key, quote, read_quote]

theorem text_draft (depth : Nat) (s : String) : text depth (Document.text s).draft = .ok s := by
  rw [Document.draft, textDraft, text, quote, read_quote]

theorem optional_eq_some {r : Reader α} {depth : Nat} {d : Draft} {x : α} (present : d ≠ .null)
    (reads : r depth d = .ok x) : optional r depth d = .ok (some x) := by
  have some_read : optional r depth d = some <$> r depth d := by
    cases d <;> first | rfl | exact absurd rfl present
  rw [some_read, reads]
  rfl

theorem optional_text_draft (depth : Nat) (s : String) :
    optional text depth (Document.text s).draft = .ok (some s) :=
  optional_eq_some nofun (text_draft depth s)

theorem deeper_of_lt {depth : Nat} (room : depth < depthLimit) : deeper depth = .ok (depth + 1) :=
  if_pos room

section Documents

variable {r : Reader α} {form : α → Document} {depth : Nat}

theorem items_eq_ok_iff {xs ys : List α} :
    items r depth none (xs.map fun x => (form x).draft) = .ok ys ↔
      List.Forall₂ (fun x y => r depth (form x).draft = .ok y) xs ys := by
  induction xs generalizing ys with
  | nil =>
    rw [List.forall₂_nil_left_iff]
    exact ⟨fun h => (Except.ok.inj h).symm, fun h => congrArg Except.ok h.symm⟩
  | cons x xs ih =>
    rw [List.forall₂_cons_left_iff, List.map_cons, items, Outcome.bind_eq_ok_iff]
    constructor
    · rintro ⟨y, first, h⟩
      obtain ⟨zs, others, h⟩ := Outcome.bind_eq_ok_iff.1 h
      cases h
      exact ⟨y, zs, first, ih.1 others, rfl⟩
    · rintro ⟨y, zs, first, others, rfl⟩
      exact ⟨y, first, Outcome.bind_eq_ok_iff.2 ⟨zs, ih.2 others, rfl⟩⟩

/-- A list is read item by item. -/
theorem list_eq_ok_iff (room : depth < depthLimit) {xs ys : List α} :
    list r depth (Document.array (xs.map form)).draft = .ok ys ↔
      List.Forall₂ (fun x y => r (depth + 1) (form x).draft = .ok y) xs ys := by
  rw [Document.draft, Document.draftItems_eq, List.map_map, list, deeper_of_lt room]
  exact items_eq_ok_iff

def entryDraft (form : α → Document) (e : String × α) : Draft × Draft :=
  (textDraft e.1, (form e.2).draft)

theorem members_cons (m : KeyMap α) (e : String × α) (rest : List (Draft × Draft)) :
    members r depth none m (entryDraft form e :: rest) =
      r depth (form e.2).draft >>= fun x => members r depth none (m.insert e.1 x) rest := by
  rw [entryDraft, members, key_text]
  rfl

theorem members_eq_ok_iff {m m' : KeyMap α} {es : List (String × α)} :
    members r depth none m (es.map (entryDraft form)) = .ok m' ↔
      ∃ es', m' = m.insertAll es' ∧
        List.Forall₂ (fun e e' => e.1 = e'.1 ∧ r depth (form e.2).draft = .ok e'.2) es es' := by
  induction es generalizing m with
  | nil =>
    constructor
    · intro h
      cases h
      exact ⟨[], rfl, .nil⟩
    · rintro ⟨es', rfl, ⟨⟩⟩
      rfl
  | cons e es ih =>
    rw [List.map_cons, members_cons, Outcome.bind_eq_ok_iff]
    constructor
    · rintro ⟨x, read, others⟩
      obtain ⟨es', made, pairs⟩ := ih.1 others
      exact ⟨(e.1, x) :: es', made, .cons ⟨rfl, read⟩ pairs⟩
    · rintro ⟨es', made, pairs⟩
      obtain ⟨e', rest, ⟨same, read⟩, others, rfl⟩ := List.forall₂_cons_left_iff.1 pairs
      rw [KeyMap.insertAll, List.foldl_cons, ← same] at made
      exact ⟨e'.2, read, ih.2 ⟨rest, made, others⟩⟩

/-- A map is read entry by entry. -/
theorem keyMap_eq_ok_iff (room : depth < depthLimit) {m m' : KeyMap α} :
    keyMap r depth (m.toDocument form).draft = .ok m' ↔
      List.Forall₂ (fun e e' => e.1 = e'.1 ∧ r (depth + 1) (form e.2).draft = .ok e'.2)
        m.entries m'.entries := by
  have whole : keyMap r depth (m.toDocument form).draft =
      members r (depth + 1) none .empty (m.entries.map (entryDraft form)) := by
    rw [KeyMap.toDocument, Document.draft, Document.draftMembers_eq, List.map_map, keyMap,
      deeper_of_lt room]
    rfl
  rw [whole, members_eq_ok_iff]
  constructor
  · rintro ⟨es, rfl, pairs⟩
    have keys : m.entries.map (·.1) = es.map (·.1) := by
      rw [← List.forall₂_eq_eq_eq, List.forall₂_map_left_iff, List.forall₂_map_right_iff]
      exact pairs.imp fun _ _ h => h.1
    rwa [← KeyMap.ofList, KeyMap.entries_ofList (keys ▸ m.ordered)]
  · intro pairs
    exact ⟨m'.entries, (KeyMap.ofList_entries m').symm, pairs⟩

end Documents

/-! ### Records -/

section Records

variable {slots : List (Slot σ)} {p : σ} {depth : Nat}

theorem fields_member {name : String} {s : Slot σ} (known : slots.find? (·.name == name) = some s)
    (unset : s.isSet p = false) (d : Document) (rest : List (String × Document)) :
    fields slots depth none p (Document.draftMembers ((name, d) :: rest)) =
      s.read depth d.draft p >>= fun p => fields slots depth none p (Document.draftMembers rest) := by
  rw [Document.draftMembers, fields, key_text, Outcome.ok_bind]
  simp only [known, unset]
  rfl

variable {name : String} {required : Bool} {r : Reader α}

/-- A member that can be read is put into its field. -/
theorem fields_slot {get : σ → Option α} {set : σ → α → σ}
    (known : slots.find? (·.name == name) = some (slot name required r get set))
    (unset : get p = none) {d : Document} {x : α} (reads : r depth d.draft = .ok x)
    (rest : List (String × Document)) :
    fields slots depth none p (Document.draftMembers ((name, d) :: rest)) =
      fields slots depth none (set p x) (Document.draftMembers rest) := by
  have isSet : (slot name required r get set).isSet p = false :=
    congrArg Option.isSome unset
  have read : (slot name required r get set).read depth d.draft p = .ok (set p x) :=
    Outcome.map_eq_ok_iff.2 ⟨x, reads, rfl⟩
  rw [fields_member known isSet, read]
  rfl

/-- A member that is left out without a value leaves its field unset. One with a value is put into
its field as what is kept of the value. -/
theorem fields_optional_kept {β : Type} {get : σ → Option (Option α)} {set : σ → Option α → σ}
    {form : β → Document} {kept : β → Option α}
    (known : slots.find? (·.name == name) = some (slot name required (optional r) get set))
    (unset : get p = none) {value : Option β}
    (reads : ∀ x ∈ value, optional r depth (form x).draft = .ok (kept x)) (q : σ)
    (put : value.elim p (fun x => set p (kept x)) = q) (rest : List (String × Document)) :
    fields slots depth none p (Document.draftMembers (Document.optional name value form ++ rest)) =
      fields slots depth none q (Document.draftMembers rest) := by
  rw [← put]
  cases value with
  | none => rfl
  | some x => exact fields_slot known unset (reads x rfl) rest

theorem fields_optional {get : σ → Option (Option α)} {set : σ → Option α → σ}
    {form : α → Document}
    (known : slots.find? (·.name == name) = some (slot name required (optional r) get set))
    (unset : get p = none) (reads : ∀ x, optional r depth (form x).draft = .ok (some x))
    {value : Option α} (q : σ) (put : value.elim p (fun x => set p (some x)) = q)
    (rest : List (String × Document)) :
    fields slots depth none p (Document.draftMembers (Document.optional name value form ++ rest)) =
      fields slots depth none q (Document.draftMembers rest) :=
  fields_optional_kept known unset (fun x _ => reads x) q put rest

/-- What is made of an object when its members are read and no field that it demands is missing. -/
theorem record_object {start : σ} {finish : σ → α} (room : depth < depthLimit)
    {members : List (String × Document)} {outcome : Except Fault σ}
    (read : fields slots (depth + 1) none start (Document.draftMembers members) = outcome)
    (full : ∀ p, outcome = .ok p → slots.find? (fun s => s.required && !s.isSet p) = none) :
    record name slots start finish depth (Document.object members).draft = finish <$> outcome := by
  rw [Document.draft, record, deeper_of_lt room]
  change (fields slots (depth + 1) none start (Document.draftMembers members) >>= _) = _
  rw [read]
  cases outcome with
  | error f => rfl
  | ok p =>
    simp only [Outcome.ok_bind, full p rfl]
    rfl

end Records

/-! ### What readers ensure -/

def Ensures (r : Reader α) (P : α → Prop) : Prop := ∀ depth d x, r depth d = .ok x → P x

theorem ensures_nothing (r : Reader α) : Ensures r fun _ => True := fun _ _ _ _ => trivial

theorem mismatch_ne_ok (expected : String) (d : Draft) (x : α) : mismatch expected d ≠ .ok x := by
  intro h
  cases d with
  | number n =>
    rw [mismatch] at h
    split at h
    · cases h
    · obtain ⟨y, -, h⟩ := Outcome.bind_eq_ok_iff.1 h
      cases h
  | text q =>
    obtain ⟨s, -, h⟩ := Outcome.bind_eq_ok_iff.1 h
    cases h
  | _ => cases h

variable {r : Reader α} {P : α → Prop}

theorem items_ensures (ensures : Ensures r P) {depth : Nat} {ending : Option Stop} {ds : List Draft}
    {xs : List α} (h : items r depth ending ds = .ok xs) : ∀ x ∈ xs, P x := by
  induction ds generalizing xs with
  | nil =>
    obtain ⟨_, -, h⟩ := Outcome.bind_eq_ok_iff.1 h
    cases h
    exact List.forall_mem_nil _
  | cons d ds ih =>
    obtain ⟨x, first, h⟩ := Outcome.bind_eq_ok_iff.1 h
    obtain ⟨ys, others, h⟩ := Outcome.bind_eq_ok_iff.1 h
    cases h
    exact List.forall_mem_cons.2 ⟨ensures _ _ _ first, ih others⟩

theorem Ensures.list (ensures : Ensures r P) : Ensures (list r) fun xs => ∀ x ∈ xs, P x := by
  intro depth d xs h
  cases d with
  | array ds ending =>
    obtain ⟨_, -, h⟩ := Outcome.bind_eq_ok_iff.1 h
    exact items_ensures ensures h
  | _ =>
    unfold Reader.list at h
    exact (mismatch_ne_ok _ _ _ h).elim

def Slot.Keeps (s : Slot σ) (Q : σ → Prop) : Prop :=
  ∀ depth d p p', Q p → s.read depth d p = .ok p' → Q p'

/-- A field that is put by `set` keeps what `set` keeps for the values that its reader gives. -/
theorem slot_keeps (ensures : Ensures r P) {Q : σ → Prop} {name : String} {required : Bool}
    {get : σ → Option α} {set : σ → α → σ} (put : ∀ p x, Q p → P x → Q (set p x)) :
    (slot name required r get set).Keeps Q := by
  intro depth d p p' hp h
  obtain ⟨x, read, rfl⟩ := Outcome.map_eq_ok_iff.1 h
  exact put p x hp (ensures depth d x read)

section Kept

variable {slots : List (Slot σ)} {Q : σ → Prop} {ending : Option Stop} {p p' : σ}

theorem fields_keeps (keeps : ∀ s ∈ slots, s.Keeps Q) {depth : Nat} {ms : List (Draft × Draft)}
    (start : Q p) (h : fields slots depth ending p ms = .ok p') : Q p' := by
  induction ms generalizing p with
  | nil =>
    obtain ⟨_, -, h⟩ := Outcome.bind_eq_ok_iff.1 h
    cases h
    exact start
  | cons m ms ih =>
    obtain ⟨k, d⟩ := m
    obtain ⟨name, -, h⟩ := Outcome.bind_eq_ok_iff.1 h
    split at h
    case h_1 s known =>
      split at h
      · cases h
      · obtain ⟨q, read, h⟩ := Outcome.bind_eq_ok_iff.1 h
        exact ih (keeps s (List.mem_of_find?_eq_some known) depth d p q start read) h
    case h_2 =>
      split at h
      · cases h
      · exact ih start h

theorem positions_keeps (keeps : ∀ s ∈ slots, s.Keeps Q) {expected : String} {depth index : Nat}
    {ds : List Draft} (start : Q p)
    (h : positions expected depth ending index slots p ds = .ok p') : Q p' := by
  induction slots generalizing index p ds with
  | nil =>
    cases ds with
    | nil =>
      obtain ⟨_, -, h⟩ := Outcome.bind_eq_ok_iff.1 h
      cases h
      exact start
    | cons d ds => cases h
  | cons s slots ih =>
    rw [List.forall_mem_cons] at keeps
    cases ds with
    | nil =>
      obtain ⟨_, -, h⟩ := Outcome.bind_eq_ok_iff.1 h
      split at h
      · cases h
      · exact ih keeps.2 start h
    | cons d ds =>
      obtain ⟨q, read, h⟩ := Outcome.bind_eq_ok_iff.1 h
      exact ih keeps.2 (keeps.1 depth d p q start read) h

end Kept

/-- What the start of a record has and its fields keep, a record is finished with. -/
theorem Ensures.record {slots : List (Slot σ)} {Q : σ → Prop} {name : String} {start : σ}
    {finish : σ → α} (starts : Q start) (keeps : ∀ s ∈ slots, s.Keeps Q)
    (finishes : ∀ p, Q p → P (finish p)) : Ensures (record name slots start finish) P := by
  intro depth d x h
  cases d with
  | object ms ending =>
    obtain ⟨_, -, h⟩ := Outcome.bind_eq_ok_iff.1 h
    obtain ⟨p, read, h⟩ := Outcome.bind_eq_ok_iff.1 h
    split at h
    · cases h
    · cases h
      exact finishes p (fields_keeps keeps starts read)
  | array ds ending =>
    obtain ⟨_, -, h⟩ := Outcome.bind_eq_ok_iff.1 h
    obtain ⟨p, read, h⟩ := Outcome.bind_eq_ok_iff.1 h
    cases h
    exact finishes p (positions_keeps keeps starts read)
  | _ =>
    unfold Reader.record at h
    exact (mismatch_ne_ok _ _ _ h).elim

theorem Ensures.read {bytes : Bytes} {x : α} (ensures : Ensures r P)
    (h : Json.read r bytes = .ok x) : P x := by
  obtain ⟨y, made, h⟩ := Outcome.bind_eq_ok_iff.1 h
  have same : y = x := by
    change (if (skipSpace (parse bytes).2).isEmpty then Except.ok y else _) = _ at h
    split at h
    · exact Except.ok.inj h
    · cases h
  exact same ▸ ensures _ _ _ made

end Json.Reader
end PluginFlow
