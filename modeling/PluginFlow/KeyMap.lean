/-!
Maps from texts to values, kept in the order of their keys. Two maps with the same
look-ups are equal, so a map has one written form.
-/

namespace PluginFlow

structure KeyMap (α : Type) where
  entries : List (String × α)
  ordered : (entries.map (·.1)).Pairwise (· < ·)

namespace KeyMap

variable {α : Type}

instance [DecidableEq α] : DecidableEq (KeyMap α) := fun a b =>
  decidable_of_iff (a.entries = b.entries) (by cases a; cases b; simp)

def empty : KeyMap α := ⟨[], .nil⟩

instance : Inhabited (KeyMap α) := ⟨empty⟩

def keys (m : KeyMap α) : List String := m.entries.map (·.1)

def size (m : KeyMap α) : Nat := m.entries.length

def isEmpty (m : KeyMap α) : Bool := m.entries.isEmpty

def lookup (key : String) : List (String × α) → Option α
  | [] => none
  | (k, v) :: rest => if key = k then some v else lookup key rest

def get? (m : KeyMap α) (key : String) : Option α := lookup key m.entries

def contains (m : KeyMap α) (key : String) : Bool := (m.get? key).isSome

def insertEntry (key : String) (value : α) : List (String × α) → List (String × α)
  | [] => [(key, value)]
  | (k, v) :: rest =>
    if key < k then (key, value) :: (k, v) :: rest
    else if key = k then (key, value) :: rest
    else (k, v) :: insertEntry key value rest

theorem mem_keys_insertEntry {key x : String} {value : α} {es : List (String × α)} :
    x ∈ (insertEntry key value es).map (·.1) ↔ x = key ∨ x ∈ es.map (·.1) := by
  induction es with
  | nil => simp [insertEntry]
  | cons e es ih =>
    obtain ⟨k, v⟩ := e
    by_cases h₁ : key < k
    · simp [insertEntry, h₁]
    · by_cases h₂ : key = k
      · simp [insertEntry, h₂]
      · simp only [insertEntry, h₁, h₂, if_false, List.map_cons, List.mem_cons, ih]
        exact or_left_comm

theorem insertEntry_ordered (key : String) (value : α) {es : List (String × α)}
    (h : (es.map (·.1)).Pairwise (· < ·)) :
    ((insertEntry key value es).map (·.1)).Pairwise (· < ·) := by
  induction es with
  | nil => simp [insertEntry]
  | cons e es ih =>
    obtain ⟨k, v⟩ := e
    simp only [List.map_cons, List.pairwise_cons] at h
    by_cases h₁ : key < k
    · simp only [insertEntry, h₁, if_true, List.map_cons, List.pairwise_cons, List.mem_cons]
      refine ⟨?_, h⟩
      rintro x (rfl | hx)
      · exact h₁
      · exact String.lt_trans h₁ (h.1 x hx)
    · by_cases h₂ : key = k
      · subst h₂
        simpa [insertEntry, String.lt_irrefl] using h
      · simp only [insertEntry, h₁, h₂, if_false, List.map_cons, List.pairwise_cons]
        refine ⟨fun x hx => ?_, ih h.2⟩
        rcases mem_keys_insertEntry.1 hx with rfl | hx
        · exact String.not_le.1 fun h => h₂ (String.le_antisymm h (String.not_lt.1 h₁))
        · exact h.1 x hx

def insert (m : KeyMap α) (key : String) (value : α) : KeyMap α :=
  ⟨insertEntry key value m.entries, insertEntry_ordered key value m.ordered⟩

def erase (m : KeyMap α) (key : String) : KeyMap α :=
  ⟨m.entries.filter (·.1 ≠ key), m.ordered.sublist (List.filter_sublist.map _)⟩

def update (m : KeyMap α) (key : String) (f : Option α → α) : α × KeyMap α :=
  (f (m.get? key), m.insert key (f (m.get? key)))

def insertAll (m : KeyMap α) (es : List (String × α)) : KeyMap α :=
  es.foldl (fun m e => m.insert e.1 e.2) m

/-- The last entry with a key stays. -/
def ofList (es : List (String × α)) : KeyMap α := empty.insertAll es

def mapValues {β : Type} (f : α → β) (m : KeyMap α) : KeyMap β :=
  ⟨m.entries.map fun e => (e.1, f e.2), by simpa [List.map_map, Function.comp_def] using m.ordered⟩

theorem lookup_insertEntry (key x : String) (value : α) (es : List (String × α)) :
    lookup x (insertEntry key value es) = if x = key then some value else lookup x es := by
  induction es with
  | nil => simp [insertEntry, lookup]
  | cons e es ih =>
    obtain ⟨k, v⟩ := e
    by_cases h₁ : key < k
    · simp [insertEntry, h₁, lookup]
    · by_cases h₂ : key = k
      · subst h₂
        by_cases hx : x = key <;> simp [insertEntry, lookup, hx]
      · simp only [insertEntry, h₁, h₂, if_false, lookup, ih]
        by_cases hx : x = k
        · subst hx; simp [Ne.symm h₂]
        · simp [hx]

@[simp] theorem get?_insert (m : KeyMap α) (key x : String) (value : α) :
    (m.insert key value).get? x = if x = key then some value else m.get? x :=
  lookup_insertEntry key x value m.entries

@[simp] theorem get?_empty (x : String) : (empty : KeyMap α).get? x = none := rfl

theorem get?_insertAll_of_not_mem {m : KeyMap α} {es : List (String × α)} {key : String}
    (h : key ∉ es.map (·.1)) : (m.insertAll es).get? key = m.get? key := by
  induction es generalizing m with
  | nil => rfl
  | cons e es ih =>
    rw [List.map_cons, List.mem_cons, not_or] at h
    exact (ih h.2).trans ((get?_insert m e.1 key e.2).trans (if_neg h.1))

theorem lookup_filter_ne (key x : String) (es : List (String × α)) :
    lookup x (es.filter (·.1 ≠ key)) = if x = key then none else lookup x es := by
  induction es with
  | nil => simp [lookup]
  | cons e es ih =>
    obtain ⟨k, v⟩ := e
    by_cases hk : k = key <;> by_cases hx : x = key <;> by_cases hxk : x = k <;>
      simp_all [lookup]

theorem lookup_eq_none_iff {key : String} {es : List (String × α)} :
    lookup key es = none ↔ key ∉ es.map (·.1) := by
  induction es with
  | nil => simp [lookup]
  | cons e es ih => by_cases h : key = e.1 <;> simp_all [lookup]

/-- With each key once, leaving entries out leaves out their values and no others. -/
theorem lookup_filter {p : String × α → Bool} {es : List (String × α)}
    (h : (es.map (·.1)).Pairwise (· < ·)) (x : String) :
    lookup x (es.filter p) = (lookup x es).filter fun v => p (x, v) := by
  induction es with
  | nil => rfl
  | cons e es ih =>
    obtain ⟨k, v⟩ := e
    simp only [List.map_cons, List.pairwise_cons] at h
    have ih := ih h.2
    by_cases hx : x = k
    · subst hx
      have hn : lookup x es = none :=
        lookup_eq_none_iff.2 fun hm => String.lt_irrefl x (h.1 x hm)
      by_cases hp : p (x, v) = true
      · simp [hp, lookup, Option.filter_some]
      · simp [hp, lookup, ih, hn, Option.filter_some]
    · by_cases hp : p (k, v) = true
      · simp [hp, lookup, hx, ih]
      · simp [hp, lookup, hx, ih]

@[simp] theorem get?_erase (m : KeyMap α) (key x : String) :
    (m.erase key).get? x = if x = key then none else m.get? x :=
  lookup_filter_ne key x m.entries

theorem mem_keys_iff {key : String} {m : KeyMap α} : key ∈ m.keys ↔ (m.get? key).isSome := by
  rw [← Option.ne_none_iff_isSome, get?, Ne, lookup_eq_none_iff, Decidable.not_not, keys]

end KeyMap
end PluginFlow
