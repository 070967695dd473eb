import PluginFlow.Value

/-!
Texts with placeholders. A placeholder is two opening braces, a key with blanks around it, and two
closing braces. A text is cut into segments once, whatever the state, and each placeholder is
replaced by the text of its state value; what is put in is not looked at again.
-/

namespace PluginFlow.Template

def isKeyChar (c : Char) : Bool :=
  ('a' ≤ c && c ≤ 'z') || ('A' ≤ c && c ≤ 'Z') || ('0' ≤ c && c ≤ '9') ||
    c == '_' || c == '.' || c == '-'

def opens : List Char → Bool
  | a :: b :: rest => (a == '\x7b' && b == '\x7b') || opens (b :: rest)
  | _ => false

/-- The key and the length of the placeholder at the start of a text. -/
def placeholder? (s : List Char) : Option (List Char × Nat) :=
  match s with
  | '\x7b' :: '\x7b' :: inner =>
    let fromKey := inner.dropWhile Text.isBlank
    let key := fromKey.takeWhile isKeyChar
    match (fromKey.dropWhile isKeyChar).dropWhile Text.isBlank with
    | '\x7d' :: '\x7d' :: rest => if key.isEmpty then none else some (key, s.length - rest.length)
    | _ => none
  | _ => none

/-- A part of a text: a character that stands for itself, or a placeholder with its own text. -/
inductive Segment
  | char (c : Char)
  | hole (source : List Char) (key : List Char)
  deriving DecidableEq

/-- Cuts a text from left to right after leaving out some characters. -/
def segmentsFrom : Nat → List Char → List Segment
  | _, [] => []
  | skip + 1, _ :: rest => segmentsFrom skip rest
  | 0, c :: rest =>
    match placeholder? (c :: rest) with
    | some (key, length) => .hole ((c :: rest).take length) key :: segmentsFrom (length - 1) rest
    | none => .char c :: segmentsFrom 0 rest

def segments (s : List Char) : List Segment := segmentsFrom 0 s

def stateKey (key : List Char) : String :=
  String.ofList ((Text.dropPrefix? "state.".toList key).getD key)

/-- The text put in for a segment. A key that the state does not hold leaves nothing. -/
def Segment.fill (state : KeyMap Value) : Segment → List Char
  | .char c => [c]
  | .hole _ key => (((state.get? (stateKey key)).map Value.toText).getD "").toList

def Segment.source : Segment → List Char
  | .char c => [c]
  | .hole s _ => s

theorem placeholder?_of_not_opens {s : List Char} (h : opens s = false) : placeholder? s = none := by
  unfold placeholder?
  split
  · simp [opens] at h
  · rfl

/-- A text without two opening braces in a row is cut into its characters. -/
theorem segments_eq_map {s : List Char} (h : opens s = false) : segments s = s.map .char := by
  unfold segments
  induction s with
  | nil => rfl
  | cons c rest ih =>
    have later : opens rest = false := by
      cases rest with
      | nil => rfl
      | cons b rest =>
        rw [opens, Bool.or_eq_false_iff] at h
        exact h.2
    rw [segmentsFrom, placeholder?_of_not_opens h, ih later]
    rfl

end PluginFlow.Template

namespace PluginFlow

/-- Replaces every placeholder by the text of its state value. A text without two opening braces in
a row is given back before it is cut. -/
def render (input : String) (state : KeyMap Value) : String :=
  if Template.opens input.toList then
    String.ofList ((Template.segments input.toList).flatMap (·.fill state))
  else input

theorem render_eq_fill (input : String) (state : KeyMap Value) :
    render input state =
      String.ofList ((Template.segments input.toList).flatMap (·.fill state)) := by
  unfold render
  split
  · rfl
  · rename_i plain
    have filled : (input.toList.map Template.Segment.char).flatMap (·.fill state) =
        input.toList := by
      rw [List.flatMap_map]
      exact List.flatMap_singleton' input.toList
    rw [Template.segments_eq_map (Bool.eq_false_iff.2 plain), filled, String.ofList_toList]

end PluginFlow
