import PluginFlow.KeyMap
import PluginFlow.Number.Layout
import PluginFlow.Text.Ascii

/-!
Binary contents of a package by path. A path is looked up without leading `./` and `/`.
-/

namespace PluginFlow

def dropLeading (p : List Char) : Nat → List Char → List Char
  | 0, s => s
  | tries + 1, s =>
    match Text.dropPrefix? p s with
    | some rest => dropLeading p tries rest
    | none => s

/-- A path without leading `./`, and after these without leading `/`. -/
def assetPath (path : String) : String :=
  let s := path.toList
  String.ofList ((dropLeading ['.', '/'] s.length s).dropWhile (· == '/'))

structure AssetTable where
  entries : KeyMap (List UInt8) := .empty

namespace AssetTable

instance : Inhabited AssetTable := ⟨{}⟩

def add (t : AssetTable) (path : String) (bytes : List UInt8) : AssetTable :=
  ⟨t.entries.insert (assetPath path) bytes⟩

def ofList (assets : List (String × List UInt8)) : AssetTable :=
  assets.foldl (fun t a => t.add a.1 a.2) {}

def get? (t : AssetTable) (path : String) : Option (List UInt8) := t.entries.get? (assetPath path)

def size (t : AssetTable) : Nat := t.entries.size

def describe (t : AssetTable) : String :=
  "AssetTable \x7b count: " ++ Number.intText t.size ++ " \x7d"

theorem get?_add (t : AssetTable) (path query : String) (bytes : List UInt8) :
    (t.add path bytes).get? query =
      if assetPath query = assetPath path then some bytes else t.get? query :=
  KeyMap.get?_insert t.entries (assetPath path) (assetPath query) bytes

end AssetTable
end PluginFlow
