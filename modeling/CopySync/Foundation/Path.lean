import Mathlib.Data.List.Basic

/-!
# Texts as bytes, and lexical paths

Programs that build file names from remote input slice texts by bytes and join them
to directories.  A text is its UTF-8 encoding here; a path is a list of components,
kept clean while components are joined: empty and `.` components vanish and `..`
removes the last one.
-/

namespace CopySync.Foundation

/-- The UTF-8 bytes of a text. -/
def bytesOf (text : String) : List UInt8 := text.toList.flatMap String.utf8EncodeChar

/-- A lexically clean path. -/
structure Path where
  rooted : Bool
  components : List (List UInt8)
  deriving DecidableEq, Repr

/-- Split at slashes. -/
def splitPath : List UInt8 → List (List UInt8)
  | [] => [[]]
  | byte :: rest =>
      if byte = 47 then [] :: splitPath rest
      else
        match splitPath rest with
        | [] => [[byte]]
        | first :: more => (byte :: first) :: more

namespace Path

/-- Append one component: empty and `.` components vanish, `..` removes the last
component, and is kept only at the start of a relative path. -/
def step (path : Path) (component : List UInt8) : Path :=
  if component = [] ∨ component = [46] then path
  else if component = [46, 46] then
    match path.components.getLast? with
    | none => if path.rooted then path else { path with components := [[46, 46]] }
    | some last =>
        if last = [46, 46] then { path with components := path.components ++ [[46, 46]] }
        else { path with components := path.components.dropLast }
  else { path with components := path.components ++ [component] }

/-- Join a relative path, given as text. -/
def join (path : Path) (text : List UInt8) : Path :=
  (splitPath text).foldl step path

end Path

/-- Text without slashes is one component. -/
theorem splitPath_of_no_slash {text : List UInt8} (plain : ∀ byte ∈ text, byte ≠ 47) :
    splitPath text = [text] := by
  induction text with
  | nil => rfl
  | cons byte rest ih =>
      obtain ⟨head, others⟩ := List.forall_mem_cons.mp plain
      simp [splitPath, head, ih others]

/-- Joining a non-empty text without slashes and dots appends it. -/
theorem Path.join_plain (path : Path) {text : List UInt8}
    (plain : ∀ byte ∈ text, byte ≠ 47 ∧ byte ≠ 46) (nonempty : text ≠ []) :
    path.join text = { path with components := path.components ++ [text] } := by
  obtain ⟨byte, rest, rfl⟩ := List.exists_cons_of_ne_nil nonempty
  have head := (plain byte List.mem_cons_self).2
  rw [Path.join, splitPath_of_no_slash fun query membership => (plain query membership).1]
  simp [Path.step, head]

end CopySync.Foundation
