import CopySync.Desktop.Machine

/-!
# Desktop client: the clipboard watcher

One read of the OS clipboard compared with what the watcher has seen before.  The
watcher looks at each format on its own; when several are new it prefers an image to
files and files to text, and takes note of the others as they are.
-/

namespace CopySync.Desktop

open Foundation Client

/-- What stands in the command channel. -/
inductive Request where
  | localText (text : String) (html : Option String)
  | localImage (rgba : Bytes)
  | localFiles (paths : List String)
  | sendText (text : String)
  | sendFile (path : String)
  | setPool (name : String)
  deriving DecidableEq, Repr

def Cmd.request : Cmd → Request
  | .localText text html _ _ => .localText text html
  | .localImage picture _ => .localImage picture.rgba
  | .localFiles documents => .localFiles (documents.map (·.1.path))
  | .sendText text _ => .sendText text
  | .sendFile document _ => .sendFile document.path
  | .setPool name _ => .setPool name

structure ClipState where
  lastSeq : Option Nat
  lastText : String
  lastImg : String
  lastFiles : String
  deriving DecidableEq, Repr

def ClipState.new : ClipState := ⟨none, "", "", ""⟩

/-- What the OS answers to one read: the change counter where there is one, and each
format that could be read. -/
structure Reading where
  seq : Option Nat
  image : Option Bytes
  files : Option (List String)
  text : Option String
  html : Option String
  deriving DecidableEq, Repr

/-- `files.join("\u{1}")`. -/
def joinFiles (files : List String) : String := String.intercalate "\x01" files

/-- One read.  A generation in which no format could be read is looked at again. -/
def pollOnce (prims : Primitives) (state : ClipState) (reading : Reading) :
    ClipState × Option Request :=
  if reading.seq.any fun seq => decide (state.lastSeq = some seq) then (state, none)
  else
    let readOk := reading.image.isSome || reading.files.isSome || reading.text.isSome
    let lastSeq := if readOk then reading.seq.or state.lastSeq else state.lastSeq
    let text := (reading.text.filter (· != "")).getD ""
    let img := (reading.image.map prims.sha256Hex).getD ""
    let files := (reading.files.map joinFiles).getD ""
    match reading.image.filter fun rgba => prims.sha256Hex rgba != state.lastImg with
    | some rgba =>
        (⟨lastSeq, text, prims.sha256Hex rgba, files⟩, some (.localImage rgba))
    | none =>
        match reading.files.filter fun paths => joinFiles paths != state.lastFiles with
        | some paths => (⟨lastSeq, text, img, joinFiles paths⟩, some (.localFiles paths))
        | none =>
            match reading.text.filter fun text => text != "" && text != state.lastText with
            | some text =>
                ({ state with lastSeq, lastText := text },
                  some (.localText text (reading.html.filter (· != ""))))
            | none => ({ state with lastSeq }, none)

/-- A text the watcher reports is the one it has read. -/
theorem text_of_pollOnce {prims : Primitives} {state after : ClipState} {reading : Reading}
    {text : String} {html : Option String}
    (polled : pollOnce prims state reading = (after, some (.localText text html))) :
    reading.text = some text := by
  rw [pollOnce] at polled
  split at polled
  · cases polled
  · simp only at polled
    split at polled
    · cases polled
    · split at polled
      · cases polled
      · split at polled
        next found =>
          cases polled
          exact (Option.filter_eq_some_iff.mp found).1
        next => cases polled

end CopySync.Desktop
