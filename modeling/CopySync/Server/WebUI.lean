import CopySync.Foundation.Path

/-!
# Web UI of the relay server

The catch-all route of the HTTP server (`internal/webui`): a request for a file of the
embedded directory goes to the file server, and every other path is answered with
`index.html`, so that client-side routing works.
-/

namespace CopySync.Server

/-- Status code and body of an HTTP response. -/
structure Reply where
  code : Nat
  body : List UInt8
  deriving DecidableEq, Repr

/-- The embedded directory: what the file server answers for a name `fs.Stat` finds, and the
content of `index.html`. -/
structure Dist where
  serve : String → Option Reply
  index : Option (List UInt8)

namespace Webui

/-- The name of a path in the directory. -/
def assetName (path : String) : String :=
  match path.toList with
  | '/' :: name => String.ofList name
  | _ => path

def handler (dist : Dist) (path : String) : Reply :=
  match if path = "/" then none else dist.serve (assetName path) with
  | some reply => reply
  | none =>
      match dist.index with
      | some data => ⟨200, data⟩
      | none => ⟨404, Foundation.bytesOf "admin UI not built\n"⟩

end Webui

end CopySync.Server
