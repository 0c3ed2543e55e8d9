import Caseflow.Json.Reading
import Caseflow.Schema.Scope

/-!
# Schemas in a directory

A directory of files serves schemas by the last part of their address.
-/
namespace Caseflow.Schema

inductive FetchError
  | notFound (uri : String)
  | unreadable (uri : String)
  | malformed (uri : String)
deriving DecidableEq, Repr

def FetchError.message : FetchError → String
  | notFound uri => s!"schema '{uri}' not found"
  | unreadable uri => s!"failed to read schema '{uri}'"
  | malformed uri => s!"schema '{uri}' is not valid JSON"

/-- The last part of an address that is not empty. -/
def fileName? (uri : String) : Option String :=
  ((Text.split '/' uri).filter (· != "")).getLast?

def isDirectoryName (name : String) : Bool := name == "." || name == ".."

def fetch (files : Dict String) (uri : String) : Except FetchError Json :=
  match fileName? uri with
  | none => .error (.notFound uri)
  | some name =>
    if isDirectoryName name then .error (.unreadable uri)
    else
      match files.get? name with
      | none => .error (.notFound uri)
      | some text =>
        match Json.parse? text with
        | some v => .ok v
        | none => .error (.malformed uri)

/-- The documents that a directory serves for the addresses asked for so far, and so on for the
addresses that these name. Every round but the last adds a document; the fuel bounds the rounds. -/
def gather (files : Dict String) (root : Json) : Nat → Dict Json → Dict Json
  | 0, documents => documents
  | fuel + 1, documents =>
    let asked := (Scope.compile root documents).2
    let found := asked.filterMap fun uri =>
      if documents.contains uri then none else (fetch files uri).toOption.map (uri, ·)
    if found.isEmpty then documents
    else gather files root fuel
      (found.foldl (fun documents p => documents.insert p.1 p.2) documents)

def documentsOf (files : Dict String) (root : Json) : Dict Json :=
  let texts := files.entries.filterMap fun p => Json.parse? p.2
  let addresses := (texts.flatMap (remoteUris [])).length
  gather files root ((remoteUris [] root).length + addresses + 1) .empty

end Caseflow.Schema
