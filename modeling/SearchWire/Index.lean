import SearchWire.Compiler.Body
import SearchWire.Document.Schema

/-!
# Index registry

An index knows document types by name. A name that was never registered
resolves to a schema-less document, made on first use and kept, unless the
settings forbid it. Every registration has a stamp of its own, by which two
look-ups can be told to have found the same one.
-/

namespace SearchWire

structure Registration where
  stamp : Nat
  document : Document

structure Index where
  settings : IndexSettings
  registrations : Entries Registration
  /-- Above every stamp in use. -/
  nextStamp : Nat

namespace Index

def new (settings : IndexSettings) : Index := ⟨settings, [], 0⟩

def named (name : String) : Index := new (.named name)

def register (index : Index) (document : Document) : Index :=
  { index with
    registrations := Entries.put document.docType ⟨index.nextStamp, document⟩ index.registrations
    nextStamp := index.nextStamp + 1 }

/-- A registration, and the index after the look-up. -/
def lookup (index : Index) (name : String) : Result Registration × Index :=
  match Entries.get? name index.registrations with
  | some registration => (.ok registration, index)
  | none =>
    if index.settings.dynamicDocuments then
      (.ok ⟨index.nextStamp, .schemaless name⟩, index.register (.schemaless name))
    else
      (.error (.validation ("document type `" ++ name ++ "` is not registered on index `" ++
        index.settings.name ++ "`")), index)

def docTypes (index : Index) : List String :=
  (Entries.keys index.registrations).mergeSort (fun a b => decide (a ≤ b))

def query (index : Index) : Search := Search.empty.withConfig index.settings.config

def searchBody (index : Index) (search : Search) : Result Json := search.compile index.settings.config

def putMapping (index : Index) (name : String) : Result Json × Index :=
  let (found, index) := index.lookup name
  (found.bind (·.document.compile index.settings.config), index)

end Index

end SearchWire
