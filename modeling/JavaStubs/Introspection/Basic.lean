import JavaStubs.World

/-!
Introspection: finding the description of a type by its name. An introspector describes types of
any kind; `implementable` adds the check that a class can implement the type.

The simplest introspector is a catalog: described types by their canonical names. A catalog is made from
descriptor documents, and of two types with one name the later one counts.
-/
namespace JavaStubs

/-- A way to find the description of a type by its name. -/
abbrev Introspector := String → Job Interface

namespace Introspection

/-- Refuses types that no generated class can implement. -/
def requireImplementable (type : Interface) : Except InputCause Interface :=
  if !type.isInterface then .error (.notInterface type.canonicalName)
  else if type.isPrivate then .error (.privateInterface type.canonicalName)
  else .ok type

/-- The description of a type that a class can implement. -/
def implementable (introspector : Introspector) (name : String) : Job Interface := do
  let type ← introspector name
  Job.ofExcept ((requireImplementable type).mapError .input)

end Introspection

/-! ## Catalogs -/

/-- Described types by canonical name. -/
abbrev Catalog := List (String × Interface)

namespace Catalog

/-- The catalog with one more type, in the place of an older one of its name. -/
def register (catalog : Catalog) (type : Interface) : Catalog :=
  (type.canonicalName, type) :: catalog

def ofTypes (types : List Interface) : Catalog := types.foldl register []

/-- The type of a name. -/
def get (catalog : Catalog) (name : String) : Except InputCause Interface :=
  match catalog.lookup name with
  | some type => .ok type
  | none => .error (.unknownType name)

def introspector (catalog : Catalog) : Introspector := fun name =>
  Job.ofExcept ((catalog.get name).mapError .input)

/-- The catalog of documents given by value. -/
def ofValues (values : List Value) : Except InputCause Catalog := do
  return ofTypes (← values.mapM fun value => (Document.interface none value).mapError .malformed)

/-- The type that the document in a file describes. -/
def load (path : Path) : Job Interface := do
  let (location, content) ← Job.onDisk (Disk.openFile path)
  let base := Location.path location.tail
  Job.ofExcept ((Document.read path base content.toBytes).mapError .document)

/-- The type that the document in a file describes, as an input that a catalog is made from. -/
def loadInput (document : String) : Job Interface :=
  tryCatch (load (Path.ofText document)) fun
    | .file (.os fault) => throw (.input (.unreadable document fault))
    | .document fault =>
      if fault.isFormat then throw (.input (.faulty document fault)) else throw (.document fault)
    | fault => throw fault

/-- The catalog of the documents in files. -/
def ofFiles (documents : List String) : Job Catalog := do
  return ofTypes (← documents.mapM loadInput)

end Catalog
end JavaStubs
