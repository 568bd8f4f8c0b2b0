import JavaStubs.Files.Tree

/-!
Surveys of a directory: everything that lies below it, in the order of the paths from there. A file
that begins like an archive is told by its entries, so a survey fails where such a file is damaged.
-/
namespace JavaStubs

/-- What a survey tells of an entry. -/
inductive Surveyed where
  | directory
  | link (target : String)
  | archive (entries : List ArchiveEntry)
  | bytes (bytes : ByteArray)

/-- Whether bytes begin with an entry of an archive, or with the end of one. -/
def Archive.isBegun (bytes : List UInt8) : Bool := isMarked 3 4 bytes || isMarked 5 6 bytes

/-- What a survey tells of the content of a file. -/
def Content.surveyed : Content → Except ArchiveFault Surveyed
  | .archive entries => .ok (.archive entries)
  | content => do
    let bytes := content.toBytes
    if Archive.isBegun bytes.toList then return .archive (← Archive.read bytes.toList)
    return .bytes bytes

/-- What a survey tells of an entry; the host's own entries count as empty files. -/
def Entry.surveyed : Entry → Except ArchiveFault Surveyed
  | .directory => .ok .directory
  | .link target => .ok (.link target)
  | .file content => content.surveyed
  | _ => .ok (.bytes .empty)

/-- What lies below a directory. -/
def FileTree.survey (tree : FileTree) (directory : Location) :
    Except ArchiveFault (List (String × Surveyed)) :=
  let found := (tree.below directory).map fun (location, entry) =>
    (Text.joined "/" (location.reverse.drop directory.length), entry)
  (found.mergeSort fun a b => a.1 ≤ b.1).mapM fun (path, entry) => do
    return (path, ← entry.surveyed)

end JavaStubs
