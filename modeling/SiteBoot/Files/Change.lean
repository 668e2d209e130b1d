import SiteBoot.Files.Tree
/-!
Changes to a file tree: nodes that are put in place, then paths that go.
-/

namespace SiteBoot

/-- Nodes to put at paths, and paths to remove after that. -/
structure FileChange where
  written : List (RawText × Node)
  removed : List RawText

def FileChange.nothing : FileChange := ⟨[], []⟩

def FileTree.change (files : FileTree) (change : FileChange) : FileTree :=
  let written := change.written.foldl (fun files (path, node) => files.install path node) files
  change.removed.foldl FileTree.remove written

end SiteBoot
