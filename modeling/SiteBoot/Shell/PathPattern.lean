import SiteBoot.Files.Tree
import SiteBoot.Shell.Pattern
/-!
Patterns for names of files: every step of a path is a pattern of its own.
-/

namespace SiteBoot.Shell

/-- Whether something in marked characters is a pattern and not only a text. -/
def isPattern (marked : List (Char × Bool)) : Bool :=
  marked.any fun (c, isQuoted) => !isQuoted && (c = '*' || c = '?' || c = '[')

/-- The names in a directory that are of the form of a step. Names that begin with a dot are not,
unless the step does too. -/
def matchingNames (files : FileTree) (directory : Chars) (step : List (Char × Bool)) :
    List Chars :=
  match files.find (if directory.isEmpty then "." else .ofChars directory) with
  | .ok (place, some .directory) =>
    let names := ['.'] :: ['.', '.'] :: (files.entries place).map fun (name, _) => name.toChars
    let parts := patternOf step
    let beginsWithDot := (step.head?.map Prod.fst) = some '.'
    names.filter fun name =>
      (name.head? ≠ some '.' || beginsWithDot) && matchesParts parts name
  | _ => []

/-- The paths that begin with a text and go on in the form of steps with slashes between them. -/
def matchingPaths (files : FileTree) : Nat → Chars → List (Char × Bool) → List Chars
  | 0, _, _ => []
  | bound + 1, start, rest =>
    let isSlash (c : Char × Bool) : Bool := c.1 = '/'
    let slashes := rest.takeWhile isSlash
    let start := start ++ slashes.map Prod.fst
    let rest := rest.drop slashes.length
    let step := rest.takeWhile (!isSlash ·)
    let after := rest.drop step.length
    if step.isEmpty then if start.isEmpty then [] else [start]
    else if isPattern step then
      (matchingNames files start step).flatMap fun name =>
        if after.isEmpty then [start ++ name]
        else
          match files.find (.ofChars (start ++ name)) with
          | .ok (_, some .directory) => matchingPaths files bound (start ++ name) after
          | _ => []
    else
      let path := start ++ step.map Prod.fst
      if after.isEmpty then
        match files.findLink (.ofChars path) with
        | .ok (_, some _) => [path]
        | _ => []
      else matchingPaths files bound path after

/-- Whether a text comes before another one, by the bytes. -/
def comesBefore : Chars → Chars → Bool
  | [], _ => true
  | _ :: _, [] => false
  | a :: as, b :: bs => a < b || (a = b && comesBefore as bs)

/-- The paths of the form of a pattern, in their order. -/
def pathsOf (files : FileTree) (marked : List (Char × Bool)) : List Chars :=
  if isPattern marked then
    (matchingPaths files (marked.length + 1) [] marked).mergeSort comesBefore
  else []

end SiteBoot.Shell
