import OverlayShell.Bindings
import OverlayShell.Text.Layout
import OverlayShell.Text.Letter
import OverlayShell.Text.Pieces
import OverlayShell.Tree.Entry

/-!
# Statistics

How many files of each extension there are, how many lines they have, and what technologies they
mention. Empty files are counted in the number of files only.
-/

namespace OverlayShell

structure TreeStats where
  totalFiles : Int
  /-- The number of files with content under each extension, in order of first use. -/
  byExtension : Bindings String Int
  totalLines : Int
  technologies : List String
  fileTypes : List String

/-- The extension under which a file is counted: what stands behind the last dot of its whole
`key`. -/
def countedExtension (key : String) : String :=
  match Text.splitLast '.' key with
  | (none, _) => "unknown"
  | (some _, extension) => Text.lower extension

def extensionKinds : String → List String × List String
  | "ts" | "tsx" => (["TypeScript"], ["TypeScript"])
  | "js" | "jsx" => (["JavaScript"], ["JavaScript"])
  | "css" => (["CSS"], ["Stylesheet"])
  | "json" => ([], ["JSON"])
  | "md" => ([], ["Markdown"])
  | _ => ([], [])

def technologyMarkers : List (String × List String) := [
  ("Next.js", ["Next.js", "next"]),
  ("React", ["React", "react"]),
  ("Tailwind CSS", ["Tailwind", "tailwind"]),
  ("Node.js", ["Node", "node"])]

def mentionedTechnologies (content : String) : List String :=
  (technologyMarkers.filter fun (_, markers) => markers.any (Text.contains · content)).map Prod.fst

def treeStats (files : List File) : TreeStats :=
  let counted := files.filter (!·.content.isEmpty)
  let extensions := counted.map fun f => countedExtension f.name
  { totalFiles := files.length
    byExtension := extensions.foldl (fun b e => b.put e ((b.get? e).getD 0 + 1)) .empty
    totalLines := counted.foldl (fun total f => total + (Text.lines f.content).length) 0
    technologies :=
      (counted.flatMap fun f =>
        (extensionKinds (countedExtension f.name)).1 ++ mentionedTechnologies f.content).eraseDups
    fileTypes := (extensions.flatMap fun e => (extensionKinds e).2).eraseDups }

/-- The `names` with commas between them, or `missing` if that leaves nothing. -/
def listedOr (missing : String) (names : List String) : String :=
  let listed := Text.join ", " names
  if listed.isEmpty then missing else listed

def TreeStats.summary (s : TreeStats) : List String :=
  let sorted := s.byExtension.entries.mergeSort fun a b => b.2 ≤ a.2
  [ "Project Statistics",
    "",
    "  Total Files:   " ++ Text.intText s.totalFiles,
    "  Total Lines:   " ++ Text.groupedIntText s.totalLines,
    "  By Extension:  " ++ listedOr "none" (sorted.map fun (e, n) => e ++ ": " ++ Text.intText n),
    "  Technologies:  " ++ listedOr "None detected" s.technologies ]

end OverlayShell
