import GrammarProject.Command

/-!
# The program

Reads files into a file tree, runs the command that the arguments name, and writes its transcript.
The tree holds what is below the working directory and below the directories that the arguments
name; files elsewhere are not seen.
-/

namespace GrammarProject

def usage : String :=
  "Usage: grammarproject inspect [--target go|plain] [--json] [--verbose] DESCRIPTOR\n" ++
  "       grammarproject scan [--target go|plain] [--name NAME] [--verbose] ROOT\n" ++
  "       grammarproject --version\n"

def textOfPlace (place : Location) : String := "/" ++ "/".intercalate place

/-- The places that the arguments may lead to, and the working directory. -/
def placesOfArguments (here : Location) (args : List String) : List Location :=
  here :: (args.filter (!·.startsWith "-")).map ((FileTree.mk [] here).placeOf ∘ Path.ofString)

end GrammarProject

open GrammarProject
open scoped GrammarProject.Platform

def main (args : List String) : IO UInt32 := do
  let directory ← IO.currentDir
  let here := (Path.ofString directory.toString).parts
  let mut entries : List (Location × Node) := []
  for place in placesOfArguments here args do
    let path := directory / textOfPlace place
    let root := if ← path.isDir then path else directory / textOfPlace place.dropLast
    if (← root.isDir) && (place = here || !(here.isPrefixOf place)) then
      for file in ← root.walkDir do
        let place := (Path.ofString file.toString).parts
        if ← file.isDir then entries := (place, .directory) :: entries
        else
          let content ← IO.FS.readBinFile file
          entries := (place, .file content.toList) :: entries
  let transcript := Command.run ⟨entries, here⟩ args
  IO.print transcript.standardOutput
  match transcript.ending with
  | .refused => IO.eprint usage
  | .escaped report => IO.eprint (transcript.standardError ++ report.message ++ "\n")
  | _ => IO.eprint transcript.standardError
  return UInt32.ofNat transcript.ending.exitCode
