import CitationNotes.Command.Run

/-!
The command line: what the arguments may name is read in, and what has been written is written
out.
-/

namespace CitationNotes.Command

def isDirectory (path : Text) : IO Bool := do
  try
    (← IO.FS.realPath (String.ofList path)).isDir
  catch _ => return false

/-- The arguments as paths, and what is attached to an option. -/
def candidates (args : List Text) : List Text :=
  args.flatMap fun a => [a, a.drop 2, (a.dropWhile (· != '=')).drop 1]

/-- The paths on the way to a path, and the path. -/
def pathsTo (path : Text) : List Text :=
  let ns := Files.names path
  (List.range (ns.length + 1)).map fun k => Text.join ['/'] (ns.take k)

/-- The files among the paths, and the directories on the way to them. -/
def gather (paths : List Text) : IO Files := do
  let mut files : Files := ⟨[], []⟩
  for path in paths do
    for p in pathsTo path do
      if !p.isEmpty then
        if ← isDirectory p then
          files := { files with directories := p :: files.directories }
    try
      let content ← IO.FS.readFile (String.ofList path)
      files := { files with contents := files.contents ++ [(path, content.toList)] }
    catch _ => pure ()
  return files

/-- Writes the files that differ from what they were. -/
def save (old new : Files) : IO Unit := do
  for (path, content) in new.contents do
    if old.content? (Files.place path) != some content then
      IO.FS.writeFile (String.ofList path) (String.ofList content)

end CitationNotes.Command

open CitationNotes

def main (args : List String) : IO UInt32 := do
  let args := args.map String.toList
  let files ← Command.gather (Command.candidates args)
  let outcome := Command.execute files args
  Command.save files outcome.files
  (← IO.getStdout).putStr (String.ofList outcome.stdout)
  (← IO.getStderr).putStr (String.ofList outcome.stderr)
  return outcome.code.toUInt32
