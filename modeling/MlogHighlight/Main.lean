import MlogHighlight.CommandLine.Run

/-!
# The program

The outer layer of the command line: it looks at the file system, reads the standard input and
prints. What is to be printed is decided elsewhere.
-/

namespace MlogHighlight

/-- Why the system refuses a path. -/
def PathFault.ofError : IO.Error → PathFault
  | .noFileOrDirectory .. => .notFound
  | .inappropriateType .. => .notADirectory
  | .permissionDenied .. => .refused 13 "Permission denied"
  | e => .refused 5 (toString e)

namespace Program

/-- The tree below a directory, without the contents of its files. -/
partial def survey (directory : String) : IO Node := do
  let entries ← (System.mkFilePath [directory]).readDir
  let nodes ← entries.toList.mapM fun entry => do
    let node ← if ← entry.path.isDir then survey entry.path.toString else pure (Node.file [])
    return (entry.fileName.toList, node)
  return .directory nodes

/-- What is found at a path. -/
def look (path : String) : IO (Except PathFault Node) := do
  try
    if ← (System.mkFilePath [path]).isDir then return .ok (← survey path)
    else return .ok (.file (← IO.FS.readBinFile path).toList)
  catch e => return .error (.ofError e)

/-- The file system as far as some paths are concerned. -/
def observe (paths : List Text) : IO FileSystem := do
  let found ← paths.mapM fun path => return (path, ← look (String.ofList path))
  return fun path => (found.lookup path).getD (.error .notFound)

/-- All that a stream holds. -/
partial def readAll (input : IO.FS.Stream) (before : ByteArray) : IO ByteArray := do
  let octets ← input.read 65536
  if octets.isEmpty then return before else readAll input (before ++ octets)

/-- What a stream holds, read all at once. -/
def readInput (input : IO.FS.Stream) : IO CommandLine.Input := do
  try return .ofOctets (← readAll input .empty).toList
  catch e => return { text := [], fault := some (.refused 5 (toString e).toList) }

/-- Answers lines as they are typed. -/
partial def converse (table : RuleTable) (input output : IO.FS.Stream) : IO Unit := do
  output.putStr (String.ofList CommandLine.promptText)
  output.flush
  let line ← input.getLine
  if line.isEmpty then output.putStr "\n"
  else
    for typed in CommandLine.Input.lines line.toList do
      output.putStr (String.ofList (Prompt.answer table typed))
    converse table input output

/-- Prints an outcome; the result is the exit status. -/
def print (o : CommandLine.Outcome) : IO UInt32 := do
  (← IO.getStderr).putStr (String.ofList o.stderr)
  (← IO.getStdout).putStr (String.ofList o.stdout)
  match o.ending with
  | .exit status => return status.toUInt32
  | .crash e =>
    (← IO.getStderr).putStr (String.ofList (Text.endLine e.message))
    return 1

/-- Does what is asked for. -/
def fulfil (request : CommandLine.Request) : IO UInt32 := do
  let input ← IO.getStdin
  let terminal ← input.isTty
  let given ← observe (request.vocab.toList ++ request.files)
  let files ← observe (request.vocab.toList ++ request.files ++ given.expandAll request.files)
  let world (stdin : CommandLine.Input) : CommandLine.World := ⟨stdin, terminal, files⟩
  if request.test || request.rules then print (CommandLine.fulfil request (world { text := [] }))
  else if request.converses terminal then
    match request.table files with
    | .error outcome => print outcome
    | .ok (table, log) =>
      (← IO.getStderr).putStr (String.ofList log)
      converse table input (← IO.getStdout)
      return 0
  else if request.files.isEmpty then
    match request.table files with
    | .error outcome => print outcome
    | .ok _ => print (CommandLine.fulfil request (world (← readInput input)))
  else print (CommandLine.fulfil request (world { text := [] }))

end Program

end MlogHighlight

/-- Runs the program. -/
def main (arguments : List String) : IO UInt32 := do
  match MlogHighlight.CommandLine.Request.ofArguments (arguments.map (·.toList)) with
  | .error dismissal => MlogHighlight.Program.print (MlogHighlight.CommandLine.dismiss dismissal)
  | .ok request => MlogHighlight.Program.fulfil request
