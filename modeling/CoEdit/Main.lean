import CoEdit.CommandLine.Run
import CoEdit.Json.Writer
import CoEdit.Server.Report

/-!
# The program

Runs the command that the arguments ask for. A command works on a picture of the machine's disk, which holds the files that the
configuration consists of and names; what the command changes in the picture is written to the disk afterwards.

A server that was started is told what to do by the lines of the standard input: `reload`, `status` and `shutdown`. The end of
the input stops it too.
-/

namespace CoEdit

namespace Machine

/-- What the machine has at a place. -/
def probe (p : Place) : IO (Option DiskEntry) := do
  match ← (IO.FS.readBinFile (Place.path p).text).toBaseIO with
  | .ok content => return some (.file content false)
  | .error (.inappropriateType ..) => return some .directory
  | .error _ => return none

/-- The picture with what is found on the way along the steps of a path. -/
def takeSteps (d : Disk) (here : Place) : List String → IO Disk
  | [] => return d
  | name :: rest => do
    let there := Disk.step here name
    match ← probe there with
    | some .directory => takeSteps (d.set there .directory) there rest
    | some e => return d.set there e
    | none => return d

/-- The picture with what a path leads to. -/
def takePath (d : Disk) (p : Path) : IO Disk := takeSteps d (if p.isAbsolute then [] else d.workingDirectory) (Disk.steps p)

/-- The files and directories that a configuration names. -/
def namedFiles (c : Config) : List Path :=
  let s := c.security
  [s.certificateFile, s.keyFile, s.certificateChain].filterMap id ++
    [c.storage.rootDirectory, AccountBook.file { root := c.storage.rootDirectory }]

/-- The picture of the files of a source, and of those that its configuration names. -/
def picture (env : Environment) (source : ConfigSource) : IO Disk := do
  let home := ((← IO.currentDir).toString.splitOn "/").filter (· ≠ "")
  let start ← takeSteps { entries := [], workingDirectory := home } [] home
  let d ← source.files.foldlM takePath start
  match source.read env d with
  | .ok c => (namedFiles c).foldlM takePath d
  | .error _ => return d

/-- Writes what a picture has gained over an earlier one. -/
def store (before after : Disk) : IO Unit := do
  for (place, entry) in after.entries.reverse do
    let path := (Place.path place).text
    match entry, before.entry? place with
    | .directory, none => IO.FS.createDirAll path
    | .directory, some _ => pure ()
    | .file content _, some (.file old _) => if content ≠ old then IO.FS.writeBinFile path content
    | .file content _, _ => IO.FS.writeBinFile path content

/-- The variables of the environment. -/
def environment : IO Environment := do
  match ← (IO.FS.readBinFile "/proc/self/environ").toBaseIO with
  | .error _ => return []
  | .ok content =>
    let entries := ((String.fromUTF8? content).getD "").splitOn "\x00"
    return entries.map fun e => (String.ofList (e.toList.takeWhile (· ≠ '=')), String.ofList ((e.toList.dropWhile (· ≠ '=')).drop 1))

end Machine

namespace Service

/-- Prints what was said on a host since an earlier state of it. -/
def tell (before after : Host) : IO Unit :=
  for u in { after with trace := after.trace.drop before.trace.length }.utterances do
    match u with
    | .log e => IO.println e.line
    | _ => pure ()

/-- Takes an event and prints what it is answered with. -/
def take (s : Service) (e : ServerEvent) : IO Service := do
  let (reply, loop, host) := s.loop.step s.host e
  tell s.host host
  Machine.store s.host.disk host.disk
  match reply with
  | .status status => IO.println status.toTree.toJson
  | _ => pure ()
  return { s with loop, host }

/-- Follows the lines of the input until the server stops. -/
partial def follow (s : Service) (input : IO.FS.Stream) : IO Unit := do
  let line ← input.getLine
  match line.trimAscii.toString with
  | "reload" =>
    let disk ← Machine.picture s.host.environment s.loop.source
    follow (← { s with host := { s.host with disk } }.take (.reload none)) input
  | "status" => follow (← s.take .status) input
  | "shutdown" => discard (s.take .shutdown)
  | _ => if line.isEmpty then discard (s.take .shutdown) else follow s input

end Service

/-- The files of configuration that a command reads. -/
def Command.source : Command → ConfigSource
  | .serve files _ _ _ => .ofFiles files
  | .validate files => .ofFiles files
  | _ => .layered []

end CoEdit

open CoEdit in
/-- Runs the command that the arguments ask for. -/
def main (args : List String) : IO UInt32 := do
  let environment ← Machine.environment
  let command := Command.ofArguments environment args
  let disk ← Machine.picture environment command.source
  let host : Host := { disk, environment, network := { hasSockets := true } }
  match command.run host with
  | .error result =>
    result.output.forM IO.println
    result.errors.forM (fun line => IO.eprintln line)
    return result.exitCode.toUInt32
  | .ok service =>
    Service.tell host service.host
    Machine.store disk service.host.disk
    service.follow (← IO.getStdin)
    return 0
