import CommandShell.Standalone
import Std.Time.DateTime.Timestamp

/-! The command line: it takes what the shell needs from the system, hands lines to it one by one,
shows what it writes and stores the files it changes. -/

namespace CommandShell.Main

open KeyValue (Store)

def decode (bytes : ByteArray) : String := (Text.Utf8.decodePrefix bytes.toList).1

def readText (path : String) : IO String := do
  try
    return decode (← IO.FS.readBinFile path)
  catch _ => return ""

/-- What stands at a path; anything that is there and cannot be read as a file is taken for a
directory. -/
def nodeAt (path : String) : IO (Option Node) := do
  try
    return some (.file (← IO.FS.readBinFile path).toList)
  catch
    | .noFileOrDirectory .. => return none
    | _ => return some .directory

def placesAlong (path : String) : List String :=
  let names := Location.parts path
  (List.range names.length).map fun n => Location.ofNames (names.take (n + 1))

def collect (nodes : Entries Node) (path : String) : IO (Entries Node) := do
  let mut nodes := nodes
  for place in placesAlong path do
    if let some node ← nodeAt place then
      nodes := Entries.put nodes place node
  return nodes

def filesAt (paths : List String) : IO Files := do
  return ⟨← paths.foldlM collect []⟩

def store (before after : Files) : IO Unit := do
  for (path, node) in after.nodes do
    if Entries.find? before.nodes path != some node then
      match node with
      | .directory => IO.FS.createDir path
      | .file bytes => IO.FS.writeBinFile path ⟨bytes.toArray⟩

/-- The number of the account that runs the process, after its label in a table of the system. -/
def ownNumber (status : String) : String :=
  let fields := (Text.parts '\n' status).map (Text.parts '\t')
  (fields.findSome? fun | "Uid:" :: own :: _ => some own | _ => none).getD ""

def surroundings : IO Surroundings := do
  let environment := Surroundings.variablesOf (← readText "/proc/self/environ")
  let temporary := ["TMPDIR", "TEMP", "TMP"].findSome? (Entries.find? environment)
  let accounts := Surroundings.accountsOf (← readText "/etc/passwd")
  let own := ownNumber (← readText "/proc/self/status")
  return {
    directory := (← IO.currentDir).toString
    temporary := temporary.getD "/tmp"
    environment := environment
    homes := Entries.ofList (accounts.map fun (user, _, home) => (user, home))
    ownHome := (accounts.find? fun (_, number, _) => number == own).map fun (_, _, home) => home
    loops := [] }

def stamp : IO String := do
  let seconds := (← Std.Time.Timestamp.now).toSecondsSinceUnixEpoch.val.toNat
  return (Moment.ofSeconds seconds).text " " ++ " "

/-- The failure of the system to follow a link that leads back to itself. -/
def loopNumber : UInt32 := 0 - 40

def leadsBack (path : String) : IO Bool := do
  try
    discard (IO.FS.readBinFile path)
    return false
  catch
    | .invalidArgument _ number _ => return number == loopNumber
    | _ => return false

/-- The files of the settings and those that the settings name, and the links on the way to these
that lead nowhere. -/
def filesFor (around : Surroundings) : IO (Surroundings × Files) := do
  let sources := [".env", "config.ini", "config.json", "config.toml"].map
    (Location.join around.directory)
  let files ← filesAt sources
  match Settings.load files around.directory around around.environment [] with
  | .error _ => return (around, files)
  | .ok settings =>
    let paths := settings.historyPath :: settings.logFilePath.toList
    let loops ← (paths.flatMap placesAlong).filterM leadsBack
    return ({ around with loops }, ← filesAt (sources ++ paths))

structure Running where
  session : Session Store
  shown : Nat
  shownErrors : Nat

def showFrom (stream : IO.FS.Stream) (shown : Nat) (written : String) : IO Nat := do
  stream.putStr (String.ofList (written.toList.drop shown))
  stream.flush
  return written.length

namespace Running

def showNew (r : Running) : IO Running := do
  let shown ← showFrom (← IO.getStdout) r.shown r.session.output.written
  let shownErrors ← showFrom (← IO.getStderr) r.shownErrors r.session.journal.console
  return { r with shown, shownErrors }

def perform {α : Type} (r : Running) (x : SessionM Store α) :
    IO (Except Raised α × Running) := do
  let now ← stamp
  match x { r.session with journal := { r.session.journal with stamp := now } } with
  | .ok a s => return (.ok a, ← { r with session := s }.showNew)
  | .error e s => return (.error e, ← { r with session := s }.showNew)

def showPrompt (r : Running) : IO Running := do
  match Session.prompt true r.session with
  | .ok _ s => return { r with shown := (← { r with session := s }.showNew).shown }
  | .error _ _ => return r

partial def turns (r : Running) : IO (Except Raised SessionExit × Running) := do
  let r ← r.showPrompt
  let line ← (← IO.getStdin).getLine
  let event : Except Raised String :=
    if line.isEmpty then .error Standalone.endOfInput
    else .ok (String.ofList (if line.endsWith "\n" then line.toList.dropLast else line.toList))
  match ← r.perform (Session.turn true event 1) with
  | (.ok none, r) => r.turns
  | (.ok (some exit), r) => return (.ok exit, r)
  | (.error e, r) => return (.error e, r)

def run (r : Running) (settings : Settings) : IO (Except Raised SessionExit × Running) := do
  match ← r.perform (do Standalone.welcome settings; Session.begin) with
  | (.error e, r) => return (.error e, r)
  | (.ok false, r) => r.perform (Session.leave .notPrepared)
  | (.ok true, r) =>
    let (_, r) ← r.perform (Session.setUpEditor (Standalone.plainScript [] Standalone.endOfInput))
    let (result, r) ← r.turns
    r.perform (do Session.leave (← Session.conclude result))

end Running

def statusOf (ending : Except Raised Nat) : IO UInt32 := do
  match ending with
  | .ok code | .error (.interrupt (.exit (.status code))) => return UInt32.ofNat code
  | .error (.interrupt (.keyboard _)) => return 130
  | .error (.interrupt (.exit (.text message))) =>
    (← IO.getStderr).putStrLn message
    return 1
  | .error e =>
    (← IO.getStderr).putStrLn (e.described.toOption.getD "<exception str() failed>")
    return 1

end CommandShell.Main

open CommandShell CommandShell.Main in
def main : IO UInt32 := do
  let (around, files) ← filesFor (← surroundings)
  let host : Standalone.Host := ⟨around, files, ← stamp, ← (← IO.getStdout).isTty⟩
  match Standalone.start host with
  | .error refusal =>
    (← IO.getStderr).putStr refusal.errors
    store files refusal.files
    statusOf refusal.ending
  | .ok (settings, session) =>
    let (ending, r) ← (Running.mk session 0 0).run settings
    store files r.session.files
    statusOf (ending.map SessionExit.code)
