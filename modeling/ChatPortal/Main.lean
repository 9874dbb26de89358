import ChatPortal.App.Program

/-!
# The command line

Lets the program run at a terminal: reads its files and its lines, shows what it prints, and
keeps the credential in its file.  There is no network, so nobody answers its calls.
-/

namespace ChatPortal.CommandLine

open Config Terminal

/-- What the system says about a failure. -/
def complaint : IO.Error → Trouble
  | .permissionDenied _ code details | .resourceExhausted _ code details
  | .inappropriateType _ code details | .invalidArgument _ code details
  | .noSuchThing _ code details | .alreadyExists _ code details
  | .noFileOrDirectory _ code details | .interrupted _ code details
  | .otherError code details | .resourceBusy code details
  | .resourceVanished code details | .unsupportedOperation code details
  | .hardwareFault code details | .unsatisfiedConstraints code details
  | .illegalOperation code details | .protocolError code details
  | .timeExpired code details => ⟨details ++ " (os error " ++ toString code ++ ")", []⟩
  | e => ⟨toString e, []⟩

/-- Something stands at a path. -/
def isFound (path : String) : IO Bool := do
  try
    discard (IO.FS.realPath path)
    return true
  catch _ => return false

/-- What stands at a path. -/
def placeAt (path : String) : IO Place := do
  try
    let bytes ← IO.FS.readBinFile path
    return .content bytes.toList
  catch
  | .noFileOrDirectory .. => return .absent
  | .inappropriateType _ 21 _ => return .directory
  | .inappropriateType .. => return .blocked
  | e => return if ← isFound path then .closed (complaint e) else .absent

/-- The first place of several where there is a file. -/
def firstFile : List String → IO Place
  | [] => return .absent
  | path :: paths => do
    match ← placeAt path with
    | .content bytes => return .content bytes
    | .closed trouble => return .closed trouble
    | _ => firstFile paths

/-- The variables of the process. -/
def environment : IO Environment := do
  let known ← ["HOME", "XDG_CONFIG_HOME", "XDG_CACHE_HOME", baseUrlName, localeName].filterMapM
    fun name => return (← IO.getEnv name).map (name, ·)
  match ← placeAt "/proc/self/environ" with
  | .content bytes =>
    let entries := (lossyText bytes).splitOn "\x00"
    return known ++ entries.filterMap fun entry =>
      match entry.splitOn "=" with
      | name :: first :: rest => some (name, "=".intercalate (first :: rest))
      | _ => none
  | _ => return known

/-- Makes the folder of the program. -/
def makeFolder (path : Option String) : IO (Except Trouble Unit) := do
  try
    path.forM fun path => IO.FS.createDirAll path
    return .ok ()
  catch
  | .alreadyExists .. => return .error Place.notDirectory
  | .inappropriateType .. => return .error Place.notDirectory
  | e => return .error (complaint e)

/-- What the program finds around it, and where its credential is kept. -/
def surroundings : IO (App.Surroundings × Option String) := do
  let folder := ((← IO.currentDir).toString.splitOn "/").filter (· != "")
  let found : App.Surroundings :=
    { environment := ← environment
      assignments := ← firstFile (assignmentsFiles folder.reverse) }
  let config := file? found.settings
  let cache := cache? found.settings
  let token := cache.map tokenFile
  let found :=
    { found with
      config := ← (config.map placeAt).getD (return .absent)
      token := ← (token.map placeAt).getD (return .absent) }
  if found.configuration.isOk then
    return ({ found with folder := ← makeFolder cache }, token)
  else
    return (found, token)

/-- Reads a line with the line feed at its end. -/
partial def readLine (stdin : IO.FS.Stream) (begun : Bytes) : IO Bytes := do
  match (← stdin.read 1).toList with
  | [] => return begun
  | b :: _ => if b = Text.lineFeed then return begun ++ [b] else readLine stdin (begun ++ [b])

/-- The line that a user enters. -/
def nextLine (stdin : IO.FS.Stream) : IO Line := do
  match ← readLine stdin [] with
  | [] => return .ended
  | bytes => return .ofBytes bytes

/-- The password that a user enters. -/
def nextPassword (stdin stdout : IO.FS.Stream) : IO (Except Trouble String) := do
  stdout.putStr "Password: "
  stdout.flush
  match ← readLine stdin [] with
  | [] => return .error ⟨"unexpected end of file", []⟩
  | bytes =>
    let text := Text.dropBack '\n' (lossyText bytes).toList
    return .ok (String.ofList (Text.dropBack '\r' text))

/-- Writes the credential to its file; if that fails the file is as it was. -/
def keep (path : Option String) (before after : Option Store) : IO Unit := do
  if before ≠ after then
    try
      match path, after with
      | some path, some (.file (.content bytes)) =>
        IO.FS.writeBinFile path (ByteArray.mk bytes.toArray)
      | some path, some (.file .absent) => IO.FS.removeFile path
      | _, _ => return
    catch _ => return

/-- Shows what was printed. -/
def display (stdout stderr : IO.FS.Stream) (screen : List (Stream × String)) : IO Unit :=
  screen.forM fun (stream, text) => do
    let shown := match stream with
      | .out => stdout
      | .err => stderr
    shown.putStr text
    shown.flush

/-- Lets the program run to its end; `seen` entries of its journal were shown before. -/
partial def converse (path : Option String) (seen : Nat) (app : App) : IO UInt32 := do
  let stdin ← IO.getStdin
  let stdout ← IO.getStdout
  let stderr ← IO.getStderr
  let journal : Client.Journal := app.client.journal.drop seen
  display stdout stderr journal.screen
  let next ←
    match app.stage with
    | .asking _ => pure (some (app.read (← nextLine stdin)))
    | .askingPassword .. => pure (some (app.enterPassword (← nextPassword stdin stdout)))
    | _ => pure none
  match next with
  | some next =>
    keep path app.client.account.store next.client.account.store
    converse path app.client.journal.length next
  | none =>
    stderr.putStr app.lastWords
    return app.exitCode.toUInt32

/-- Runs the program. -/
def run : IO UInt32 := do
  let (found, path) ← surroundings
  match found.start with
  | .error trouble =>
    (← IO.getStderr).putStr trouble.report
    return 1
  | .ok app => converse path 0 app

end ChatPortal.CommandLine

/-- The program on the command line. -/
def main : IO UInt32 := ChatPortal.CommandLine.run
