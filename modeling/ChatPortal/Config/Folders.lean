import ChatPortal.Config.Environment

/-!
# Folders

The folders in which the program keeps its files: the environment names them, or they are
in the home of the user.
-/

namespace ChatPortal.Config

/-- The path of something in a folder. -/
def inFolder (folder name : String) : String :=
  if folder.toList.getLast? = some '/' then folder ++ name else folder ++ "/" ++ name

/-- The path does not depend on where the program runs. -/
def isAbsolute (path : String) : Bool :=
  path.toList.head? = some '/'

/-- The folder that a name gives if it is absolute, or else one in the home of the user. -/
def folder? (name inHome : String) (environment : Environment) : Option String :=
  match (environment.get? name).filter isAbsolute with
  | some folder => some folder
  | none =>
    ((environment.get? "HOME").filter (· != "")).map (inFolder · inHome)

/-- The name of the program. -/
def programName : String := "bankbot"

/-- The file of the configuration. -/
def file? (environment : Environment) : Option String :=
  (folder? "XDG_CONFIG_HOME" ".config" environment).map fun folder =>
    inFolder (inFolder folder programName) "config.json"

/-- The folder for what the program may lose. -/
def cache? (environment : Environment) : Option String :=
  (folder? "XDG_CACHE_HOME" ".cache" environment).map (inFolder · programName)

/-- The file of the credential in a folder. -/
def tokenFile (cache : String) : String := inFolder cache "token.json"

/-! ### The file of assignments -/

/-- The name of the file of assignments. -/
def assignmentsName : String := ".env"

/-- The paths of the file of assignments in a folder and in those around it, where the
folder is a list of names from the innermost outwards. -/
def assignmentsFiles : List String → List String
  | [] => ["/" ++ assignmentsName]
  | name :: outer =>
    (String.join ((name :: outer).reverse.map ("/" ++ ·)) ++ "/" ++ assignmentsName) ::
      assignmentsFiles outer

end ChatPortal.Config
