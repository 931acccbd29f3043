/-
# Settings from a file

Loading a settings file has three outcomes: the file cannot be read as text, its text is no valid
settings, or the settings are loaded, which is logged.  What is found under a path is given as a
value, so that nothing here touches a disk.
-/
import ChangeAudit.LogEntry

namespace ChangeAudit

/-- What is found under a path. -/
inductive FileContents where
  | nothing
  | directory
  | bytes (content : ByteArray)

/-- Why a file could not be read as text. -/
inductive FileFault where
  | notFound
  | isDirectory
  | notText
  deriving DecidableEq

/-- The fault in the words of the operating system. -/
def FileFault.message : FileFault → String
  | .notFound => "No such file or directory (os error 2)"
  | .isDirectory => "Is a directory (os error 21)"
  | .notText => "stream did not contain valid UTF-8"

/-- The text of a file. -/
def FileContents.text : FileContents → Except FileFault String
  | .nothing => .error .notFound
  | .directory => .error .isDirectory
  | .bytes content =>
    match String.fromUTF8? content with
    | some text => .ok text
    | none => .error .notText

/-- Why settings could not be loaded. -/
inductive ConfigError where
  | unreadable (fault : FileFault)
  | invalid (error : Json.ReadError)

/-- The settings in a file. -/
def Config.ofFile (contents : FileContents) : Except ConfigError Config :=
  match contents.text with
  | .error fault => .error (.unreadable fault)
  | .ok text =>
    match Config.ofText text with
    | .error e => .error (.invalid e)
    | .ok config => .ok config

/-- Loads the settings under a path, and what is logged about it. -/
def Config.load {α : Type} (path : String) (contents : FileContents) :
    Except ConfigError Config × List (LogEntry α) :=
  match Config.ofFile contents with
  | .error e => (.error e, [])
  | .ok config => (.ok config, [.configLoaded path])

namespace ConfigError

/-- The message about a file that could not be read. -/
def unreadableMessage (fault : FileFault) : String := "Failed to read config: " ++ fault.message

/-- The message about settings that do not fit. -/
def invalidMessage (complaint : Json.Complaint) : String := "Invalid config: " ++ complaint.message

end ConfigError

end ChangeAudit
