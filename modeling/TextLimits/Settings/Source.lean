import TextLimits.Settings.Decode
import TextLimits.Fault
import TextLimits.Path

/-! # Where settings come from

Settings are taken from a file that is named, else from the file of the usual name in the current
directory, if it is there, else they are the default ones; or they are the default ones because no
file is wanted. -/

namespace TextLimits

/-- What can be asked about files: the text of one, if it can be read, whether one is there, and the
current directory. -/
structure FileSource where
  read : String → Option (List Char)
  present : String → Bool
  currentDir : Option String

namespace Settings

/-- The settings in a file. -/
def ofFile (files : FileSource) (path : String) : Except Fault Settings :=
  match files.read path with
  | none => .error (.configRead path)
  | some text =>
    match ofText text with
    | .ok settings => .ok settings
    | .error e => .error (.configParse e)

/-- The settings file in the current directory, if it is there. -/
def localFile? (files : FileSource) : Option String :=
  (files.currentDir.map fun dir => Path.joinText dir fileName).filter files.present

/-- The settings to start from. -/
def load (files : FileSource) (named : Option String) (noFile : Bool) : Except Fault Settings :=
  if noFile then .ok default
  else
    match named.or (localFile? files) with
    | some path => ofFile files path
    | none => .ok default

end Settings

end TextLimits
