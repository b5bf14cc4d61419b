import Accessors.Disk.Location
import Accessors.Text.Blank

namespace Accessors

-- Whether progress is logged, and where a copy of what is generated goes.
structure Settings where
  verbose : Bool
  dumpDirectory : Option Location
deriving DecidableEq

namespace Settings

def logVariable : String := "MEMBER_ACCESS_LOG"
def dumpVariable : String := "MEMBER_ACCESS_DUMP_DIR"

def isOff (value : String) : Bool :=
  let word := (Text.trimBlanks value).toList.map Char.toLower
  ["", "0", "false", "off"].contains (String.ofList word)

def isBlank (value : String) : Bool :=
  (Text.trimBlanks value).isEmpty

-- The settings that an environment gives. A blank directory is none, any other is taken as it is.
def ofEnvironment (lookup : String → Option String) : Settings where
  verbose := (lookup logVariable).any fun value => !isOff value
  dumpDirectory := (lookup dumpVariable).filter fun value => !isBlank value

-- Where a file is dumped, if anything is. A relative directory is seen from that of the manifest.
def dumpTarget (s : Settings) (manifestDirectory : Option Location) (fileName : String) :
    Option Location :=
  s.dumpDirectory.map fun directory =>
    let base :=
      if directory.isRelative then (manifestDirectory.map (·.join directory)).getD directory
      else directory
    base.join fileName

end Settings

end Accessors
