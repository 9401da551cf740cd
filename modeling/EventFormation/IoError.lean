import EventFormation.Config.Basic
import EventFormation.Files.Error

namespace EventFormation

inductive FormatError
  | notDump (path : String)
  | truncatedRecord (path : String)
  | noChunks (stem : String)
  deriving Repr, DecidableEq

/-- Format of dump files that is written and read. -/
def dumpVersion : Nat := 1

def FormatError.message : FormatError → String
  | notDump path => path ++ " is not a version " ++ toString dumpVersion ++ " hit dump"
  | truncatedRecord path => path ++ " has a truncated record"
  | noChunks stem => "no dump chunks for " ++ stem

/-- What can go wrong between detector, files and formation. -/
inductive IoError
  | file (error : FileError)
  | format (error : FormatError)
  | setup (error : ConfigError)
  deriving Repr

def IoError.message : IoError → String
  | file error => "I/O error: " ++ error.message
  | format error => "invalid file format: " ++ error.message
  | setup error => "core error: " ++ error.setupMessage

def IoError.details : IoError → String
  | file error => Text.applied "Io" error.details
  | format error => Text.applied "InvalidFormat" (Text.quoted error.message)
  | setup error => Text.applied "Core" (Text.applied "Config" error.details)

end EventFormation
