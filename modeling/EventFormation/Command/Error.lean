import EventFormation.Fault
import EventFormation.IoError
import EventFormation.Json.Mistake

namespace EventFormation.Command

/-- Why nothing can be received. -/
inductive SocketError
  | unnumberedAddress
  | badNumber
  /-- There is no network. -/
  | unsupported
  deriving Repr, DecidableEq

/-- Why a command fails. -/
inductive CommandError
  | argument (message : String)
  | file (error : FileError)
  | notText
  | json (mistake : Json.Mistake) (line column : Nat)
  | config (error : ConfigError)
  | io (error : IoError)
  | socket (error : SocketError)
  deriving Repr

def SocketError.details : SocketError → String
  | unnumberedAddress => unnumberedDetails "InvalidInput" "invalid socket address"
  | badNumber => unnumberedDetails "InvalidInput" "invalid port value"
  | unsupported => unnumberedDetails "Unsupported" "operation not supported on this platform"

def jsonDetails (mistake : Json.Mistake) (line column : Nat) : String :=
  Text.applied "Error" (", ".intercalate
    [Text.quoted mistake.message, "line: " ++ toString line, "column: " ++ toString column])

def CommandError.details : CommandError → String
  | argument message => Text.applied "InvalidArgument" (Text.quoted message)
  | file error => Text.applied "Io" error.details
  | notText => Text.applied "Io" (unnumberedDetails "InvalidData" "stream did not contain valid UTF-8")
  | json mistake line column => Text.applied "Json" (jsonDetails mistake line column)
  | config error => Text.applied "Config" error.details
  | io error => Text.applied "EvformIo" error.details
  | socket error => Text.applied "EvformIo" (Text.applied "Io" error.details)

/-- Why a command ends early. -/
inductive Failure
  | fault (fault : Fault)
  | error (error : CommandError)
  deriving Repr

def Failure.message : Failure → String
  | .fault f => f.message
  | .error e => "Error: " ++ e.details

end EventFormation.Command
