namespace EventFormation

/-- The parts of the formation that keep a log of what they do. -/
inductive Component
  | clusterer
  | matcher
  | analyzer
  | receiver
  | processing
  | dump
  deriving Repr, DecidableEq

namespace Component

def all : List Component := [clusterer, matcher, analyzer, receiver, processing, dump]

def name : Component → String
  | clusterer => "clusterer"
  | matcher => "matcher"
  | analyzer => "analyzer"
  | receiver => "receiver"
  | processing => "processing"
  | dump => "dump"

/-- The name under which records of the component are filed. -/
def target (c : Component) : String := "evform::" ++ c.name

def named? (name : String) : Option Component :=
  all.find? fun c => c.name == name || c.target == name

end Component

inductive Severity
  | error
  | warn
  | info
  | debug
  | trace
  deriving Repr, DecidableEq

namespace Severity

def all : List Severity := [error, warn, info, debug, trace]

/-- Verbosity: records of higher rank are the first to be left out. -/
def rank : Severity → Nat
  | error => 1
  | warn => 2
  | info => 3
  | debug => 4
  | trace => 5

def name : Severity → String
  | error => "ERROR"
  | warn => "WARN"
  | info => "INFO"
  | debug => "DEBUG"
  | trace => "TRACE"

end Severity

/-- The most verbose severity that is let through, if any. -/
structure LogLimit where
  most : Option Severity
  deriving Repr, DecidableEq

namespace LogLimit

def off : LogLimit := ⟨none⟩

def name (limit : LogLimit) : String :=
  match limit.most with
  | none => "OFF"
  | some severity => severity.name

def admits (limit : LogLimit) (severity : Severity) : Bool :=
  match limit.most with
  | none => false
  | some most => severity.rank ≤ most.rank

def admitted (limit : LogLimit) : List Severity := Severity.all.filter limit.admits

/-- The limit of a name in letters of either case. -/
def named? (name : String) : Option LogLimit :=
  (off :: Severity.all.map fun severity => ⟨some severity⟩).find? fun limit =>
    limit.name == String.ofList (name.toList.map Char.toUpper)

end LogLimit

structure LogLimits where
  limit : Component → LogLimit

namespace LogLimits

def all : LogLimits := ⟨fun _ => ⟨some .trace⟩⟩

def uniform (limit : LogLimit) : LogLimits := ⟨fun _ => limit⟩

inductive SettingError
  | unknownLevel (name : String)
  | unknownComponent (name : String)
  deriving Repr, DecidableEq

def level (name : String) : Except SettingError LogLimit :=
  match LogLimit.named? name with
  | some limit => .ok limit
  | none => .error (.unknownLevel name)

def set (limits : LogLimits) (component : Component) (limit : LogLimit) : LogLimits :=
  ⟨fun c => if c = component then limit else limits.limit c⟩

def setNamed (limits : LogLimits) (component limit : String) : Except SettingError LogLimits := do
  let limit ← level limit
  match Component.named? component with
  | some component => return limits.set component limit
  | none => throw (.unknownComponent component)

end LogLimits

structure LogRecord where
  component : Component
  severity : Severity
  text : String
  deriving Repr, DecidableEq

def LogLimits.admits (limits : LogLimits) (record : LogRecord) : Bool :=
  (limits.limit record.component).admits record.severity

end EventFormation
