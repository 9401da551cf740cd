import EventFormation.Config.Basic
import EventFormation.Json.Reader

namespace EventFormation

open Json

def Json.Field.natural {σ : Type} (name : String) (range : Range) (set : σ → Nat → σ) : Field σ :=
  ⟨name, fun _ value => do return set value (← Reader.natural range)⟩

def Json.Field.planes {σ : Type} (set : σ → List UInt8 → σ) : Field σ :=
  ⟨"planes", fun depth value => do
    return set value ((← Reader.list depth (Reader.natural Range.byte)).map UInt8.ofNat)⟩

def Json.Field.choice {σ α : Type} (name : String) (choice : Choice α) (set : σ → α → σ) : Field σ :=
  ⟨name, fun depth value => do return set value (← choice.read depth)⟩

/-- A part of a record that is a record itself, read afresh from its own defaults. -/
def Json.Field.record {σ τ : Type} (name : String) (part : Record τ) (start : τ) (set : σ → τ → σ) :
    Field σ :=
  ⟨name, fun depth value => do return set value (← part.read start depth)⟩

def ClusterConfig.record : Record ClusterConfig :=
  ⟨"ClustererConfig",
    [.natural "max_time_gap" .word fun c n => { c with maxTimeGap := .ofNat n },
     .natural "max_coord_gap" .short fun c n => { c with maxCoordGap := .ofNat n }]⟩

def ClusterTime.choice : Choice ClusterTime :=
  ⟨[("center_of_mass", .centerOfMass), ("utpc", .latestHit)]⟩

namespace MatchPolicy

inductive Parameter
  | ticks (value : UInt64)
  | fraction (value : Float)
  | time (value : ClusterTime)

/-- The name of a parameter, how its value is taken, and what it is if not given. -/
structure ParameterForm where
  name : String
  take : Content → Except Mistake Parameter
  default? : Option Parameter := none

def takeTicks : Content → Except Mistake Parameter
  | .number value => return .ticks (.ofNat (← Range.word.check value))
  | other => .error (.wrongType other.found Range.word.name)

def takeFraction : Content → Except Mistake Parameter
  | .number (.natural value) => .ok (.fraction value.toUInt64.toFloat)
  | .number (.negative value) => .ok (.fraction (-value.natAbs.toUInt64.toFloat))
  | .number (.float value) => .ok (.fraction value)
  | other => .error (.wrongType other.found "f64")

/-- A name, or an object that gives nothing to a name. -/
def takeTime : Content → Except Mistake Parameter
  | .text name => return .time (← ClusterTime.choice.check name)
  | .object [(name, value)] => do
    let time ← ClusterTime.choice.check name
    match value with
    | .null | .object [] => return .time time
    | other => .error (.wrongType other.found "unit")
  | .object _ => .error (.wrongValue .object "map with a single key")
  | other => .error (.wrongType other.found "string or map")

structure Form where
  title : String
  parameters : List ParameterForm
  build : List Parameter → Option MatchPolicy

def forms : Choice Form :=
  ⟨[("end",
      { title := "MatchPolicyConfig::End"
        parameters := [{ name := "max_delta_time", take := takeTicks }]
        build := fun | [.ticks d] => some (.endProximity d) | _ => none }),
    ("overlap",
      { title := "MatchPolicyConfig::Overlap"
        parameters := [{ name := "overlap_threshold", take := takeFraction },
          { name := "max_gap", take := takeTicks }]
        build := fun | [.fraction t, .ticks g] => some (.overlapFraction t g) | _ => none }),
    ("gap",
      { title := "MatchPolicyConfig::Gap"
        parameters := [{ name := "minimum_time_gap", take := takeTicks }]
        build := fun | [.ticks g] => some (.gapProximity g) | _ => none }),
    ("center",
      { title := "MatchPolicyConfig::Center"
        parameters := [{ name := "max_delta_time", take := takeTicks },
          { name := "time_algorithm", take := takeTime, default? := some (.time .centerOfMass) }]
        build := fun | [.ticks d, .time t] => some (.centerProximity d t) | _ => none })]⟩

def takeFields (parameters : List ParameterForm) :
    List (String × Parameter) → List (String × Content) → Except Mistake (List (String × Parameter))
  | taken, [] => .ok taken
  | taken, (name, content) :: rest =>
    match parameters.find? (·.name == name) with
    | none => takeFields parameters taken rest
    | some form => do
      if taken.any (·.1 == name) then .error (.repeatedField name)
      else takeFields parameters ((name, ← form.take content) :: taken) rest

/-- The taken parameters in their own order, with defaults for those not given. -/
def arrange (taken : List (String × Parameter)) (parameters : List ParameterForm) :
    Except Mistake (List Parameter) :=
  parameters.mapM fun form =>
    match taken.find? (·.1 == form.name), form.default? with
    | some (_, value), _ => .ok value
    | none, some value => .ok value
    | none, none => .error (.missingField form.name)

def elementCount (count : Nat) : String :=
  toString count ++ if count = 1 then " element" else " elements"

def takeItems (form : Form) : Nat → List ParameterForm → List Content → Except Mistake (List Parameter)
  | _, [], [] => .ok []
  | taken, [], _ :: rest =>
    .error (.wrongLength (taken + rest.length + 1) (elementCount taken ++ " in sequence"))
  | taken, parameter :: rest, [] =>
    match parameter.default? with
    | some value => return value :: (← takeItems form taken rest [])
    | none => .error (.wrongLength taken
        ("struct variant " ++ form.title ++ " with " ++ elementCount form.parameters.length))
  | taken, parameter :: rest, item :: items => do
    let value ← parameter.take item
    return value :: (← takeItems form (taken + 1) rest items)

def ofContent (form : Form) (content : Content) : Except Mistake MatchPolicy := do
  let parameters ← match content with
    | .object fields => do arrange (← takeFields form.parameters [] fields) form.parameters
    | .list items => takeItems form 0 form.parameters items
    | other => .error (.wrongType other.found ("struct variant " ++ form.title))
  match form.build parameters with
  | some policy => return policy
  | none => .error (.wrongType content.found ("struct variant " ++ form.title))

/-- Reads the fields of a policy up to the end of its object. The kind may stand anywhere. -/
def readFields (depth : Nat) : Reader (Form × Content) := do
  let field name (state : Option Form × List (String × Content)) := do
    if name == "kind" then
      if state.1.isSome then Reader.failUnplaced (.repeatedField "kind")
      else
        Reader.colon
        return (some (← forms.readName), state.2)
    else
      Reader.colon
      return (state.1, (name, ← Content.readWithin depth) :: state.2)
  match ← Reader.fields field (none, []) with
  | (none, _) => Reader.failUnplaced (.missingField "kind")
  | (some form, fields) => return (form, .object fields.reverse)

/-- Reads the elements of a policy up to the end of its list. The kind is the first. -/
def readElements (depth : Nat) : Reader (Form × Content) := do
  if ← Reader.anotherElement true then
    let form ← forms.readName
    return (form, .list (← Reader.elements (Content.readWithin depth) false))
  else Reader.failUnplaced (.missingField "kind")

def readParts (depth : Nat) : Reader (Form × Content) := Reader.placed do
  let byte ← Reader.token
  if byte == 123 then
    Reader.checkDepth depth
    Reader.skip
    Reader.closedBy (readFields (depth - 1)) Reader.endObject
  else if byte == 91 then
    Reader.checkDepth depth
    Reader.skip
    Reader.closedBy (readElements (depth - 1)) Reader.endList
  else Reader.wrongType "internally tagged enum MatchPolicyConfig"

/-- Reads a policy. Its parameters are judged once the whole of it has been read. -/
def read (depth : Nat) : Reader MatchPolicy := do
  let (form, content) ← readParts depth
  Reader.ofExcept (ofContent form content)

end MatchPolicy

def MatchConfig.record : Record MatchConfig :=
  ⟨"MatcherConfig",
    [.planes fun c planes => { c with planes },
     .natural "latency" .word fun c n => { c with latency := .ofNat n },
     ⟨"policy", fun depth c => do return { c with policy := ← MatchPolicy.read depth }⟩,
     .natural "minimum_queued" .size fun c n => { c with minimumQueued := n }]⟩

def Selection.choice : Choice Selection :=
  ⟨[("max_weight", .maxWeight), ("latest_time", .latestTime), ("all", .all)]⟩

def ReductionConfig.record : Record ReductionConfig :=
  ⟨"AnalyzerConfig",
    [⟨"weighted", fun _ c => do return { c with weighted := ← Reader.boolean }⟩,
     .natural "max_timebins" .size fun c n => { c with maxTimebins := n },
     .natural "max_timedif" .word fun c n => { c with maxTimedif := .ofNat n },
     .choice "selection" Selection.choice fun c selection => { c with selection }]⟩

def FormationConfig.record : Record FormationConfig :=
  ⟨"FormationConfig",
    [.record "clusterer" ClusterConfig.record {} fun c clusters => { c with clusters },
     .record "matcher" MatchConfig.record {} fun c matching => { c with matching },
     .record "analyzer" ReductionConfig.record {} fun c reduction => { c with reduction }]⟩

def GeneratorConfig.record : Record GeneratorConfig :=
  ⟨"GeneratorConfig",
    [.planes fun c planes => { c with planes },
     .natural "events" .size fun c n => { c with events := n },
     .natural "spacing" .word fun c n => { c with spacing := .ofNat n },
     .natural "track_length" .short fun c n => { c with trackLength := .ofNat n },
     .natural "coordinates" .short fun c n => { c with coordinates := .ofNat n },
     .natural "max_weight" .short fun c n => { c with maxWeight := .ofNat n },
     .natural "seed" .word fun c n => { c with seed := .ofNat n }]⟩

def ShutdownMode.choice : Choice ShutdownMode :=
  ⟨[("drain", .drain), ("immediate", .immediate)]⟩

def ReceiveConfig.record : Record ReceiveConfig :=
  ⟨"RxConfig",
    [⟨"bind", fun _ c => do return { c with bind := ← Reader.text "a string" }⟩,
     .natural "slots" .size fun c n => { c with slots := n },
     .natural "slot_size" .size fun c n => { c with slotSize := n },
     .natural "timeout_ms" .word fun c n => { c with timeoutMs := .ofNat n },
     .choice "shutdown" ShutdownMode.choice fun c shutdown => { c with shutdown }]⟩

namespace FormationConfig

def ofJson (text : String) : Except (Mistake × Nat × Nat) FormationConfig :=
  parse (record.read {}) text

end FormationConfig

end EventFormation
