import EventFormation.Cluster.Basic

namespace EventFormation

/-- One cluster per tracked plane, in output order. An empty cluster stands for a plane that
does not take part. -/
structure Event where
  slots : List (UInt8 × Cluster)
  deriving Repr, BEq, Inhabited

namespace Event

/-- No event pairs more planes than there are output dimensions. -/
def maxPlanes : Nat := 3

def ofPlanes (planes : List UInt8) : Event := ⟨planes.map (·, Cluster.empty)⟩

def planes (e : Event) : List UInt8 := e.slots.map (·.1)

def clusters (e : Event) : List Cluster := e.slots.map (·.2)

def tracks (e : Event) (plane : UInt8) : Bool := e.planes.contains plane

/-- Applies `f` to the cluster of the first slot of `plane`. -/
def modifySlots (plane : UInt8) (f : Cluster → Cluster) : List (UInt8 × Cluster) → List (UInt8 × Cluster)
  | [] => []
  | slot :: rest =>
    if slot.1 == plane then (slot.1, f slot.2) :: rest else slot :: modifySlots plane f rest

def modify (e : Event) (plane : UInt8) (f : Cluster → Cluster) : Event :=
  ⟨modifySlots plane f e.slots⟩

/-- The cluster in the slot of a plane, which may be empty. -/
def slot? (e : Event) (plane : UInt8) : Option Cluster :=
  (e.slots.find? (·.1 == plane)).map (·.2)

/-- Adds one hit to the cluster of its plane, unless that plane is not tracked. -/
def insert (e : Event) (hit : Hit) : Option Event :=
  if e.tracks hit.plane then some (e.modify hit.plane (·.insert hit)) else none

/-- Moves a cluster behind the hits in the slot of its plane. A cluster without a plane of its
own, or on a plane that is not tracked, is refused. Returns the event and what is left of the
cluster. -/
def merge (e : Event) (c : Cluster) : Option (Event × Cluster) :=
  match c.plane with
  | none => none
  | some plane =>
    match e.slot? plane with
    | none => none
    | some held => some (e.modify plane fun _ => (held.merge c).1, (held.merge c).2)

def clear (e : Event) : Event := ofPlanes e.planes

/-- Takes up to `limit` non-empty clusters out of the slots, first plane first. Slots that are
not reached keep their cluster. -/
def drainSlots : Nat → List (UInt8 × Cluster) → List Cluster × List (UInt8 × Cluster)
  | 0, slots => ([], slots)
  | _ + 1, [] => ([], [])
  | limit + 1, slot :: rest =>
    if slot.2.isEmpty then
      let (taken, left) := drainSlots (limit + 1) rest
      (taken, (slot.1, Cluster.empty) :: left)
    else
      let (taken, left) := drainSlots limit rest
      (slot.2 :: taken, (slot.1, Cluster.empty) :: left)

def drainUpTo (e : Event) (limit : Nat) : List Cluster × Event :=
  let (taken, left) := drainSlots limit e.slots
  (taken, ⟨left⟩)

def populated (e : Event) : List (UInt8 × Cluster) := e.slots.filter fun slot => !slot.2.isEmpty

def drain (e : Event) : List Cluster := e.populated.map (·.2)

/-- The cluster on a plane, if it holds hits. -/
def cluster? (e : Event) (plane : UInt8) : Option Cluster :=
  (e.slot? plane).filter fun c => !c.isEmpty

def isEmpty (e : Event) : Bool := e.clusters.all Cluster.isEmpty

def isComplete (e : Event) : Bool := !e.slots.isEmpty && e.clusters.all fun c => !c.isEmpty

def hits (e : Event) : List Hit := e.clusters.flatMap Cluster.hits

def hitCount (e : Event) : Nat := e.hits.length

/-- Earliest start of a populated plane, zero if there is none. -/
def timeStart (e : Event) : UInt64 := (e.populated.map (·.2.timeStart)).min?.getD 0

/-- Latest end of a populated plane, zero if there is none. -/
def timeEnd (e : Event) : UInt64 := (e.populated.map (·.2.timeEnd)).max?.getD 0

def stretch (e : Event) : TimeSpan := ⟨e.timeStart, e.timeEnd⟩

def timeSpan (e : Event) : Except Fault Nat :=
  if e.isEmpty then .ok 0 else e.stretch.ticks

def timeOverlap (e : Event) (c : Cluster) : Except Fault Nat :=
  if e.isEmpty || c.isEmpty then .ok 0 else e.stretch.overlap c.stretch

/-- Time between event and cluster, zero if they meet. With an empty side it is as long as the
clock allows. -/
def timeGap (e : Event) (c : Cluster) : Nat :=
  if e.isEmpty || c.isEmpty then lastTick else e.stretch.gap c.stretch

@[simp] theorem planes_ofPlanes (planes : List UInt8) : (ofPlanes planes).planes = planes := by
  simp [ofPlanes, Event.planes, Function.comp_def]

@[simp] theorem clusters_ofPlanes (planes : List UInt8) :
    (ofPlanes planes).clusters = List.replicate planes.length Cluster.empty := by
  simp [ofPlanes, clusters, Function.comp_def, List.map_const']

theorem planes_modifySlots (plane : UInt8) (f : Cluster → Cluster) (slots : List (UInt8 × Cluster)) :
    (modifySlots plane f slots).map (·.1) = slots.map (·.1) := by
  induction slots with
  | nil => rfl
  | cons slot rest ih =>
    unfold modifySlots
    split
    · rfl
    · simp [ih]

@[simp] theorem planes_modify (e : Event) (plane : UInt8) (f : Cluster → Cluster) :
    (e.modify plane f).planes = e.planes := planes_modifySlots plane f e.slots

@[simp] theorem planes_clear (e : Event) : e.clear.planes = e.planes := planes_ofPlanes e.planes

theorem planes_drainSlots (limit : Nat) (slots : List (UInt8 × Cluster)) :
    (drainSlots limit slots).2.map (·.1) = slots.map (·.1) := by
  fun_induction drainSlots limit slots <;> simp_all

@[simp] theorem planes_drainUpTo (e : Event) (limit : Nat) :
    (e.drainUpTo limit).2.planes = e.planes := planes_drainSlots limit e.slots

end Event

end EventFormation
