import EventFormation.Matching.Rule

namespace EventFormation

/-- One walk over the queue of clusters, in the course of which events are built and closed. -/
structure Pass where
  queue : List Cluster
  event : Event
  /-- Clusters passed over in favour of a closer one. They wait for the next event. -/
  deferred : Series Cluster := {}
  closed : Series Event := {}
  refused : Nat := 0
  deriving Repr

namespace Pass

/-- What does not change during a walk. -/
structure Terms where
  rule : JoinRule
  /-- No earlier cluster can still arrive. -/
  ready : Cluster → Bool
  flushing : Bool
  maxSpan : Nat

inductive Move
  | /-- The event is complete. -/ close
  | /-- The front joins the event. -/ join
  | /-- The cluster so far behind the front joins the event, and the front is deferred. -/
    prefer (behind : Nat)
  deriving Repr, DecidableEq

/-- Ends the event. The deferred clusters come first in the next one. -/
def close (p : Pass) : Pass :=
  { p with
    queue := p.deferred.toList ++ p.queue
    event := p.event.clear
    deferred := {}
    closed := p.closed.push p.event }

def join (p : Pass) : Pass :=
  match p.queue with
  | [] => p
  | front :: rest =>
    match p.event.merge front with
    | some (event, _) => { p with queue := rest, event }
    | none => { p with queue := rest, refused := p.refused + 1 }

def prefer (p : Pass) (behind : Nat) : Pass :=
  match p.queue with
  | [] => p
  | front :: rest =>
    match rest[behind]? with
    | none => p
    | some closer =>
      { p with
        queue := rest.eraseIdx behind
        event := match p.event.merge closer with
          | some (event, _) => event
          | none => p.event
        deferred := p.deferred.push front }

def apply (p : Pass) : Move → Pass
  | .close => p.close
  | .join => p.join
  | .prefer behind => p.prefer behind

/-- The place of the eligible cluster that is closest to the event and closer than `nearest`.
The first of equally close ones is taken. The search ends at the first cluster out of range. -/
def closest (rule : JoinRule) (event : Event) (inRange eligible : Cluster → Bool) :
    Nat → Float → Option Nat → List Cluster → Except Fault (Option Nat)
  | _, _, best, [] => .ok best
  | place, nearest, best, c :: rest =>
    if !inRange c then .ok best
    else if eligible c then do
      match ← rule.proximity event c with
      | none => closest rule event inRange eligible (place + 1) nearest best rest
      | some distance =>
        if distance < nearest then
          closest rule event inRange eligible (place + 1) distance (some place) rest
        else closest rule event inRange eligible (place + 1) nearest best rest
    else closest rule event inRange eligible (place + 1) nearest best rest

/-- A search in range is a search among the clusters in range. -/
theorem closest_eq_takeWhile (rule : JoinRule) (event : Event) (inRange eligible : Cluster → Bool)
    (place : Nat) (nearest : Float) (best : Option Nat) (queue : List Cluster) :
    closest rule event inRange eligible place nearest best queue =
      closest rule event (fun _ => true) eligible place nearest best (queue.takeWhile inRange) := by
  induction queue generalizing place nearest best with
  | nil => rfl
  | cons c rest ih =>
    by_cases near : inRange c
    · simp only [closest, near, List.takeWhile_cons_of_pos near, ih]
    · simp [closest, near]

/-- Looks behind the front for a closer cluster of its plane. The queue is in order of ends, so
the search ends where the reach of the event or the ready clusters end. -/
def closer? (t : Terms) (p : Pass) (front : Cluster) (rest : List Cluster) (nearest : Float) :
    Except Fault (Option Nat) :=
  let limit := t.rule.reach p.event t.maxSpan
  closest t.rule p.event (fun c => c.timeEnd.toNat ≤ limit && t.ready c)
    (fun c => c.plane == front.plane) 0 nearest none rest

/-- No cluster of the plane of the front is in the event. -/
def planeOpen (p : Pass) (front : Cluster) : Bool :=
  match front.plane with
  | none => false
  | some plane => (p.event.cluster? plane).isNone

/-- The next move, or none once the walk is over. -/
def next? (t : Terms) (p : Pass) : Except Fault (Option Move) :=
  match p.queue with
  | [] => .ok (if t.flushing && !p.deferred.isEmpty then some .close else none)
  | front :: rest =>
    if !t.ready front then .ok none
    else if p.event.isEmpty then .ok (some .join)
    else do
      match ← t.rule.proximity p.event front with
      | none => return some .close
      | some nearest =>
        if p.planeOpen front then
          match ← closer? t p front rest nearest with
          | some behind => return some (.prefer behind)
          | none => return some .join
        else return some .join

def walkWithin (t : Terms) : Nat → Pass → Except Fault Pass
  | 0, p => .ok p
  | fuel + 1, p => do
    match ← next? t p with
    | none => return p
    | some move => walkWithin t fuel (p.apply move)

/-- Walks to the end. All moves but `close` take a cluster from the queue into an event, and
each event that is closed holds one, so there are at most twice as many moves as clusters. -/
def walk (t : Terms) (p : Pass) : Except Fault Pass :=
  walkWithin t (2 * p.queue.length + 1) p

def events (flushing : Bool) (p : Pass) : List Event :=
  (if flushing && !p.event.isEmpty then p.closed.push p.event else p.closed).toList

def remaining (flushing : Bool) (p : Pass) : List Cluster :=
  p.queue ++ (if flushing then [] else p.event.drain) ++ p.deferred.toList

end Pass

end EventFormation
