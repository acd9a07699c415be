import GpuCluster.Distribution.Split
import GpuCluster.Session.State

/-!
# Scoring, placement and distribution in a session

A device is eligible when it is available, has a sample and is not paused. A placement is solved on
the eligible devices of the moment at which it begins, and completed later; a device that has been
lost in between makes it fail.
-/

namespace GpuCluster.Session

/-- The candidate that a registered device makes, if it is eligible. -/
def candidate? (s : Session) (entry : RegisteredDevice) : Option (Candidate Float) :=
  if entry.isAvailable then
    match s.collector.current? entry.device.id with
    | none => none
    | some sample =>
      match (s.monitor.mode? entry.device.id).getD .running with
      | .paused => none
      | mode => some ⟨entry.device, sample, mode = .precisionReduced⟩
  else none

/-- The eligible devices, by id. -/
def eligible (s : Session) : List (Candidate Float) :=
  s.registry.values.filterMap s.candidate?

/-- The eligible devices by descending score. -/
def rankDevices (s : Session) : Except Error (List (Score Number.Extended)) :=
  s.query "rank_devices" (.ok (Score.rankAll s.config.scoring s.eligible))

/-- The best eligible device with at least `minFree` bytes free. -/
def selectBestDevice (s : Session) (minFree : Nat) :
    Except Error (Option (Score Number.Extended)) :=
  s.query "select_best_device" (.ok (Score.selectBest s.config.scoring s.eligible minFree))

/-- The pool that placements are solved on. -/
def pool (s : Session) : List Placement.PoolDevice :=
  s.eligible.map fun c => .of c.device c.sample (Score.ofDoubles s.config.scoring c).value

/-- Solves a request whose candidates are all registered. -/
def solve (s : Session) (r : Placement.Request) :
    Except Error (Except Placement.Refusal Placement.Assignment) :=
  match r.candidates.find? (!s.isRegistered ·) with
  | some id => .error (.unknownDevice id)
  | none => .ok (Placement.solve s.config.placement r s.pool)

/-- The assignment that a placement leads to, if all its devices are registered now. -/
def confirm (s : Session) (outcome : Except Placement.Refusal Placement.Assignment) :
    Except Error Placement.Assignment :=
  match outcome with
  | .error cause => .error (.ofPlacement cause)
  | .ok a =>
    match a.bytes.keys.find? (!s.isRegistered ·) with
    | some lost => .error (.unknownDevice lost)
    | none => .ok a

/-- Places the shards of a request on the eligible devices and keeps the assignment. -/
def placeShards (s : Session) (r : Placement.Request) :
    Reply (AssignmentId × Placement.Assignment) :=
  s.call "place_shards"
    (match (s.solve r).bind s.confirm with
    | .error e => (s, .error e)
    | .ok a =>
      ({ s with
        assignments := s.assignments.insert s.nextAssignment a
        nextAssignment := s.nextAssignment + 1 }, .ok (s.nextAssignment, a)))

/-- Begins a placement: solves it, and keeps the outcome until the placement is completed. -/
def beginPlacement (s : Session) (r : Placement.Request) : Reply AssignmentId :=
  s.call "place_shards"
    (match s.solve r with
    | .error e => (s, .error e)
    | .ok outcome =>
      ({ s with
        pending := s.pending.insert s.nextAssignment ⟨s.era, outcome⟩
        nextAssignment := s.nextAssignment + 1 }, .ok s.nextAssignment))

/-- Completes a placement that has begun; nothing if there is none of that number. -/
def completePlacement (s : Session) (id : AssignmentId) : Option (Reply Placement.Assignment) :=
  (s.pending.get? id).map fun placement =>
    let s := { s with pending := s.pending.erase id }
    match s.confirm placement.outcome with
    | .error e => (s, .error e)
    | .ok a => ({ s with assignments := s.assignments.insert id a }, .ok a)

def assignment (s : Session) (id : AssignmentId) : Except Error (Option Placement.Assignment) :=
  s.query "assignment" (.ok (s.assignments.get? id))

/-- The stored assignments, oldest first. -/
def storedAssignments (s : Session) : Except Error (List (AssignmentId × Placement.Assignment)) :=
  s.query "assignments" (.ok s.assignments.entries)

/-- Gives up an assignment; says whether it was stored. -/
def releaseAssignment (s : Session) (id : AssignmentId) : Reply Bool :=
  s.call "release_assignment"
    ({ s with assignments := s.assignments.erase id }, .ok (s.assignments.contains id))

/-- The first device of a list that is not registered. -/
def unregistered? (s : Session) (ids : List DeviceId) : Option Error :=
  (ids.find? (!s.isRegistered ·)).map .unknownDevice

/-- Each device weighted by its compute units. -/
def computeWeights (s : Session) (ids : List DeviceId) : Table DeviceId Float :=
  .ofList (ids.filterMap fun id =>
    (s.registry.get? id).map fun entry => (id, Float.ofNat entry.device.computeUnits))

/-- Splits items across registered devices. -/
def distribute {τ : Type} (s : Session) (strategy : Distribution.Strategy) (cap : Option Nat)
    (ids : List DeviceId) (items : List τ) : Except Error (Table DeviceId (List τ)) :=
  s.query "distribute_workload"
    (match s.unregistered? ids with
    | some e => .error e
    | none =>
      (match strategy with
      | .uniform => Distribution.uniformly cap ids items
      | .capacity => Distribution.byCapacity cap (s.computeWeights ids) items).mapError
        .distribution)

/-- Splits items across registered devices by the given weights. -/
def distributeByCapacity {τ : Type} (s : Session) (cap : Option Nat)
    (weights : Table DeviceId Float) (items : List τ) : Except Error (Table DeviceId (List τ)) :=
  s.query "distribute_by_capacity"
    (match s.unregistered? weights.keys with
    | some e => .error e
    | none => (Distribution.byCapacity cap weights items).mapError .distribution)

end GpuCluster.Session
