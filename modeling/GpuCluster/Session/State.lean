import GpuCluster.Error
import GpuCluster.Sampling.Sampler

/-!
# The state of a session

A session owns the registry of devices and everything that is known about them: their samples, their
thermal state and the assignments that use them. It admits calls only while it is ready. All that it
knows is lost when it shuts down, but the events that it has announced can still be received, and a
placement that is under way can still be completed.
-/

namespace GpuCluster

structure RegisteredDevice where
  device : Device
  /-- Where the host of the device listens. -/
  endpoint : Option String
  isAvailable : Bool
  lastError : Option String

/-- Assignments are numbered in the order in which they are made. -/
abbrev AssignmentId := Nat

/-- A placement that has been solved on the pool of its time, and is still to be stored. -/
structure PendingPlacement where
  /-- When the placement was admitted, in starts of the session. -/
  era : Nat
  outcome : Except Placement.Refusal Placement.Assignment

/-- The events announced between a start and the shutdown after it. -/
structure Announcements where
  changes : Channel Telemetry.Change
  transitions : Channel Thermal.Transition

structure Session where
  config : Config
  phase : Phase
  /-- Shutdowns that have been completed. -/
  era : Nat
  registry : Table DeviceId RegisteredDevice
  /-- The devices whose samples are taken in, those of one device one after the other. -/
  lanes : Table DeviceId Unit
  collector : Telemetry.Collector
  monitor : Thermal.Monitor
  sampler : Option Sampling.Sampler
  assignments : Table AssignmentId Placement.Assignment
  nextAssignment : AssignmentId
  pending : Table AssignmentId PendingPlacement
  /-- Milliseconds that a shutdown still waits for pending placements. -/
  graceLeft : Nat
  /-- The announcements of completed eras. -/
  past : Table Nat Announcements

/-- A receiver of events of one era. -/
structure Subscription where
  era : Nat
  receiver : Receiver
  deriving DecidableEq, Repr

namespace Session

/-- A session that is not started yet. -/
def new (config : Config) : Session where
  config
  phase := .uninitialized
  era := 0
  registry := .empty
  lanes := .empty
  collector := .start config.telemetry
  monitor := .start config.thermal config.telemetry.eventBuffer 0
  sampler := none
  assignments := .empty
  nextAssignment := 0
  pending := .empty
  graceLeft := 0
  past := .empty

def isRegistered (s : Session) (id : DeviceId) : Bool := s.registry.contains id

/-- Why a call is not admitted. -/
def rejection? (s : Session) (operation : String) : Option Error :=
  if s.phase = .ready then none else some (.rejected operation s.phase)

/-- Asks a session that is ready. -/
def query {α : Type} (operation : String) (s : Session) (answer : Except Error α) :
    Except Error α :=
  match s.rejection? operation with
  | some e => .error e
  | none => answer

/-- Asks about a registered device. -/
def queryDevice {α : Type} (operation : String) (s : Session) (id : DeviceId)
    (answer : RegisteredDevice → α) : Except Error α :=
  s.query operation
    (match s.registry.get? id with
    | some entry => .ok (answer entry)
    | none => .error (.unknownDevice id))

/-- A call that may change the session, also when it fails. -/
abbrev Reply (α : Type) := Session × Except Error α

/-- Makes a call on a session that is ready. -/
def call {α : Type} (operation : String) (s : Session) (reply : Reply α) : Reply α :=
  match s.rejection? operation with
  | some e => (s, .error e)
  | none => reply

/-- A pending placement keeps its era open. -/
def isOpen (s : Session) (era : Nat) : Bool :=
  era = s.era || s.pending.values.any (·.era = era)

/-- The announcements of an era. -/
def announcements (s : Session) (era : Nat) : Announcements :=
  match s.past.get? era with
  | some a => a
  | none => ⟨s.collector.changes, s.monitor.transitions⟩

/-- What a subscription finds, and whether no more can follow. -/
structure Delivery (ε : Type) where
  received : Received ε
  isClosed : Bool

/-- Receives the events of an era from a channel. -/
def receive {ε : Type} (s : Session) (channel : Announcements → Channel ε)
    (subscription : Subscription) : Delivery ε × Subscription :=
  let (received, receiver) :=
    (channel (s.announcements subscription.era)).receive subscription.receiver
  (⟨received, !s.isOpen subscription.era⟩, { subscription with receiver })

theorem query_of_ne_ready {α : Type} {s : Session} (h : s.phase ≠ .ready) (operation : String)
    (answer : Except Error α) :
    s.query operation answer = .error (.rejected operation s.phase) := by
  simp [query, rejection?, h]

theorem call_of_ne_ready {α : Type} {s : Session} (h : s.phase ≠ .ready) (operation : String)
    (reply : Reply α) : s.call operation reply = (s, .error (.rejected operation s.phase)) := by
  simp [call, rejection?, h]

end Session

end GpuCluster
