import GpuCluster.Sample
import GpuCluster.Table

/-!
# Periodic sampling

A sampler runs one task per device. A task takes its first sample as soon as time moves on, and then
one in every interval, until it is stopped or told that no more samples are received. A source that
fails and a sample that is refused do not end it. An interval of no length cannot be kept, and ends
a task before its first sample. Tasks that are due at the same time go in the order in which they
were started.
-/

namespace GpuCluster.Sampling

/-- How a sample was received. -/
inductive Verdict where
  | accepted
  | rejected
  /-- No more samples are received. -/
  | closed
  deriving DecidableEq, Repr

/-- What the tasks of a sampler act upon. -/
structure Surroundings (σ : Type) where
  /-- Asks for a sample of a device, which may fail. -/
  pull : DeviceId → σ → Option (Sample Float) × σ
  deliver : Sample Float → σ → Verdict × σ

inductive Progress where
  /-- Not begun. -/
  | fresh
  | waiting (due : Nat)
  | ended
  deriving DecidableEq, Repr

structure Task where
  /-- Counts the tasks of the sampler. -/
  serial : Nat
  progress : Progress
  deriving DecidableEq, Repr

structure Sampler where
  /-- Milliseconds between two samples of a device. -/
  intervalMs : Nat
  /-- Milliseconds since the sampler was made. -/
  now : Nat
  tasks : Table DeviceId Task
  nextSerial : Nat
  isShutDown : Bool

namespace Task

def isActive (t : Task) : Bool := t.progress != .ended

/-- Begins, if it has not begun. -/
def wake (t : Task) (intervalMs now : Nat) : Task :=
  if t.progress ≠ .fresh then t
  else if intervalMs = 0 then { t with progress := .ended }
  else { t with progress := .waiting now }

/-- When the task is due, if it is by `limit`. -/
def due? (t : Task) (limit : Nat) : Option Nat :=
  match t.progress with
  | .waiting due => if due ≤ limit then some due else none
  | _ => none

end Task

/-- A tick of a task that is due. -/
structure Tick where
  deviceId : DeviceId
  due : Nat
  serial : Nat

/-- `a` comes before `b`. -/
def Tick.precedes (a b : Tick) : Bool :=
  a.due < b.due || (a.due = b.due && a.serial < b.serial)

namespace Sampler

def start (intervalMs : Nat) : Sampler :=
  ⟨intervalMs, 0, .empty, 0, false⟩

/-- Starts to sample a device; refused when it has a task or the sampler has shut down. -/
def spawn (s : Sampler) (id : DeviceId) : Sampler × Bool :=
  if s.isShutDown || s.tasks.contains id then (s, false)
  else ({ s with
    tasks := s.tasks.insert id ⟨s.nextSerial, .fresh⟩
    nextSerial := s.nextSerial + 1 }, true)

/-- Stops to sample a device; says whether it had a task. -/
def stop (s : Sampler) (id : DeviceId) : Sampler × Bool :=
  ({ s with tasks := s.tasks.erase id }, s.tasks.contains id)

/-- The devices that are being sampled, by id. -/
def running (s : Sampler) : List DeviceId :=
  (s.tasks.filter fun _ t => t.isActive).keys

def shutDown (s : Sampler) : Sampler :=
  { s with tasks := .empty, isShutDown := true }

/-- The next tick, if there is one by `limit`. -/
def next? (s : Sampler) (limit : Nat) : Option Tick :=
  let ticks := s.tasks.entries.filterMap fun (id, t) =>
    (t.due? limit).map fun due => Tick.mk id due t.serial
  ticks.foldl (fun first t => match first with
    | none => some t
    | some f => if t.precedes f then some t else first) none

variable {σ : Type}

/-- One sample of a device; says whether its task is over. -/
def sample (w : Surroundings σ) (id : DeviceId) (state : σ) : Bool × σ :=
  match w.pull id state with
  | (none, state) => (false, state)
  | (some s, state) =>
    let (verdict, state) := w.deliver s state
    (verdict = .closed, state)

/-- Runs one tick of a task. -/
def tick (w : Surroundings σ) (s : Sampler) (t : Tick) (state : σ) : Sampler × σ :=
  let (isOver, state) := sample w t.deviceId state
  let progress := if isOver then .ended else .waiting (t.due + s.intervalMs)
  ({ s with tasks := s.tasks.modify t.deviceId fun task => { task with progress } }, state)

/-- Runs the ticks that are due by `limit`, at most `count` of them. -/
def run (w : Surroundings σ) (limit : Nat) : (count : Nat) → Sampler → σ → Sampler × σ
  | 0, s, state => (s, state)
  | count + 1, s, state =>
    match s.next? limit with
    | none => (s, state)
    | some t =>
      let (s, state) := s.tick w t state
      run w limit count s state

/-- The tasks cannot tick more often than this within `ms` milliseconds. -/
def tickBound (s : Sampler) (ms : Nat) : Nat :=
  s.tasks.size * (ms / s.intervalMs + 1)

/-- Lets `ms` milliseconds pass. -/
def advance (w : Surroundings σ) (s : Sampler) (ms : Nat) (state : σ) : Sampler × σ :=
  let awake := { s with tasks := s.tasks.map fun _ t => t.wake s.intervalMs s.now }
  let (s', state) := run w (s.now + ms) (s.tickBound ms) awake state
  ({ s' with now := s.now + ms }, state)

end Sampler

end GpuCluster.Sampling
