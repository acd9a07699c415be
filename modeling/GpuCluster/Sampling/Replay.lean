import GpuCluster.Sampling.Sampler
import GpuCluster.Telemetry.Collector

/-!
# Replayed sources and limited inlets

A replayed source answers from recordings: the `n`-th call for a device gets the `n`-th answer, and
the last answer is given again and again. An inlet hands samples to a collector, and may be closed
after a number of them.
-/

namespace GpuCluster.Sampling

structure Replay where
  /-- The answers for each device; nothing stands for a failure. -/
  answers : Table DeviceId (List (Option (Sample Float)))
  /-- How often each device was asked for. -/
  calls : Table DeviceId Nat

namespace Replay

def ofAnswers (answers : Table DeviceId (List (Option (Sample Float)))) : Replay :=
  ⟨answers, .empty⟩

def callsOf (r : Replay) (id : DeviceId) : Nat := (r.calls.get? id).getD 0

/-- The answer to the next call. -/
def answer (r : Replay) (id : DeviceId) : Option (Sample Float) :=
  let answers := (r.answers.get? id).getD []
  (answers[min (r.callsOf id) (answers.length - 1)]?).bind fun answer => answer

/-- Answers one call. -/
def pull (r : Replay) (id : DeviceId) : Option (Sample Float) × Replay :=
  (r.answer id, { r with calls := r.calls.insert id (r.callsOf id + 1) })

end Replay

structure Inlet where
  collector : Telemetry.Collector
  /-- How many more samples are taken; without a number there is no limit. -/
  left : Option Nat

namespace Inlet

def deliver (i : Inlet) (s : Sample Float) : Verdict × Inlet :=
  match i.left with
  | some 0 => (.closed, i)
  | left =>
    let left := left.map (· - 1)
    match i.collector.record s with
    | .ok (collector, _) => (.accepted, ⟨collector, left⟩)
    | .error _ => (.rejected, { i with left })

end Inlet

/-- A sampler's surroundings made of a replayed source and an inlet. -/
def bench : Surroundings (Replay × Inlet) where
  pull id state :=
    let (sample, replay) := state.1.pull id
    (sample, replay, state.2)
  deliver s state :=
    let (verdict, inlet) := state.2.deliver s
    (verdict, state.1, inlet)

end GpuCluster.Sampling
