import GpuCluster.Config

/-!
# Execution modes

A device runs, computes at reduced precision, or is paused. A critical temperature pauses it from
any mode. A running device is slowed down when its forecast reaches the soft limit; a paused one
goes on only when its temperature has fallen below the resume threshold.
-/

namespace GpuCluster.Thermal

inductive Mode where
  | running
  | precisionReduced
  | paused
  deriving DecidableEq, Repr

namespace Mode

def name : Mode → String
  | running => "running"
  | precisionReduced => "precision_reduced"
  | paused => "paused"

def names : List (String × Mode) :=
  [("running", running), ("precision_reduced", precisionReduced), ("paused", paused)]

/-- New compute may start. -/
def acceptsWork (m : Mode) : Bool := m != paused

end Mode

/-- The temperatures that decide on the mode. -/
structure Thresholds where
  critical : Float
  softLimit : Float
  resumeBelow : Float
  reducesPrecision : Bool

def Thresholds.of (p : ThermalPolicy) : Thresholds where
  critical := p.critical
  softLimit := p.softLimit
  resumeBelow := p.resumeBelow
  reducesPrecision := p.reducesPrecision

/-- The mode after a reading: the measured temperature and its forecast. -/
def nextMode (t : Thresholds) (mode : Mode) (current predicted : Float) : Mode :=
  if t.critical ≤ current then .paused
  else match mode with
    | .running =>
      if t.softLimit ≤ predicted then
        if t.reducesPrecision then .precisionReduced else .paused
      else .running
    | .precisionReduced =>
      if t.softLimit ≤ current then .paused
      else if predicted < t.resumeBelow then .running
      else .precisionReduced
    | .paused => if current < t.resumeBelow then .running else .paused

theorem nextMode_of_critical {t : Thresholds} {current : Float} (h : t.critical ≤ current)
    (mode : Mode) (predicted : Float) : nextMode t mode current predicted = .paused := by
  simp [nextMode, h]

end GpuCluster.Thermal
