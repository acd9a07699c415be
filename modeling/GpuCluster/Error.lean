import GpuCluster.Config.Load
import GpuCluster.Distribution.Split
import GpuCluster.LogFilter
import GpuCluster.Placement.Solve
import GpuCluster.Telemetry.Collector
import GpuCluster.Thermal.Monitor

/-!
# Errors

An error is one of the causes below. Its kind says which class of failure it belongs to, and its
message is the heading of that kind followed by the particulars of the cause.
-/

namespace GpuCluster

inductive ErrorKind where
  | validation
  | unknownDevice
  | notInitialized
  | capacity
  | infeasible
  | thermalLimit
  | config
  | serialization
  | unsupportedSchema
  | io
  | internal
  deriving DecidableEq, Repr

namespace ErrorKind

def name : ErrorKind → String
  | validation => "Validation"
  | unknownDevice => "UnknownDevice"
  | notInitialized => "NotInitialized"
  | capacity => "Capacity"
  | infeasible => "Infeasible"
  | thermalLimit => "ThermalLimit"
  | config => "Config"
  | serialization => "Serialization"
  | unsupportedSchema => "UnsupportedSchema"
  | io => "Io"
  | internal => "Internal"

def all : List ErrorKind :=
  [validation, unknownDevice, notInitialized, capacity, infeasible, thermalLimit, config,
   serialization, unsupportedSchema, io, internal]

/-- How messages of the kind begin. -/
def heading : ErrorKind → String
  | validation => "Validation error: "
  | unknownDevice => "Unknown device: "
  | notInitialized => "Not initialized: "
  | capacity => "Capacity error: "
  | infeasible => "Placement infeasible: "
  | thermalLimit => "Thermal limit on device "
  | config => "Configuration error: "
  | serialization => "Serialization error: "
  | unsupportedSchema => "Unsupported schema version: "
  | io => "IO error: "
  | internal => "Internal error: "

/-- A demand that exceeds what the devices can give. -/
def isCapacity (k : ErrorKind) : Bool := k = capacity || k = infeasible

/-- A refusal of the caller's input. -/
def isValidation (k : ErrorKind) : Bool := k = validation

end ErrorKind

open Number (inFull withPlaces)

namespace DeviceFault

def text : DeviceFault → String
  | blankId => "device must have a non-empty id"
  | noMemory id => "device " ++ id ++ " reports zero total memory"
  | bandwidth id x => "device " ++ id ++ " has invalid memory bandwidth " ++ inFull x

end DeviceFault

namespace SampleFault

def text : SampleFault Float → String
  | utilization id x => "utilization out of range [0, 100] for " ++ id ++ ": " ++ inFull x ++ "%"
  | negativeUsed id n => "memory used cannot be negative for " ++ id ++ ": " ++ toString n
  | noTotal id n => "total memory must be positive for " ++ id ++ ": " ++ toString n
  | overfull id used total =>
    "used memory (" ++ toString used ++ ") exceeds total (" ++ toString total ++ ") for " ++ id
  | temperature id x => "temperature below absolute zero for " ++ id ++ ": " ++ inFull x ++ "°C"
  | power id x => "power draw must be a non-negative number for " ++ id ++ ": " ++ inFull x ++ "W"

end SampleFault

namespace ConfigFault

def text : ConfigFault Float → String
  | notPositive field => field ++ " must be positive"
  | negative field => field ++ " must be non-negative"
  | negativeThreshold name x =>
    "telemetry.change_thresholds." ++ name ++ " must be non-negative, got " ++ inFull x
  | notFinite field x => field ++ " must be a finite number, got " ++ inFull x
  | negativeWeight => "scoring weights must be non-negative"
  | weightSum x => "scoring weights must sum to 1, got " ++ inFull x
  | criticalTooLow critical highWater =>
    "scoring.critical_c (" ++ inFull critical ++ ") must exceed scoring.high_water_c (" ++
      inFull highWater ++ ")"
  | factorOutOfRange => "scoring.precision_reduced_factor must be within [0, 1]"
  | resumeTooLow resume soft =>
    "thermal.resume_margin_c (" ++ inFull resume ++ ") must exceed thermal.soft_margin_c (" ++
      inFull soft ++ ")"
  | ambientTooHigh => "thermal.ambient_c must be below the resume threshold"

end ConfigFault

namespace Config.LoadFault

def text : LoadFault → String
  | missingFile => "Failed to read config file: No such file or directory (os error 2)"
  | notText => "Failed to read config file: stream did not contain valid UTF-8"
  | malformed => "Failed to parse config"
  | faulty fault => fault.text

end Config.LoadFault

namespace Distribution.Fault

/-- A repeated device is a fault of the input, all else a lack of capacity. -/
def kind : Fault → ErrorKind
  | duplicateDevice _ => .validation
  | _ => .capacity

def text : Fault → String
  | duplicateDevice id => "device " ++ id ++ " listed more than once"
  | noDevices items => "no devices to receive " ++ toString items ++ " items"
  | invalidCapacity id x => "device " ++ id ++ " has invalid capacity " ++ inFull x
  | noCapacity total => "total capacity must be positive, got " ++ inFull total
  | capExceeded items cap devices =>
    toString items ++ " items exceed the cap of " ++ toString cap ++ " per device across " ++
      toString devices ++ " eligible devices"

end Distribution.Fault

namespace Placement.Misfit

def text : Misfit → String
  | unknownDevice id => id
  | overcommitted id bytes free =>
    "device " ++ id ++ " assigned " ++ toString bytes ++ " bytes but has " ++ toString free ++
      " free"

end Placement.Misfit

namespace Thermal.TooHot

def text (t : TooHot) : String :=
  t.deviceId ++ ": " ++ withPlaces 1 t.temperature ++ "°C"

end Thermal.TooHot

/-- The phases of a session. -/
inductive Phase where
  | uninitialized
  | ready
  /-- No new work is admitted, while calls that are under way come to their end. -/
  | shuttingDown
  deriving DecidableEq, Repr

namespace Phase

def name : Phase → String
  | uninitialized => "uninitialized"
  | ready => "ready"
  | shuttingDown => "shutting down"

end Phase

inductive Error where
  /-- A call outside the phase in which it is admitted. -/
  | rejected (operation : String) (phase : Phase)
  | shutdownInProgress
  | unknownDevice (id : DeviceId)
  | differentDescriptor (id : DeviceId)
  | alreadySampling
  | noSample (id : DeviceId)
  | blankHostname
  /-- A heartbeat with a sample of another device. -/
  | foreignSample (id sampled : DeviceId)
  | device (fault : DeviceFault)
  | sample (fault : SampleFault Float)
  | config (fault : Config.LoadFault)
  | logging (fault : LoggingFault)
  | noShards
  | infeasible (failure : Placement.Failure)
  | misfit (cause : Placement.Misfit)
  | distribution (fault : Distribution.Fault)
  | unknownStrategy (name : String)
  | tooHot (cause : Thermal.TooHot)
  /-- A text that does not follow its schema. -/
  | unreadable
  | unsupportedSchema (version : Nat)

namespace Error

def kind : Error → ErrorKind
  | rejected _ _ | shutdownInProgress => .notInitialized
  | unknownDevice _ | misfit (.unknownDevice _) => .unknownDevice
  | config _ => .config
  | logging .unwritableFile => .io
  | logging _ => .config
  | infeasible _ => .infeasible
  | distribution fault => fault.kind
  | tooHot _ => .thermalLimit
  | unreadable => .serialization
  | unsupportedSchema _ => .unsupportedSchema
  | differentDescriptor _ | alreadySampling | noSample _ | blankHostname | foreignSample _ _
  | device _ | sample _ | noShards | misfit _ | unknownStrategy _ => .validation

/-- What the message says after its heading. -/
def detail : Error → String
  | rejected operation phase => operation ++ " rejected: manager is " ++ phase.name
  | shutdownInProgress => "shutdown in progress"
  | unknownDevice id => id
  | differentDescriptor id =>
    "device " ++ id ++ " is already registered with a different descriptor"
  | alreadySampling => "telemetry sampling already running"
  | noSample id => "no metrics recorded for device " ++ id
  | blankHostname => "registration must name a hostname"
  | foreignSample id sampled => "heartbeat for " ++ id ++ " carries metrics for " ++ sampled
  | device fault => fault.text
  | sample fault => fault.text
  | config fault => fault.text
  | logging .invalidLevel => "invalid log level"
  | logging .unwritableFile => "log file"
  | logging (.unknownFormat name) => "unknown log format: " ++ name
  | noShards => "placement request has no shards"
  | infeasible failure => failure.text
  | misfit cause => cause.text
  | distribution fault => fault.text
  | unknownStrategy name => "unknown distribution strategy: " ++ name
  | tooHot cause => cause.text
  | unreadable => "malformed text"
  | unsupportedSchema version => toString version

def message (e : Error) : String := e.kind.heading ++ e.detail

def ofConfigFault (fault : ConfigFault Float) : Error := config (.faulty fault)

def ofTelemetry : Telemetry.Refusal → Error
  | .unknownDevice id => unknownDevice id
  | .faulty fault => sample fault

def ofPlacement : Placement.Refusal → Error
  | .noShards => noShards
  | .infeasible failure => infeasible failure

def ofThermal : Thermal.Monitor.Refusal → Error
  | .unknownDevice id => unknownDevice id
  | .tooHot cause => tooHot cause

end Error

end GpuCluster
