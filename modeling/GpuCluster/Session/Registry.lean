import GpuCluster.Session.State

/-!
# Registering devices

A registered device has a lane for its samples, a slot in the collector and an executor in the
monitor, and a task of the sampler while sampling runs. Removing a device gives up all of these, and
every assignment that placed a shard on it.
-/

namespace GpuCluster.Session

/-- Enters a device that is not registered yet. -/
def enter (s : Session) (d : Device) (endpoint : Option String) : Session :=
  { s with
    registry := s.registry.insert d.id ⟨d, endpoint, true, none⟩
    lanes := s.lanes.insert d.id ()
    collector := s.collector.register d.id
    monitor := s.monitor.register d.id (.ofClass d.deviceClass)
    sampler := s.sampler.map fun sampler => (sampler.spawn d.id).1 }

/--
Registers a device and says whether it is new. The description of a registered device cannot change;
announcing it again only renews the endpoint.
-/
def announce (s : Session) (d : Device) (endpoint : Option String) : Reply Bool :=
  match d.fault? with
  | some fault => (s, .error (.device fault))
  | none =>
    match s.registry.get? d.id with
    | none => (s.enter d endpoint, .ok true)
    | some entry =>
      if entry.device.same d then
        let endpoint := endpoint.or entry.endpoint
        ({ s with registry := s.registry.insert d.id { entry with endpoint } }, .ok false)
      else (s, .error (.differentDescriptor d.id))

def registerDevice (s : Session) (d : Device) : Reply Bool :=
  s.call "register_device" (s.announce d none)

/-- The stored assignments that place a shard on a device. -/
def assignmentsOn (s : Session) (id : DeviceId) : List AssignmentId :=
  (s.assignments.filter fun _ a => a.references id).keys

/-- Removes a device; gives the assignments that this makes invalid. -/
def removeDevice (s : Session) (id : DeviceId) : Reply (List AssignmentId) :=
  s.call "remove_device"
    (if s.isRegistered id then
      ({ s with
        registry := s.registry.erase id
        lanes := s.lanes.erase id
        collector := s.collector.remove id
        monitor := s.monitor.remove id
        sampler := s.sampler.map fun sampler => (sampler.stop id).1
        assignments := s.assignments.filter fun _ a => !a.references id },
       .ok (s.assignmentsOn id))
    else (s, .error (.unknownDevice id)))

/-- All registered devices, by id. -/
def devices (s : Session) : Except Error (List RegisteredDevice) :=
  s.query "devices" (.ok s.registry.values)

def device (s : Session) (id : DeviceId) : Except Error RegisteredDevice :=
  s.queryDevice "device" id fun entry => entry

end GpuCluster.Session
