import GpuCluster.Config.Settings
import GpuCluster.Toml.Document

/-!
# Loading a configuration

A configuration is a TOML document. It is loaded when the document can be read and none of its
sections has a fault.
-/

namespace GpuCluster.Config

/-- Why a configuration cannot be loaded. -/
inductive LoadFault where
  | missingFile
  | notText
  | malformed
  | faulty (fault : ConfigFault Float)

/-- The configuration that a document describes. -/
def ofToml (text : String) : Except LoadFault Config :=
  match (Toml.ofText? text).bind fun entries => read? (Toml.table entries) with
  | none => .error .malformed
  | some config =>
    match config.fault? with
    | some fault => .error (.faulty fault)
    | none => .ok config

/-- The configuration in a file with the given contents, if the file exists. -/
def ofFile (contents : Option ByteArray) : Except LoadFault Config :=
  match contents with
  | none => .error .missingFile
  | some bytes =>
    match String.fromUTF8? bytes with
    | none => .error .notText
    | some text => ofToml text

theorem fault?_of_ofToml {text : String} {config : Config} (h : ofToml text = .ok config) :
    config.fault? = none := by
  unfold ofToml at h
  split at h
  · simp at h
  · split at h
    · simp at h
    · rename_i hfault
      simp only [Except.ok.injEq] at h
      rwa [← h]

/-- A configuration that is loaded from a file has no fault. -/
theorem fault?_of_ofFile {contents : Option ByteArray} {config : Config}
    (h : ofFile contents = .ok config) : config.fault? = none := by
  unfold ofFile at h
  split at h
  · simp at h
  · split at h
    · simp at h
    · exact fault?_of_ofToml h

end GpuCluster.Config
