import ClusterMembership.Json.Reader
import ClusterMembership.Target
/-!
# Pools

A pool is the list of a cluster's nodes as the administration interface gives it. A node is found in it by the text of
its address.
-/
namespace ClusterMembership.Rest

/-- One node of a pool. -/
structure PoolNode where
  /-- Host and port of its administration interface. -/
  hostname : String
  /-- The name by which requests refer to it. -/
  otpNode : String
deriving DecidableEq

/-- The nodes of a cluster. -/
structure Pool where
  nodes : List PoolNode
deriving DecidableEq

/-- A pool node of which fields may still be missing. -/
structure PoolNode.Draft where
  hostname : Option String := none
  otpNode : Option String := none

def PoolNode.shape : Json.Shape PoolNode.Draft where
  name := "PoolNode"
  fields := [
    .ofReader "hostname" (·.hostname) (fun d h => { d with hostname := some h }) Json.readString,
    .ofReader "otpNode" (·.otpNode) (fun d n => { d with otpNode := some n }) Json.readString]
  blank := {}
  mayEndEarly := false

def PoolNode.read : Json.Reader PoolNode := (Json.readRecord PoolNode.shape).andThen fun d => do
  return ⟨← Json.required "hostname" d.hostname, ← Json.required "otpNode" d.otpNode⟩

namespace Pool

/-- A pool whose nodes may still be missing. -/
structure Draft where
  nodes : Option (List PoolNode) := none

def shape : Json.Shape Draft where
  name := "PoolDetails"
  fields := [.ofReader "nodes" (·.nodes) (fun d ns => { d with nodes := some ns }) (Json.readList PoolNode.read)]
  blank := {}
  mayEndEarly := false

def read : Json.Reader Pool := (Json.readRecord shape).andThen fun d => do
  return ⟨← Json.required "nodes" d.nodes⟩

def ofBody? (body : List UInt8) : Option Pool := (Json.readWhole read (Text.symbols body)).toOption

def find? (p : Pool) (a : Address) : Option PoolNode := p.nodes.find? (·.hostname = a.text)

def names (p : Pool) : List String := p.nodes.map (·.otpNode)

end Pool

end ClusterMembership.Rest
