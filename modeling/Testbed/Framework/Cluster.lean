import Testbed.Diagnostics.Dump
import Testbed.Framework.Basic
import Testbed.Namespace.Creation
import Testbed.Namespace.Deletion
import Testbed.Namespace.ServiceAccount
import Testbed.Pod.Readiness

/-!
# The operations of a cluster

What a framework needs of its cluster. A live cluster does it by the operations of this library,
with the times of its configuration; a stub is asked to do it. Each operation goes through a client
of the framework, which all its calls carry.
-/

set_option autoImplicit false

namespace Testbed.Cluster

variable {τ ω : Type} [Seconds τ] [Host τ ω]

omit [Seconds τ] in
/-- Makes a client for a component: loads the configuration of the cluster, then connects. -/
def connect (options : Config.ClientOptions τ) (component : Option String) : SiteM τ ω String := do
  Site.call .loadCluster
  Site.call (.newClient options.qps options.burst component)

/-- Creates a namespace. -/
def createNamespace (c : Cluster τ) (baseName client : String) (labels : Labels) :
    SiteM τ ω Namespace.Record :=
  match c with
  | .live config =>
    Namespace.createThrough client baseName labels config.namespaceCreationTimeout
      Poll.standardInterval
  | .stub => Site.call (.provide baseName client labels)

/-- Deletes a namespace. -/
def deleteNamespace (c : Cluster τ) (name client : String) (timeout : τ) : SiteM τ ω Unit :=
  match c with
  | .live _ => Namespace.deleteThrough client name timeout Poll.standardInterval
  | .stub => Site.call (.dispose name client timeout)

/-- Waits for the default service account of a namespace. -/
def awaitServiceAccount (c : Cluster τ) (ns client : String) : SiteM τ ω Unit :=
  match c with
  | .live config =>
    Namespace.awaitServiceAccountThrough client ns config.serviceAccountTimeout
      Poll.standardInterval
  | .stub => Site.call (.awaitAccount client ns)

omit [Seconds τ] in
/-- Logs what happened in a namespace. -/
def dump (c : Cluster τ) (ns client : String) : SiteM τ ω Unit :=
  match c with
  | .live _ => Diagnostics.dumpThrough client ns
  | .stub => Site.call (.describe client ns)

/-- Waits for a pod to run. -/
def awaitPod (c : Cluster τ) (pod ns client : String) (timeout : τ) : SiteM τ ω Unit :=
  match c with
  | .live _ => Pod.awaitRunningThrough client pod ns timeout Poll.standardInterval
  | .stub => Site.call (.awaitPod client pod ns timeout)

end Testbed.Cluster
