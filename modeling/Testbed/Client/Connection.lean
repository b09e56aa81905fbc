import Testbed.Host.Site

/-!
# Reaching the cluster

The configuration of the cluster comes from an explicit file, else from inside the cluster, else
from the default file.
-/

set_option autoImplicit false

namespace Testbed.Client

variable {τ ω : Type} [Host τ ω]

/-- Whether the fault says that there is no configuration, rather than that it is broken. -/
def isUnconfigured : Fault τ → Bool
  | .plain .configuration _ => true
  | _ => false

/-- Logs where the configuration came from. -/
def logLoaded (source : String) (fields : List (String × Detail τ)) : SiteM τ ω Unit :=
  Site.log .info "kube.config_loaded" (("source", .text source) :: fields)

/-- Loads the configuration of the cluster. An empty path is none. The default file is tried only
if the inside of a cluster says that it has no configuration. -/
def loadConfiguration (path context : Option String) : SiteM τ ω Unit :=
  match path.filter fun p => !p.isEmpty with
  | some path => do
    Site.call (.loadFile (some path) context)
    logLoaded "kubeconfig" [("path", .text path), ("context", .text? context)]
  | none =>
    Proc.rescue
      (do
        Site.call .loadInside
        logLoaded "in-cluster" [])
      fun e =>
        if isUnconfigured e then do
          Site.call (.loadFile none context)
          logLoaded "default-kubeconfig" [("context", .text? context)]
        else .fail e

end Testbed.Client
