import LtiLaunch.Config.Basic
import LtiLaunch.Http.Service
import LtiLaunch.Service.Memory
import LtiLaunch.Views.Default

/-!
# The wired service

A configuration determines a whole service: the default views over a backend in memory.
`Service.answers` serves requests one after the other.
-/

namespace LtiLaunch

/-- What a service keeps between requests: its store, and its journal with the latest entry first.
-/
structure ServiceState where
  store : AssignmentStore
  journal : List JournalEntry

structure Service where
  backend : Backend ServiceState
  table : DispatchTable (Handler ServiceState)
  initial : ServiceState

namespace Service

def note (e : JournalEntry) : StateM ServiceState Unit :=
  modify fun s => { s with journal := e :: s.journal }

def memoryBackend (isUrl : String → Bool) (directory : InstanceDirectory)
    (flags : SortedMap String Bool) : Backend ServiceState :=
  Memory.backend isUrl ServiceState.store directory flags
    (Memory.canvasFilesAvailable fun key => return directory.developerKey? key) note

def settings (c : Config) (credentials : PickerCredentials) : DefaultViews.Settings :=
  { publicBaseUrl := c.server.publicBaseUrl, credentials }

def ofConfig (isUrl : String → Bool) (c : Config) : Except LaunchError Service := do
  let credentials ← c.credentials
  let directory ← (InstanceDirectory.ofList c.instances).mapError InstanceDirectory.Refusal.error
  let backend := memoryBackend isUrl directory c.featureFlags
  let table ← (DefaultViews.addTo .builtin (settings c credentials) backend .empty).mapError
    DispatchTable.Refusal.error
  return { backend, table, initial := { store := .ofSeeds c.assignments, journal := [] } }

def respond (s : Service) (q : Http.Request) : StateM ServiceState Http.Response :=
  Http.serve s.backend s.table q

/-- The answers to requests that come one after the other. -/
def answers (s : Service) (qs : List Http.Request) : List Http.Response :=
  ((qs.mapM s.respond).run s.initial).1

def routeRegistered (route : RouteKey) (candidates : Nat) : JournalEntry :=
  .event .debug "dispatch" "launch_route_registered"
    [("route", .text route.text), ("candidates", .count candidates)]

def opening (s : Service) (configPath : String) : List JournalEntry :=
  s.table.routes.entries.map (fun e => routeRegistered e.1 e.2.length) ++
    [.event .info "server" "launch_dispatcher_ready"
      [("routes", .count s.table.routes.size), ("config", .text configPath)]]

end Service

end LtiLaunch
