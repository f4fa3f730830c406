import LtiLaunch.Dispatch.Selection

/-!
# Dispatching a launch

A launch is answered in three stages: the candidate is chosen, its preparations are made in order,
and its handler runs. The first failure ends the launch.
-/

namespace LtiLaunch.Stages

variable {σ : Type}

def prepare (backend : Backend σ) (r : LaunchRequest) : Preparation → LaunchM σ Unit
  | .upsertUser => backend.upsertUser r
  | .upsertCourseGroup => backend.upsertCourseGroup r

def preparationFailed (candidate : String) (step : Preparation) (e : LaunchError) : JournalEntry :=
  .event .warn "dispatch" "launch_pre_step_failed"
    [("candidate", .text candidate), ("pre_step", .text step.name), ("error", .text e.message)]

def prepareAll (backend : Backend σ) (r : LaunchRequest) (candidate : String) :
    List Preparation → LaunchM σ Unit
  | [] => return ()
  | step :: steps => do
    tryCatch (prepare backend r step) fun e => do
      backend.journal (preparationFailed candidate step e)
      throw e
    prepareAll backend r candidate steps

def handlerFailed (candidate : String) (e : LaunchError) : JournalEntry :=
  .event .warn "dispatch" "launch_handler_failed"
    [("candidate", .text candidate), ("kind", .text e.kind.name), ("error", .text e.message)]

def began (r : LaunchRequest) : JournalEntry :=
  .span .info "dispatch" "launch_dispatch"
    [("route", .text r.route.name), ("method", .text r.method.name)]

def answer (backend : Backend σ) (t : DispatchTable (Handler σ)) (r : LaunchRequest) :
    LaunchM σ View := do
  backend.journal (began r)
  let c ← Selection.choose backend t r
  prepareAll backend r c.name c.preparations
  tryCatch (c.handler r) fun e => do
    backend.journal (handlerFailed c.name e)
    throw e

end LtiLaunch.Stages
