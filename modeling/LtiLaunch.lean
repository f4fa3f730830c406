import LtiLaunch.Config.Shipped
import LtiLaunch.Files.Tree
import LtiLaunch.Logging.Start
import LtiLaunch.Main
import LtiLaunch.Proofs.ContentItem.Replay
import LtiLaunch.Proofs.Dispatch.Order
import LtiLaunch.Proofs.Service.Status
import LtiLaunch.Proofs.Dispatch.Overlap
import LtiLaunch.Proofs.Launch.Trace
import LtiLaunch.Proofs.Dispatch.Run
import LtiLaunch.Proofs.Dispatch.Refinement
import LtiLaunch.Proofs.Views.Reply
import LtiLaunch.Proofs.Service.Secrets
import LtiLaunch.Proofs.Json.Lexing
import LtiLaunch.Proofs.Json.Reading
import LtiLaunch.Proofs.Json.Record
import LtiLaunch.Proofs.Wire
import LtiLaunch.Proofs.Dispatch.Registration
import LtiLaunch.Proofs.Dispatch.Effects
import LtiLaunch.Proofs.Config.Completion
import LtiLaunch.Proofs.Config.Gate
import LtiLaunch.Proofs.Config.Load
import LtiLaunch.Proofs.Http.Parameters
import LtiLaunch.Proofs.Assignment.Resolution
import LtiLaunch.Proofs.Views.Shown
import LtiLaunch.Proofs.Service.SharedStore
import LtiLaunch.Proofs.Files.Tree
import LtiLaunch.Proofs.Launch.Roles
import LtiLaunch.Proofs.Logging.Retention
import LtiLaunch.Proofs.Logging.Defaults
import LtiLaunch.Proofs.Dispatch.Vocabulary
import LtiLaunch.Proofs.Service.Startup
import LtiLaunch.Proofs.Views.Gathering
