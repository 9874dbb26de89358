import ChatPortal.Gateway.Envelope
import ChatPortal.Gateway.Error
import ChatPortal.Http.Message
import ChatPortal.Json.Decoder
import ChatPortal.Json.Printer
import ChatPortal.Locale
import ChatPortal.Portal.ChatLine
import ChatPortal.Portal.Schema
import ChatPortal.Calendar.Instant
import ChatPortal.Route.Guard
import ChatPortal.Session.Handles
import ChatPortal.Client.Timeline
import ChatPortal.Config.Basic
import ChatPortal.Config.Folders
import ChatPortal.Main
import ChatPortal.Proofs.Reauth.Turns
import ChatPortal.Proofs.Client.Frame
import ChatPortal.Proofs.Client.History
import ChatPortal.Proofs.Client.Moves
import ChatPortal.Proofs.Client.Prompts
import ChatPortal.Proofs.App.Requests
import ChatPortal.Proofs.App.Stages
import ChatPortal.Proofs.App.Views
import ChatPortal.Proofs.Client.LastReply
import ChatPortal.Proofs.Client.Timing
import ChatPortal.Proofs.Client.Entries
import ChatPortal.Proofs.Client.Results
import ChatPortal.Proofs.Client.AnyOrder
import ChatPortal.Proofs.Client.Queues
import ChatPortal.Proofs.App.Course
import ChatPortal.Proofs.Client.Sending
import ChatPortal.Proofs.App.Settling
import ChatPortal.Proofs.App.Pace
import ChatPortal.Proofs.App.Revocation
import ChatPortal.Proofs.Text.Utf8
import ChatPortal.Proofs.Text.Boundary
import ChatPortal.Proofs.Url.Form
import ChatPortal.Proofs.Url.Reference
import ChatPortal.Proofs.Route.Return
import ChatPortal.Proofs.Route.Redirects
import ChatPortal.Proofs.Http.Header
import ChatPortal.Proofs.Client.Sharing
import ChatPortal.Proofs.App.Windows
import ChatPortal.Proofs.App.Conversation
import ChatPortal.Proofs.App.SigningIn
import ChatPortal.Proofs.Client.Envelopes
import ChatPortal.Proofs.Client.Quoting
import ChatPortal.Proofs.Client.Waiting
import ChatPortal.Proofs.Session.Handles
import ChatPortal.Proofs.Session.Recovery
import ChatPortal.Proofs.Config.Layers
import ChatPortal.Proofs.Client.Payloads
import ChatPortal.Proofs.Http.Address
import ChatPortal.Proofs.Portal.Clock
