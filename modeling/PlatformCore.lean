import PlatformCore.Base64
import PlatformCore.Clock
import PlatformCore.Event
import PlatformCore.Hash.Hmac
import PlatformCore.Routing.Filter
import PlatformCore.Routing.Table
import PlatformCore.Text.Alphanumeric
import PlatformCore.Text.Blank
import PlatformCore.Text.Quoted
import PlatformCore.Text.Utf8
import PlatformCore.Http.Message
import PlatformCore.Network.Address
import PlatformCore.Registry
import PlatformCore.Settings.Basic
import PlatformCore.Log.Record
import PlatformCore.Session.BanList
import PlatformCore.Session.Error
import PlatformCore.Session.Token
import PlatformCore.Session.Cookie
import PlatformCore.Session.UserStore
import PlatformCore.Session.Gateway
import PlatformCore.Session.Crowd
import PlatformCore.Session.Desk
import PlatformCore.Document.Json
import PlatformCore.Event.Codec
import PlatformCore.Settings.Decode
import PlatformCore.Settings.Environment
import PlatformCore.Settings.Validity
import PlatformCore.Document.Toml
import PlatformCore.Settings.Load
import PlatformCore.Log.Setup
import PlatformCore.Bus.Step
import PlatformCore.Watchers
import PlatformCore.Stage.Basic
import PlatformCore.Platform
import PlatformCore.Launch
import PlatformCore.Main
import PlatformCore.Session.Visit
import PlatformCore.Proofs.Bus.History
import PlatformCore.Proofs.Bus.Order
import PlatformCore.Proofs.Bus.Loss
import PlatformCore.Proofs.Session.Acceptance
import PlatformCore.Proofs.Session.Standing
import PlatformCore.Proofs.Session.Pace
import PlatformCore.Proofs.Session.Records
import PlatformCore.Proofs.Bus.Close
import PlatformCore.Proofs.Session.Genuine
import PlatformCore.Proofs.Http.Value
import PlatformCore.Proofs.Session.RoundTrip
import PlatformCore.Proofs.Session.Lifetime
import PlatformCore.Proofs.Routing.Matching
import PlatformCore.Proofs.Bus.Isolation
import PlatformCore.Proofs.Bus.Rest
import PlatformCore.Proofs.Session.Window
import PlatformCore.Proofs.Session.Enforcement
import PlatformCore.Proofs.Session.Concealment
import PlatformCore.Proofs.Bus.Drain
import PlatformCore.Proofs.Bus.Handover
import PlatformCore.Proofs.Session.Omission
import PlatformCore.Proofs.Session.Sweeping
import PlatformCore.Proofs.Session.Independence
import PlatformCore.Proofs.Session.Rush
import PlatformCore.Proofs.Service.Watch
import PlatformCore.Service
import PlatformCore.Proofs.Service.Course
import PlatformCore.Proofs.Session.Rejection
import PlatformCore.Proofs.Service.Progress
import PlatformCore.Proofs.Service.Audit
import PlatformCore.Proofs.Service.Orders
import PlatformCore.Proofs.Session.Decision
import PlatformCore.Proofs.Session.Extraction
import PlatformCore.Proofs.Settings.Layers
import PlatformCore.Proofs.Document.Json
import PlatformCore.Proofs.Event.Codec
