import CpuAlert.Api.MediaType
import CpuAlert.Api.Message
import CpuAlert.Api.Query
import CpuAlert.Api.Role
import CpuAlert.Api.Router
import CpuAlert.Api.Stream
import CpuAlert.Channel
import CpuAlert.Channel.Email
import CpuAlert.Channel.Mailbox
import CpuAlert.Channel.Telegram
import CpuAlert.Config
import CpuAlert.Config.Update
import CpuAlert.Credentials
import CpuAlert.Decimal.Binary
import CpuAlert.Decimal.Fixed
import CpuAlert.Decimal.Scaled
import CpuAlert.Decimal.Shortest
import CpuAlert.Decimal.Significant
import CpuAlert.Delivery
import CpuAlert.Domain.Ascii
import CpuAlert.Domain.Composition
import CpuAlert.Domain.Direction
import CpuAlert.Domain.Joining
import CpuAlert.Domain.Mapping
import CpuAlert.Domain.Mark
import CpuAlert.Domain.Punycode
import CpuAlert.Environment
import CpuAlert.Evaluator
import CpuAlert.Event
import CpuAlert.Json.Decode
import CpuAlert.Json.Doc
import CpuAlert.Json.Value
import CpuAlert.Level
import CpuAlert.Live
import CpuAlert.Main
import CpuAlert.Program
import CpuAlert.Secret.Aes
import CpuAlert.Secret.Base64
import CpuAlert.Secret.Cipher
import CpuAlert.Secret.Gcm
import CpuAlert.Secret.Mask
import CpuAlert.Service
import CpuAlert.Service.Loop
import CpuAlert.Service.Observe
import CpuAlert.Service.Update
import CpuAlert.ServiceError
import CpuAlert.Settings
import CpuAlert.Settings.Address
import CpuAlert.Snapshot
import CpuAlert.Status
import CpuAlert.Store
import CpuAlert.Store.Backend
import CpuAlert.Store.Cell
import CpuAlert.Store.Database
import CpuAlert.Store.Edit
import CpuAlert.Store.Memory
import CpuAlert.Text.Alphanumeric
import CpuAlert.Text.Blank
import CpuAlert.Text.Graphic
import CpuAlert.Text.Pieces
import CpuAlert.Text.Quoted
import CpuAlert.Text.Table
import CpuAlert.Text.Utf8
import CpuAlert.Time.Calendar
import CpuAlert.Time.Instant
import CpuAlert.Time.Rfc3339
import CpuAlert.View
import CpuAlert.Wire.Config
import CpuAlert.Wire.History
import CpuAlert.World
import CpuAlert.Proofs.Config.Usable
import CpuAlert.Proofs.Evaluator.Firing
import CpuAlert.Proofs.Program.Run
import CpuAlert.Proofs.Service.Update
import CpuAlert.Proofs.Service.Operations
import CpuAlert.Proofs.Service.Serial
import CpuAlert.Proofs.Service.Serializable
import CpuAlert.Proofs.Evaluator.Silence
import CpuAlert.Proofs.Delivery.Course
import CpuAlert.Proofs.Evaluator.Sendings
import CpuAlert.Proofs.Evaluator.Spacing
import CpuAlert.Proofs.Service.LoopWatch
import CpuAlert.Proofs.Service.Refinement
import CpuAlert.Proofs.Store.Agreement
import CpuAlert.Proofs.Delivery.Cancellation
import CpuAlert.Proofs.Secret.Base64
import CpuAlert.Proofs.Secret.Cipher
import CpuAlert.Proofs.Service.Restart
import CpuAlert.Proofs.Service.Recording
import CpuAlert.Proofs.Service.Unheeded
import CpuAlert.Proofs.Service.LoopEnd
import CpuAlert.Proofs.Evaluator.Emissions
import CpuAlert.Proofs.Service.Conservation
import CpuAlert.Proofs.Service.Accounts
import CpuAlert.Proofs.Secret.Token
import CpuAlert.Proofs.Secret.BlockCipher
import CpuAlert.Proofs.Secret.Field
import CpuAlert.Proofs.Api.Access
import CpuAlert.Proofs.Secret.Tampering
import CpuAlert.Proofs.Store.Log
import CpuAlert.Proofs.Store.Paging
import CpuAlert.Proofs.Evaluator.Levels
import CpuAlert.Proofs.Service.Survival
import CpuAlert.Proofs.Service.Masked
import CpuAlert.Proofs.Service.Relay
import CpuAlert.Proofs.Store.Retention
import CpuAlert.Proofs.Config.Order
import CpuAlert.Proofs.Service.Rules
import CpuAlert.Proofs.Service.Fitness
import CpuAlert.Proofs.Service.Listing
import CpuAlert.Proofs.Service.Leaving
import CpuAlert.Proofs.Service.Abandoned
import CpuAlert.Proofs.Api.ReadOnly
import CpuAlert.Proofs.Store.Lost
import CpuAlert.Proofs.Program.Turns
import CpuAlert.Proofs.Delivery.Counting
import CpuAlert.Proofs.Service.Cleaning
import CpuAlert.Proofs.Service.Sweeping
import CpuAlert.Proofs.Evaluator.Coherence
import CpuAlert.Proofs.Config.Overlay
import CpuAlert.Proofs.Delivery.Chats
import CpuAlert.Proofs.Store.Damage
import CpuAlert.Proofs.Store.Columns
import CpuAlert.Proofs.Time.Span
