import Storyline.Action
import Storyline.Bus.Basic
import Storyline.Bus.Telling
import Storyline.CommandLine
import Storyline.Condition
import Storyline.Config
import Storyline.Config.EnvFile
import Storyline.Content.File
import Storyline.Content.Index
import Storyline.Content.Problem
import Storyline.Decimal.Binary
import Storyline.Decimal.Layout
import Storyline.Decimal.Reading
import Storyline.Decimal.Shortest
import Storyline.Dialog
import Storyline.Effect.Apply
import Storyline.Effect.Rules
import Storyline.Engine.Basic
import Storyline.Engine.Dispatch
import Storyline.Engine.Landing
import Storyline.Engine.Saving
import Storyline.Event
import Storyline.Flag
import Storyline.Http.Message
import Storyline.Http.Target
import Storyline.Item
import Storyline.Json.Display
import Storyline.Json.Halves
import Storyline.Json.Leaves
import Storyline.Json.Reader
import Storyline.Json.Value
import Storyline.Json.Writer
import Storyline.Kv.Api
import Storyline.Kv.Register
import Storyline.Kv.Store
import Storyline.Main
import Storyline.Memory
import Storyline.Migration
import Storyline.Phase
import Storyline.Save
import Storyline.Scene
import Storyline.Schema.Checked
import Storyline.Schema.Scalars
import Storyline.Stage.Basic
import Storyline.Stage.Command
import Storyline.Stage.Dialog
import Storyline.Stage.Entry
import Storyline.Stage.Spot
import Storyline.Storage.Backend
import Storyline.Storage.Disk
import Storyline.Storage.Fault
import Storyline.Storage.Folder
import Storyline.Storage.Record
import Storyline.Storage.Route
import Storyline.Storage.Service
import Storyline.Table
import Storyline.Template.DialogText
import Storyline.Template.Reader
import Storyline.Template.Render
import Storyline.Template.Scanner
import Storyline.Template.Scope
import Storyline.Template.Tidy
import Storyline.Template.Tree
import Storyline.Text.Alphanumeric
import Storyline.Text.Blank
import Storyline.Text.Casing
import Storyline.Text.Hex
import Storyline.Text.Percent
import Storyline.Text.Printable
import Storyline.Text.Quoted
import Storyline.Text.Utf8
import Storyline.Time.Timestamp
import Storyline.View
import Storyline.Proofs.Content.Coherence
import Storyline.Proofs.Stage.Position
import Storyline.Proofs.Decimal.Digits
import Storyline.Proofs.Json.Strings
import Storyline.Proofs.Stage.Resume
import Storyline.Proofs.Json.Numbers
import Storyline.Proofs.Json.RoundTrip
import Storyline.Proofs.Json.Doubles
import Storyline.Proofs.Save.Valid
import Storyline.Proofs.Save.RoundTrip
import Storyline.Proofs.Save.Doubles
import Storyline.Proofs.Bus.Hearing
import Storyline.Proofs.Bus.Delivery
import Storyline.Proofs.Engine.Course
import Storyline.Proofs.Engine.Run
import Storyline.Proofs.Storage.Stored
import Storyline.Proofs.Engine.Keeping
import Storyline.Proofs.Storage.Disk
import Storyline.Proofs.Storage.Folder
import Storyline.Proofs.Text.Percent
import Storyline.Proofs.Storage.Ledger
import Storyline.Proofs.Storage.Serving
import Storyline.Proofs.Storage.Naming
import Storyline.Proofs.Storage.Filing
import Storyline.Proofs.Kv.Paging
import Storyline.Proofs.Kv.Replies
import Storyline.Proofs.Storage.Service
import Storyline.Proofs.Storage.Agreement
import Storyline.Proofs.Engine.Guard
import Storyline.Proofs.Engine.Purity
import Storyline.Proofs.Engine.Acting
import Storyline.Proofs.Engine.Settling
import Storyline.Proofs.Engine.Chronicle
import Storyline.Proofs.Engine.Record
import Storyline.Proofs.Content.Lookups
import Storyline.Proofs.Stage.Clean
import Storyline.Proofs.Storage.Composing
import Storyline.Proofs.Storage.Sessions
import Storyline.Proofs.Storage.Bundles
import Storyline.Proofs.Storage.Transfer
import Storyline.Proofs.Stage.Walking
import Storyline.Proofs.Kv.Sharing
import Storyline.Proofs.Kv.Register
import Storyline.Proofs.Kv.Browsing
import Storyline.Proofs.Condition.Writing
import Storyline.Proofs.Storage.Concurrent
import Storyline.Proofs.Storage.Listing
import Storyline.Proofs.Json.Reading
import Storyline.Proofs.Json.Limit
import Storyline.Proofs.Save.Wholes
import Storyline.Proofs.Decimal.Bits
import Storyline.Proofs.Decimal.Rounding
import Storyline.Proofs.Decimal.Nearest
import Storyline.Proofs.Decimal.Order
import Storyline.Proofs.Decimal.Shortest
import Storyline.Proofs.Json.Layouts
import Storyline.Proofs.Storage.Importing
import Storyline.Proofs.Save.Legacy
import Storyline.Proofs.Engine.Choosing
import Storyline.Proofs.Engine.Progress
import Storyline.Proofs.Engine.Waiting
import Storyline.Proofs.Engine.PlayTime
import Storyline.Proofs.Engine.Loading
import Storyline.Proofs.Save.Inventory
import Storyline.Proofs.Stage.Showing
import Storyline.Proofs.Engine.Returning
import Storyline.Proofs.Storage.Escaping
import Storyline.Proofs.Storage.Stocking
import Storyline.Proofs.Storage.Holding
import Storyline.Proofs.Storage.Places
import Storyline.Proofs.Storage.Retaking
import Storyline.Proofs.Content.Faithful
import Storyline.Proofs.Content.Loading
import Storyline.Proofs.Stage.Landing
import Storyline.Proofs.Stage.Pictures
