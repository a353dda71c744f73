import Responsive.Binary64.Basic
import Responsive.Binary64.Shortest
import Responsive.Binary64.Text
import Responsive.Block
import Responsive.Breakpoints
import Responsive.Breakpoints.Document
import Responsive.CommandLine.Command
import Responsive.CommandLine.Error
import Responsive.CommandLine.Options
import Responsive.CommandLine.Program
import Responsive.CommandLine.Run
import Responsive.Config
import Responsive.Config.Document
import Responsive.Config.Environment
import Responsive.Config.Load
import Responsive.Config.Merge
import Responsive.Delivery.Basic
import Responsive.Delivery.Bundled
import Responsive.Delivery.Error
import Responsive.Entries
import Responsive.ErrorChain
import Responsive.ErrorEnum.Angle
import Responsive.ErrorEnum.Discriminant
import Responsive.ErrorEnum.Expansion
import Responsive.ErrorEnum.Item
import Responsive.ErrorEnum.Print
import Responsive.ErrorEnum.Token
import Responsive.ErrorEnum.TypePath
import Responsive.Files.Basic
import Responsive.Files.Disk
import Responsive.Files.Flaky
import Responsive.Files.Path
import Responsive.FilterChain
import Responsive.FilterChain.History
import Responsive.Fonts.Collector
import Responsive.Fonts.Family
import Responsive.Frontend.Basic
import Responsive.Frontend.Error
import Responsive.Ini
import Responsive.Json.Basic
import Responsive.Json.Decode
import Responsive.Json.Numeral
import Responsive.Json.Outline
import Responsive.Json.Print
import Responsive.Json.Relaxed
import Responsive.Layered
import Responsive.Logging.Calendar
import Responsive.Logging.EventFilter
import Responsive.Logging.Level
import Responsive.Logging.Logger
import Responsive.Logging.Pattern
import Responsive.Logging.Pattern.Atom
import Responsive.Logging.Pattern.CharClass
import Responsive.Logging.Rotation
import Responsive.Main
import Responsive.Media.Adjust
import Responsive.Media.Condition
import Responsive.Media.CssFilter
import Responsive.Media.Pass
import Responsive.Media.Placeholder
import Responsive.Media.Sheet
import Responsive.Proofs.Entries
import Responsive.Proofs.Files.Changes
import Responsive.Proofs.Files.OnDisk
import Responsive.Proofs.Files.Path
import Responsive.Proofs.Files.Places
import Responsive.Proofs.FilterChain
import Responsive.Proofs.Frontend.Session
import Responsive.Proofs.Json.Numeral
import Responsive.Proofs.Json.RoundTrip
import Responsive.Proofs.Json.Text
import Responsive.Proofs.Media.Adjust
import Responsive.Proofs.Media.Change
import Responsive.Proofs.Media.Condition
import Responsive.Proofs.Media.Expansion
import Responsive.Proofs.Media.Idempotence
import Responsive.Proofs.Media.Mention
import Responsive.Proofs.Media.Part
import Responsive.Proofs.Media.Pass
import Responsive.Proofs.Media.Pieces
import Responsive.Proofs.Media.Placeholder
import Responsive.Proofs.Media.Sheet
import Responsive.Proofs.Media.Skeleton
import Responsive.Proofs.Media.TierByTier
import Responsive.Proofs.Resolution
import Responsive.Proofs.Settings.Document
import Responsive.Proofs.Settings.Handles
import Responsive.Proofs.Settings.Ledger
import Responsive.Proofs.Settings.Overrides
import Responsive.Proofs.Settings.Update
import Responsive.Proofs.Text.Digit
import Responsive.Proofs.Text.Occurrence
import Responsive.Resolver
import Responsive.Ron.Document
import Responsive.Ron.Scalar
import Responsive.Settings.Definition
import Responsive.Settings.Error
import Responsive.Settings.Handles
import Responsive.Settings.Overrides
import Responsive.Settings.Store
import Responsive.Text.Alphanumeric
import Responsive.Text.Blank
import Responsive.Text.Decimal
import Responsive.Text.Identifier
import Responsive.Text.Lowercase
import Responsive.Text.Lowercase.Table
import Responsive.Text.Occurrence
import Responsive.Text.Quoted
import Responsive.Text.Slice
import Responsive.Text.Utf8
import Responsive.Tier
import Responsive.TierSet
import Responsive.TierSet.Text
import Responsive.Toml.Document
import Responsive.Toml.Scalar
import Responsive.Toml.Text
import Responsive.Toml.Tree
import Responsive.Yaml.Cursor
import Responsive.Yaml.Document
import Responsive.Yaml.Text
import Responsive.Yaml.Tokens
import Responsive.Yaml.Value
import Responsive.Proofs.Json.Float
import Responsive.Proofs.Files.Reach
import Responsive.Proofs.Settings.Reopen
import Responsive.Proofs.Breakpoints.Document
import Responsive.Proofs.Frontend.Setup
import Responsive.Proofs.CommandLine.SetRuns
import Responsive.Proofs.Delivery
import Responsive.Proofs.Frontend.Page
import Responsive.Proofs.Settings.Definition
import Responsive.Proofs.Settings.Records
import Responsive.Proofs.Settings.Schema
import Responsive.Proofs.Settings.Abandoned
import Responsive.Proofs.CommandLine.Race
import Responsive.Proofs.Text.Bytes
import Responsive.Proofs.Text.Lowercase
import Responsive.Proofs.Text.Split
import Responsive.Proofs.Fonts.Address
import Responsive.Proofs.Fonts.RenderingOrder
import Responsive.Proofs.Breakpoints.StoredNumber
import Responsive.Proofs.ErrorChain
import Responsive.Proofs.ErrorEnum
