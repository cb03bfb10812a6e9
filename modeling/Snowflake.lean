import Snowflake.Text.Blank
import Snowflake.Text.Numeral
import Snowflake.Text.Hidden
import Snowflake.Text.Alphanumeric
import Snowflake.Text.Quoted
import Snowflake.Text.Padded
import Snowflake.Text.Inspect
import Snowflake.Word
import Snowflake.Epoch
import Snowflake.Error
import Snowflake.Layout
import Snowflake.Event
import Snowflake.Environment
import Snowflake.Register
import Snowflake.Register.Interleaving
import Snowflake.Generator
import Snowflake.Generator.Attempt
import Snowflake.Generator.Interleaving
import Snowflake.Generator.Retry
import Snowflake.Generator.Pool
import Snowflake.Clock
import Snowflake.Session
import Snowflake.Interrupt
import Snowflake.Ambient
import Snowflake.Json.Text
import Snowflake.Json.Number
import Snowflake.Json.Skip
import Snowflake.Json.Record
import Snowflake.Json.Codec
import Snowflake.Command.Config
import Snowflake.Command.Line
import Snowflake.Command.Run
import Snowflake.Environment.File
import Snowflake.LogFilter
import Snowflake.Program
import Snowflake.Main
import Snowflake.Proofs.Word
import Snowflake.Proofs.Fields
import Snowflake.Proofs.Packing
import Snowflake.Proofs.Attempt
import Snowflake.Proofs.Construction
import Snowflake.Proofs.Moments
import Snowflake.Proofs.Recording
import Snowflake.Proofs.Minting
import Snowflake.Proofs.Uniqueness
import Snowflake.Proofs.Linearization
import Snowflake.Proofs.Exhaustion
import Snowflake.Proofs.Sightings
import Snowflake.Proofs.Regression
import Snowflake.Proofs.Sequences
import Snowflake.Proofs.Nesting
import Snowflake.Proofs.Losses
import Snowflake.Proofs.Races
import Snowflake.Proofs.Nodes
import Snowflake.Proofs.Unpacking
import Snowflake.Proofs.Order
import Snowflake.Proofs.Replacing
import Snowflake.Proofs.Continuation
import Snowflake.Proofs.Quotas
import Snowflake.Proofs.Workers
import Snowflake.Proofs.Drawing
import Snowflake.Proofs.Independence
import Snowflake.Proofs.Additions
import Snowflake.Proofs.Retries
import Snowflake.Proofs.Settling
import Snowflake.Proofs.Stores
import Snowflake.Proofs.Failures
import Snowflake.Proofs.Numerals
import Snowflake.Proofs.Commands
import Snowflake.Proofs.RoundTrip
import Snowflake.Proofs.Checks
import Snowflake.Proofs.Widths
import Snowflake.Proofs.Waiting
import Snowflake.Proofs.Spinning
import Snowflake.Proofs.Throughput
import Snowflake.Proofs.Overflow
import Snowflake.Proofs.Decoding
import Snowflake.Proofs.Lookup
import Snowflake.Proofs.SingleWriter
import Snowflake.Proofs.Sharing
import Snowflake.Proofs.Tokens
import Snowflake.Proofs.Values
import Snowflake.Proofs.Records
import Snowflake.Proofs.Documents
import Snowflake.Proofs.CommandWords
import Snowflake.Proofs.Settings
import Snowflake.Proofs.Errands
import Snowflake.Proofs.Reports
