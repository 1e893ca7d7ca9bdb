import ApiTools.Main
import ApiTools.Action.World
import ApiTools.Tool.Reader
import ApiTools.Schema.Writer
import ApiTools.Proofs.Property.Descent
import ApiTools.Proofs.Property.Endless
import ApiTools.Proofs.Property.Leaves
import ApiTools.Proofs.Property.FlatNames
import ApiTools.Proofs.Tool.Inputs
import ApiTools.Proofs.Wording.Tools
import ApiTools.Proofs.Generation.Wording
import ApiTools.Proofs.Text.Runs
import ApiTools.Proofs.Rendering.OpeningComment
import ApiTools.Proofs.Tool.WellFormed
import ApiTools.Proofs.Api.Operations
import ApiTools.Proofs.Api.PathParameters
import ApiTools.Proofs.Schema.Core
import ApiTools.Proofs.Property.Core
import ApiTools.Proofs.Property.Unguarded
import ApiTools.Proofs.Dialect.Schema
import ApiTools.Proofs.Tool.Core
import ApiTools.Proofs.Dialect.Document
import ApiTools.Proofs.Dialect.Operations
import ApiTools.Proofs.Dialect.Tools
import ApiTools.Proofs.Api.Kept
import ApiTools.Proofs.Validation.Document
import ApiTools.Proofs.Validation.Operations
import ApiTools.Proofs.Generation.Batch
import ApiTools.Proofs.Validation.Parameters
import ApiTools.Proofs.Api.Security
import ApiTools.Proofs.Name
import ApiTools.Proofs.Tool.Names
import ApiTools.Proofs.Generation.Document
import ApiTools.Proofs.Generation.Merge
import ApiTools.Proofs.Generation.Workers
import ApiTools.Proofs.Api.Malformed
import ApiTools.Proofs.Rendering.Output
import ApiTools.Proofs.Value.Json
import ApiTools.Proofs.Property.RoundTrip
import ApiTools.Proofs.Tool.RoundTrip
import ApiTools.Proofs.Schema.Json
import ApiTools.Proofs.Api.Json
import ApiTools.Proofs.Generation.RoundTrip
import ApiTools.Proofs.Schema.Position
import ApiTools.Proofs.Schema.Composition
import ApiTools.Proofs.Property.Order
import ApiTools.Proofs.Property.Required
import ApiTools.Proofs.Property.Places
import ApiTools.Proofs.Command.Ends
import ApiTools.Proofs.Command.Words
import ApiTools.Proofs.Command.Manifest
import ApiTools.Proofs.Command.Preview
import ApiTools.Proofs.Configuration.Layers
import ApiTools.Proofs.Value.Keyed
import ApiTools.Proofs.Json
import ApiTools.Proofs.Api.Usable
import ApiTools.Proofs.Tool.Sources
import ApiTools.Proofs.Api.Pointers
import ApiTools.Proofs.Configuration.Precedence
import ApiTools.Proofs.Command.Credentials
import ApiTools.Proofs.Rendering.Literals
import ApiTools.Proofs.Action.Replace
import ApiTools.Proofs.Rendering.OneDocument
import ApiTools.Proofs.Schema.Inside
import ApiTools.Proofs.Value.Record
import ApiTools.Proofs.Schema.Written
import ApiTools.Proofs.Schema.NormalForm
import ApiTools.Proofs.Text.Spacing
import ApiTools.Proofs.Name.Identifier
import ApiTools.Proofs.Wording.Polish
import ApiTools.Proofs.Schema.Origins
import ApiTools.Proofs.Property.Whole
import ApiTools.Proofs.Property.Entered
import ApiTools.Proofs.Text.Capital
import ApiTools.Proofs.Wording.Rephrase
import ApiTools.Proofs.Wording.Replace
import ApiTools.Proofs.Wording.Again
import ApiTools.Proofs.Text.Squeeze
import ApiTools.Proofs.Name.Snake
