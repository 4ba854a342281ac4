import ResourceEditor.Command.Account
import ResourceEditor.Command.Action
import ResourceEditor.Command.Assignment
import ResourceEditor.Command.Basic
import ResourceEditor.Command.Connection
import ResourceEditor.Command.Editor
import ResourceEditor.Command.Error
import ResourceEditor.Command.Grammar
import ResourceEditor.Command.Inspection
import ResourceEditor.Command.Reading
import ResourceEditor.Command.Run
import ResourceEditor.Command.Status
import ResourceEditor.Command.Usage
import ResourceEditor.Config.Basic
import ResourceEditor.Config.Display
import ResourceEditor.Config.Document
import ResourceEditor.Config.Keyring
import ResourceEditor.Config.Trust
import ResourceEditor.Config.Variable
import ResourceEditor.Controller.Client
import ResourceEditor.Controller.Error
import ResourceEditor.Controller.Exchange
import ResourceEditor.Controller.Host
import ResourceEditor.Controller.Login
import ResourceEditor.Controller.Message
import ResourceEditor.Controller.Script
import ResourceEditor.Controller.Url
import ResourceEditor.Decimal.Binary64
import ResourceEditor.Decimal.Numeral
import ResourceEditor.Decimal.Shortest
import ResourceEditor.Domain.Basic
import ResourceEditor.Domain.Direction
import ResourceEditor.Domain.Joining
import ResourceEditor.Domain.Mapping
import ResourceEditor.Domain.Punycode
import ResourceEditor.Domain.Replacement
import ResourceEditor.Edit.Basic
import ResourceEditor.Edit.Error
import ResourceEditor.Edit.Normalize
import ResourceEditor.Edit.Resolve
import ResourceEditor.Json.Basic
import ResourceEditor.Json.Number
import ResourceEditor.Json.Reader
import ResourceEditor.Json.Writer
import ResourceEditor.Layout.Rows
import ResourceEditor.Layout.View
import ResourceEditor.Main
import ResourceEditor.Members
import ResourceEditor.Path.Basic
import ResourceEditor.Path.Parser
import ResourceEditor.Pattern.Basic
import ResourceEditor.Proofs.Command.Assigning
import ResourceEditor.Proofs.Command.Drafting
import ResourceEditor.Proofs.Command.DryRun
import ResourceEditor.Proofs.Command.Editing
import ResourceEditor.Proofs.Command.Masking
import ResourceEditor.Proofs.Command.NewApp
import ResourceEditor.Proofs.Command.Observation
import ResourceEditor.Proofs.Command.Rejection
import ResourceEditor.Proofs.Command.Setup
import ResourceEditor.Proofs.Command.Tokens
import ResourceEditor.Proofs.Command.Update
import ResourceEditor.Proofs.Config.Loading
import ResourceEditor.Proofs.Config.Saving
import ResourceEditor.Proofs.Config.Settings
import ResourceEditor.Proofs.Controller.Address
import ResourceEditor.Proofs.Controller.Component
import ResourceEditor.Proofs.Controller.Hosts
import ResourceEditor.Proofs.Controller.Joining
import ResourceEditor.Proofs.Controller.Numeric
import ResourceEditor.Proofs.Controller.Signing
import ResourceEditor.Proofs.Controller.Transcript
import ResourceEditor.Proofs.Decimal.Rounding
import ResourceEditor.Proofs.Decimal.Spelling
import ResourceEditor.Proofs.Decimal.Truncation
import ResourceEditor.Proofs.Domain.Mapping
import ResourceEditor.Proofs.Domain.Punycode
import ResourceEditor.Proofs.Domain.Reading
import ResourceEditor.Proofs.Edit.Amendment
import ResourceEditor.Proofs.Edit.Appending
import ResourceEditor.Proofs.Edit.Carriage
import ResourceEditor.Proofs.Edit.Commutation
import ResourceEditor.Proofs.Edit.Composition
import ResourceEditor.Proofs.Edit.DynamicList
import ResourceEditor.Proofs.Edit.Extension
import ResourceEditor.Proofs.Edit.Filling
import ResourceEditor.Proofs.Edit.Likeness
import ResourceEditor.Proofs.Edit.Locality
import ResourceEditor.Proofs.Edit.Opening
import ResourceEditor.Proofs.Edit.Part
import ResourceEditor.Proofs.Edit.ReadOnly
import ResourceEditor.Proofs.Edit.Refusal
import ResourceEditor.Proofs.Edit.Replacement
import ResourceEditor.Proofs.Edit.Resetting
import ResourceEditor.Proofs.Edit.Route
import ResourceEditor.Proofs.Edit.Run
import ResourceEditor.Proofs.Edit.Seeding
import ResourceEditor.Proofs.Edit.Sparing
import ResourceEditor.Proofs.Edit.Update
import ResourceEditor.Proofs.Json.Exactness
import ResourceEditor.Proofs.Json.Origin
import ResourceEditor.Proofs.Json.Reading
import ResourceEditor.Proofs.Layout.Rows
import ResourceEditor.Proofs.Path.Grammar
import ResourceEditor.Proofs.Pattern.Address
import ResourceEditor.Proofs.Schema.Addressing
import ResourceEditor.Proofs.Schema.Insertion
import ResourceEditor.Proofs.Schema.Nesting
import ResourceEditor.Proofs.Session.Conservation
import ResourceEditor.Proofs.Session.Exclusion
import ResourceEditor.Proofs.Session.Loading
import ResourceEditor.Proofs.Session.Reopening
import ResourceEditor.Proofs.Session.Run
import ResourceEditor.Proofs.Text.Decomposition
import ResourceEditor.Proofs.Text.Normal
import ResourceEditor.Proofs.Toml.Distinct
import ResourceEditor.Proofs.Toml.Quoting
import ResourceEditor.Proofs.Toml.Table
import ResourceEditor.Proofs.Toml.Writing
import ResourceEditor.Proofs.Typing.Conformity
import ResourceEditor.Proofs.Typing.Editing
import ResourceEditor.Proofs.Typing.Soundness
import ResourceEditor.Proofs.Validation.BlankNumber
import ResourceEditor.Proofs.Validation.Composition
import ResourceEditor.Proofs.Validation.Due
import ResourceEditor.Proofs.Validation.Exactness
import ResourceEditor.Proofs.Validation.Likeness
import ResourceEditor.Proofs.Validation.Locality
import ResourceEditor.Proofs.Validation.Malformed
import ResourceEditor.Proofs.Validation.Places
import ResourceEditor.Proofs.Validation.Pruning
import ResourceEditor.Proofs.Validation.Undeclared
import ResourceEditor.Proofs.Validation.Visibility
import ResourceEditor.Proofs.Value.Choice
import ResourceEditor.Proofs.Value.Equality
import ResourceEditor.Proofs.Value.Json
import ResourceEditor.Proofs.Value.Likeness
import ResourceEditor.Proofs.Value.Lookup
import ResourceEditor.Proofs.Value.Number
import ResourceEditor.Proofs.Value.Remainder
import ResourceEditor.Proofs.Value.Reread
import ResourceEditor.Proofs.Value.Survival
import ResourceEditor.Proofs.Wire.Agreement
import ResourceEditor.Proofs.Wire.Conversion
import ResourceEditor.Proofs.Wire.Creation
import ResourceEditor.Proofs.Wire.Defaults
import ResourceEditor.Proofs.Wire.Mirror
import ResourceEditor.Proofs.Wire.OpenPorts
import ResourceEditor.Proofs.Wire.Soundness
import ResourceEditor.Proofs.Wire.Stability
import ResourceEditor.Proofs.Wire.WeakSpot
import ResourceEditor.Proofs.Wire.Written
import ResourceEditor.Schema.Basic
import ResourceEditor.Schema.Blank
import ResourceEditor.Schema.Catalog
import ResourceEditor.Schema.Json
import ResourceEditor.Schema.Outline
import ResourceEditor.Schema.Resource
import ResourceEditor.Session.Basic
import ResourceEditor.Text.Blank
import ResourceEditor.Text.Cased
import ResourceEditor.Text.Encoding
import ResourceEditor.Text.Graphic
import ResourceEditor.Text.Lowercase
import ResourceEditor.Text.Mark
import ResourceEditor.Text.Normal
import ResourceEditor.Text.Normal.Class
import ResourceEditor.Text.Normal.Composite
import ResourceEditor.Text.Ranges
import ResourceEditor.Text.Width
import ResourceEditor.Text.Width.Class
import ResourceEditor.Text.Width.Emoji
import ResourceEditor.Text.Width.Following
import ResourceEditor.Toml.Basic
import ResourceEditor.Toml.Quoted
import ResourceEditor.Toml.Reader
import ResourceEditor.Toml.Table
import ResourceEditor.Toml.Word
import ResourceEditor.Toml.Writer
import ResourceEditor.Validation.Basic
import ResourceEditor.Validation.Violation
import ResourceEditor.Value.Basic
import ResourceEditor.Value.Json
import ResourceEditor.Value.Number
import ResourceEditor.Value.Prune
import ResourceEditor.Wire.Fault
import ResourceEditor.Wire.Layout
import ResourceEditor.Wire.Resource
import ResourceEditor.Yaml.Scalar
import ResourceEditor.Yaml.Writer
