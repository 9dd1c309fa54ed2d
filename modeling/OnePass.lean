import OnePass.Assembler
import OnePass.Catalog.Basic
import OnePass.Catalog.BuiltIn
import OnePass.Catalog.Load
import OnePass.Catalog.Table
import OnePass.Command.Flags
import OnePass.Command.Report
import OnePass.Command.Run
import OnePass.Fault
import OnePass.Files.Access
import OnePass.Files.Tree
import OnePass.Image.BoxTable
import OnePass.Image.Emitter
import OnePass.Image.Listing
import OnePass.Image.Sink
import OnePass.Image.Writer
import OnePass.Log
import OnePass.Machine
import OnePass.Main
import OnePass.Number.Binary64
import OnePass.Number.Decimal
import OnePass.Program
import OnePass.Proofs.Assembly
import OnePass.Proofs.Block
import OnePass.Proofs.BoxTable
import OnePass.Proofs.Catalog
import OnePass.Proofs.Delivery
import OnePass.Proofs.Diagnosis
import OnePass.Proofs.Emission
import OnePass.Proofs.Encoding
import OnePass.Proofs.Enlargement
import OnePass.Proofs.FaultTree
import OnePass.Proofs.Files
import OnePass.Proofs.Footprint
import OnePass.Proofs.Hooks
import OnePass.Proofs.Image
import OnePass.Proofs.ImageFormat
import OnePass.Proofs.Interruption
import OnePass.Proofs.Layout
import OnePass.Proofs.LineEndings
import OnePass.Proofs.Listing
import OnePass.Proofs.Machine
import OnePass.Proofs.Paths
import OnePass.Proofs.Plain
import OnePass.Proofs.Quoted
import OnePass.Proofs.Reassembly
import OnePass.Proofs.Refusal
import OnePass.Proofs.Registers
import OnePass.Proofs.Renumbering
import OnePass.Proofs.Reporting
import OnePass.Proofs.Run
import OnePass.Proofs.Sanitize
import OnePass.Proofs.Scanner
import OnePass.Proofs.Spelling
import OnePass.Proofs.Trace
import OnePass.Proofs.Utf8
import OnePass.Proofs.Validation
import OnePass.Proofs.Word
import OnePass.Source.Lines
import OnePass.Source.Sanitize
import OnePass.Source.Scanner
import OnePass.Text.Base64
import OnePass.Text.Bytes
import OnePass.Text.Printable
import OnePass.Text.Quoted
import OnePass.Text.Ranges
import OnePass.Text.Space
import OnePass.Text.Utf8
import OnePass.Text.Width
import OnePass.Tracer
import OnePass.Word
import OnePass.Yaml.Decode
import OnePass.Yaml.Directive
import OnePass.Yaml.Document
import OnePass.Yaml.Glyph
import OnePass.Yaml.Lexer
import OnePass.Yaml.Node
import OnePass.Yaml.Property
import OnePass.Yaml.Scalar.Block
import OnePass.Yaml.Scalar.Gap
import OnePass.Yaml.Scalar.Plain
import OnePass.Yaml.Scalar.Quoted
import OnePass.Yaml.Timestamp
import OnePass.Yaml.Token
import OnePass.Yaml.Value
