import BootLink.Backend
import BootLink.BootImage
import BootLink.Build
import BootLink.Bytecode
import BootLink.Catalogue
import BootLink.Catalogue.Listing
import BootLink.Command
import BootLink.Command.Arguments
import BootLink.Command.Build
import BootLink.Command.Convert
import BootLink.Command.Report
import BootLink.Command.Run
import BootLink.Command.Settings
import BootLink.Component
import BootLink.Config
import BootLink.Decimal.Literal
import BootLink.Decimal.Nearest
import BootLink.Decimal.Shortest
import BootLink.Diagnostic
import BootLink.Failure
import BootLink.Link.Merge
import BootLink.Link.Rebase
import BootLink.Main
import BootLink.Opcode
import BootLink.Operand
import BootLink.Path
import BootLink.Program
import BootLink.Proofs.Link.Binding
import BootLink.Proofs.Link.Code
import BootLink.Proofs.Link.Kinds
import BootLink.Proofs.Link.Labels
import BootLink.Proofs.Link.Merge
import BootLink.Proofs.Link.Run
import BootLink.Seconds
import BootLink.Store
import BootLink.Store.Lemmas
import BootLink.Table
import BootLink.Table.Lemmas
import BootLink.Template
import BootLink.Text.Capital
import BootLink.Text.Control
import BootLink.Text.Digit
import BootLink.Text.Hex
import BootLink.Text.Lines
import BootLink.Text.Numeral
import BootLink.Text.Printable
import BootLink.Text.Quoted
import BootLink.Text.Search
import BootLink.Text.Utf8
import BootLink.Text.Words
import BootLink.Toolchain
import BootLink.Workspace
import BootLink.World
import BootLink.Proofs.Link.Faults
import BootLink.Proofs.Bytecode.Encoding
import BootLink.Proofs.Bytecode.Decoding
import BootLink.Proofs.Link.Homes
import BootLink.Proofs.Link.Order
import BootLink.Path.Lemmas
import BootLink.Proofs.Link.AddressSpace
import BootLink.World.Lemmas
import BootLink.Proofs.Store.Tree
import BootLink.Proofs.World.Looks
import BootLink.Proofs.Build.Stages
import BootLink.Proofs.Build.Services
import BootLink.Proofs.Store.Leftovers
import BootLink.Proofs.World.Alike
import BootLink.Proofs.World.Launches
import BootLink.Proofs.Build.ColdStart
import BootLink.Proofs.Store.Written
import BootLink.Proofs.World.Writes
import BootLink.Proofs.Build.Files
import BootLink.Proofs.Command.Build
import BootLink.Proofs.Template.Region
import BootLink.Proofs.Backend.Lowering
import BootLink.Proofs.Backend.Agreement
import BootLink.Proofs.World.Calls
import BootLink.Proofs.Build.Launching
import BootLink.Proofs.Build.Alone
import BootLink.Proofs.Command.Convert
import BootLink.Proofs.Command.Environment
import BootLink.Proofs.Bytecode.Requirements
import BootLink.Proofs.Bytecode.Refusals
import BootLink.Proofs.Bytecode.Outcomes
import BootLink.Proofs.Bytecode.Immediates
import BootLink.Proofs.Template.Markers
import BootLink.Proofs.Template.Resplicing
import BootLink.Proofs.Image.Disk
import BootLink.Proofs.Toolchain.Probing
import BootLink.Proofs.World.Talks
import BootLink.Proofs.Backend.Apart
import BootLink.Proofs.Build.Libraries
import BootLink.Proofs.Store.Spelling
import BootLink.Proofs.Command.Conversion
import BootLink.Proofs.Link.Batches
