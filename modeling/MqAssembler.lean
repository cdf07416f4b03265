import MqAssembler.Text.Lowercase
import MqAssembler.Text.Quoted
import MqAssembler.Text.Blank
import MqAssembler.Text.Utf8
import MqAssembler.Text.Style
import MqAssembler.Text.Layout
import MqAssembler.Instruction
import MqAssembler.InstructionSet
import MqAssembler.Token
import MqAssembler.Scope.Cursor
import MqAssembler.Scope.Path
import MqAssembler.Scope.Patch
import MqAssembler.Assembly
import MqAssembler.Listing
import MqAssembler.Message
import MqAssembler.OutputPath
import MqAssembler.Failure
import MqAssembler.Yaml.Input
import MqAssembler.Yaml.Tag
import MqAssembler.Yaml.Scalar.Folding
import MqAssembler.Yaml.Scalar.Plain
import MqAssembler.Yaml.Scalar.Quoted
import MqAssembler.Yaml.Scalar.Block
import MqAssembler.Yaml.Token.Scan
import MqAssembler.Yaml.Event
import MqAssembler.Yaml.Document
import MqAssembler.Yaml.Scalar.Shape
import MqAssembler.InstructionSet.Document
import MqAssembler.Program
import MqAssembler.Run
import MqAssembler.Main
import MqAssembler.Proofs.CheckChain
import MqAssembler.Proofs.WordFields
import MqAssembler.Proofs.IncludeSection
import MqAssembler.Proofs.ExecutableFormat
import MqAssembler.Proofs.ExecutableExtent
import MqAssembler.Proofs.ExecutableWriter
import MqAssembler.Proofs.AssemblyOutcome
import MqAssembler.Proofs.DictionaryEntries
import MqAssembler.Proofs.LowercaseStability
import MqAssembler.Proofs.InstructionSetRuns
import MqAssembler.Proofs.ConsistentEntries
import MqAssembler.Proofs.AssemblyRoundTrip
import MqAssembler.Proofs.LetterCase
import MqAssembler.Proofs.HexNumerals
import MqAssembler.Proofs.AssembledListing
import MqAssembler.Proofs.ListingText
import MqAssembler.Proofs.LeafOrder
import MqAssembler.Proofs.StoredFiles
import MqAssembler.Proofs.RunOutcome
import MqAssembler.Proofs.FollowedAliases
import MqAssembler.Proofs.InstructionSetFiles
import MqAssembler.Proofs.EntryListOutcome
import MqAssembler.Proofs.PatchRuns
import MqAssembler.Proofs.PatchedExecutable
import MqAssembler.Proofs.TreeWrites
import MqAssembler.Proofs.FailureDiagnosis
import MqAssembler.Proofs.TableAgreement
import MqAssembler.Proofs.ReaderBounds
import MqAssembler.Proofs.PrintedSummary
import MqAssembler.Proofs.DefaultOutput
import MqAssembler.Proofs.ScopeText
import MqAssembler.Proofs.IncludeWarnings
