import NameLint.File.Tree
import NameLint.Main
import NameLint.Proofs.Config.EntryReaders
import NameLint.Proofs.Config.Checked
import NameLint.Proofs.Config.OneList
import NameLint.Proofs.Config.Locality
import NameLint.Proofs.Config.Unset
import NameLint.Proofs.Text.Words
import NameLint.Proofs.Guard.Lexing
import NameLint.Proofs.Regex.Matches
import NameLint.Proofs.Regex.Trailing
import NameLint.Proofs.Regex.Enclosed
import NameLint.Proofs.Regex.Stripped
import NameLint.Proofs.Regex.Unenclosed
import NameLint.Proofs.Pattern.Anchoring
import NameLint.Proofs.Pattern.Acceptance
import NameLint.Proofs.Pattern.Respelling
import NameLint.Proofs.Config.Prefixes
import NameLint.Proofs.Rule.Additive
import NameLint.Proofs.Rule.Prefixes
import NameLint.Proofs.Json.Literal
import NameLint.Proofs.Json.Spelling
import NameLint.Proofs.Json.Fields
import NameLint.Proofs.Json.Result
import NameLint.Proofs.Dump.TypeSpelling
import NameLint.Proofs.Dump.Fits
import NameLint.Proofs.Dump.RoundTrip
import NameLint.Proofs.Rule.Lookups
import NameLint.Proofs.Guard.Places
import NameLint.Proofs.Rule.GuardVerdict
import NameLint.Proofs.Config.Judged
import NameLint.Proofs.Json.Below
import NameLint.Proofs.Config.Schema
import NameLint.Proofs.Toml.Below
import NameLint.Proofs.Config.Acceptance
import NameLint.Proofs.Config.Unknown
import NameLint.Proofs.Unicode.FirstMember
import NameLint.Proofs.Guard.Opening
import NameLint.Proofs.Config.GuardToken
import NameLint.Proofs.Rule.AskedGuard
import NameLint.Proofs.Rule.RuleIds
import NameLint.Proofs.File.Reads
import NameLint.Proofs.File.Path
import NameLint.Proofs.Ignore.Walk
import NameLint.Proofs.Command.ReadOnly
import NameLint.Proofs.Command.Written
import NameLint.Proofs.Command.Status
import NameLint.Proofs.Command.Dumps
import NameLint.Proofs.Command.Formats
import NameLint.Proofs.Toml.Distinct
import NameLint.Proofs.Config.Mistyped
import NameLint.Proofs.Config.MacroNames
import NameLint.Proofs.Dump.Sources
import NameLint.Proofs.Guard.Window
import NameLint.Proofs.Dump.NormalForm
import NameLint.Proofs.Rule.Marks
import NameLint.Proofs.Guard.Bytes
import NameLint.Proofs.Guard.Slices
import NameLint.Proofs.Guard.Masking
import NameLint.Proofs.Unicode.Casing
import NameLint.Proofs.Config.GuardRuns
import NameLint.Proofs.Config.RuleShapes
import NameLint.Proofs.Config.GuardOptions
import NameLint.Proofs.Rule.Grounds
