import ClientGen.Dict
import ClientGen.Text.Words
import ClientGen.Text.Tag
import ClientGen.Text.Quoted
import ClientGen.Text.MangledName
import ClientGen.Json.Printer
import ClientGen.Json.Pointer
import ClientGen.Json.Reader
import ClientGen.Yaml.Value
import ClientGen.Yaml.Settings
import ClientGen.Api.Document
import ClientGen.Schema.Compile
import ClientGen.Schema.Validator
import ClientGen.Schema.TypeText
import ClientGen.Endpoint.Interface
import ClientGen.Endpoint.Naming
import ClientGen.Pattern.Reader
import ClientGen.Pattern.Expand
import ClientGen.Domain.Classify
import ClientGen.Module.Import
import ClientGen.Config.Format
import ClientGen.Plan.Basic
import ClientGen.Artifact.Fragment
import ClientGen.Template.Library
import ClientGen.Files.Action
import ClientGen.Shell.Run
import ClientGen.Run.Generate
import ClientGen.Command.Run
import ClientGen.Main
import ClientGen.Proofs.Plan.Groups
import ClientGen.Proofs.Text.Numeral
import ClientGen.Proofs.Endpoint.UniqueNames
import ClientGen.Proofs.Artifact.Completeness
import ClientGen.Proofs.Domain.Adoption
import ClientGen.Proofs.Api.Methods
import ClientGen.Proofs.Domain.Evidence
import ClientGen.Proofs.Domain.Usable
import ClientGen.Proofs.Schema.Proper
import ClientGen.Proofs.Schema.TypeExpr
import ClientGen.Proofs.Schema.TypeStructure
import ClientGen.Proofs.Schema.TypeToken
import ClientGen.Proofs.Schema.Precedence
import ClientGen.Proofs.Domain.Wrappers
import ClientGen.Proofs.Schema.Declared
import ClientGen.Proofs.Artifact.ServiceCall
import ClientGen.Proofs.Run.AllOrNothing
import ClientGen.Proofs.Schema.Contained
import ClientGen.Proofs.Artifact.DocumentText
import ClientGen.Proofs.Schema.ReferenceTargets
import ClientGen.Proofs.Json.Distinct
import ClientGen.Proofs.Plan.Calls
import ClientGen.Proofs.Plan.Mounting
import ClientGen.Proofs.Schema.ReferenceReaders
import ClientGen.Proofs.Api.Entries
import ClientGen.Proofs.Api.LocalReferences
import ClientGen.Proofs.Plan.Dialects
import ClientGen.Proofs.Run.OutputFolder
import ClientGen.Proofs.Artifact.Exclusion
import ClientGen.Proofs.Artifact.AliasImports
import ClientGen.Proofs.Domain.Sources
import ClientGen.Proofs.Schema.NormalForm
import ClientGen.Proofs.Schema.Nullability
import ClientGen.Proofs.Artifact.FilledAddress
import ClientGen.Proofs.Artifact.Accesses
import ClientGen.Proofs.Endpoint.Exposed
import ClientGen.Proofs.Plan.MergedParameters
import ClientGen.Proofs.Artifact.InterfaceNames
import ClientGen.Proofs.Artifact.HookNames
import ClientGen.Proofs.Endpoint.StableNames
import ClientGen.Proofs.Endpoint.IdentifierNames
import ClientGen.Proofs.Artifact.StoreWiring
import ClientGen.Proofs.Domain.Aliases
import ClientGen.Proofs.Api.SuccessSchema
import ClientGen.Proofs.Schema.CollectedReferences
import ClientGen.Proofs.Text.LiteralReading
import ClientGen.Proofs.Yaml.Presented
import ClientGen.Proofs.Config.RoundTrip
import ClientGen.Proofs.Text.SnakeCase
import ClientGen.Proofs.Text.CanonicalTag
import ClientGen.Proofs.Text.MangledName
import ClientGen.Proofs.Module.Partition
