import TypedClient.ClientModule
import TypedClient.CommandLine.Run
import TypedClient.Endpoint
import TypedClient.FlatType
import TypedClient.FragmentClosure
import TypedClient.Graphql.Document.Parser
import TypedClient.Graphql.Document.Printer
import TypedClient.Graphql.TypeSystem.Parser
import TypedClient.InputShape.Json
import TypedClient.Main
import TypedClient.Naming
import TypedClient.Project
import TypedClient.Proofs.BoundNames
import TypedClient.Proofs.DocumentLiterals
import TypedClient.Proofs.DocumentLocality
import TypedClient.Proofs.EscapedText
import TypedClient.Proofs.Failures
import TypedClient.Proofs.Files
import TypedClient.Proofs.FirstFault
import TypedClient.Proofs.FragmentClosure.Order
import TypedClient.Proofs.FragmentClosure.Reachability
import TypedClient.Proofs.FragmentClosure.Search
import TypedClient.Proofs.FragmentClosure.Siblings
import TypedClient.Proofs.Generation
import TypedClient.Proofs.ImportNames
import TypedClient.Proofs.ImportedTypes
import TypedClient.Proofs.InputShapeJson
import TypedClient.Proofs.InputShapes
import TypedClient.Proofs.Keyed
import TypedClient.Proofs.Lines
import TypedClient.Proofs.ModulePaths
import TypedClient.Proofs.Names
import TypedClient.Proofs.ParameterCapture
import TypedClient.Proofs.ParsedNames
import TypedClient.Proofs.PascalCase
import TypedClient.Proofs.Recording
import TypedClient.Proofs.Runs
import TypedClient.Proofs.SchemaIndex
import TypedClient.Proofs.SchemaView
import TypedClient.Proofs.SettingsScope
import TypedClient.Proofs.Synthesis
import TypedClient.Proofs.TemplateLiteral
import TypedClient.Proofs.Trimming
import TypedClient.Proofs.TypeNames
import TypedClient.Proofs.TypeRefs
import TypedClient.Proofs.Unwrapping
import TypedClient.Proofs.Words
import TypedClient.Schema
import TypedClient.Settings.Load
