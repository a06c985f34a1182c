import Scaffold.Text.Printable
import Scaffold.Text.Case
import Scaffold.Text.Grapheme
import Scaffold.Text.CamelCase
import Scaffold.Text.Quoted
import Scaffold.Text.Escape
import Scaffold.Text.Utf8
import Scaffold.Decimal
import Scaffold.Decimal.Shortest
import Scaffold.Json.Writer
import Scaffold.Json.Reader
import Scaffold.Package.Snapshot
import Scaffold.Package.Definition
import Scaffold.SetterType
import Scaffold.Directive.Index
import Scaffold.Model.Repository
import Scaffold.Model.Criteria
import Scaffold.Model.Setter
import Scaffold.Model.IdParser
import Scaffold.Model.Wrapper
import Scaffold.Template.Catalog
import Scaffold.Formatter
import Scaffold.Program.Standard
import Scaffold.FileSystem
import Scaffold.Loader
import Scaffold.Run
import Scaffold.Options
import Scaffold.Main
import Scaffold.Proofs.Checked
import Scaffold.Proofs.FileSystem.Edits
import Scaffold.Proofs.Emission
import Scaffold.Proofs.Generator
import Scaffold.Proofs.Run.Isolation
import Scaffold.Proofs.Model.Annotated
import Scaffold.Proofs.Model.Setter
import Scaffold.Proofs.Model.Wrapper
import Scaffold.Proofs.GoType.Print
import Scaffold.Proofs.Model.SetterName
import Scaffold.Proofs.Model.SetterFields
import Scaffold.Proofs.Model.WrapperText
import Scaffold.Proofs.Template.Chunk
import Scaffold.Proofs.Model.Selectors
import Scaffold.Proofs.Directive.Scan
import Scaffold.Proofs.Json.Scalar
import Scaffold.Proofs.Json.Text
import Scaffold.Proofs.Json.Nesting
import Scaffold.Proofs.Json.Record
import Scaffold.Proofs.GoType.Snapshot
import Scaffold.Proofs.Package.Snapshot
import Scaffold.Proofs.Package.Comments
import Scaffold.Proofs.Model.Contract
import Scaffold.Proofs.Model.Repository
import Scaffold.Proofs.Model.Criteria
import Scaffold.Proofs.Model.IdParser
import Scaffold.Proofs.Model.Builders
import Scaffold.Proofs.Model.Topics
import Scaffold.Proofs.FieldTag.Grammar
import Scaffold.Proofs.FileSystem.Changes
import Scaffold.Proofs.FileSystem.Trails
import Scaffold.Run.Wave
import Scaffold.Proofs.Run.Interleaving
import Scaffold.Proofs.Run.Idempotence
import Scaffold.Proofs.Run.Loads
import Scaffold.Proofs.Run.Success
import Scaffold.Proofs.Text.Escape
import Scaffold.Proofs.FieldTag.Composite
import Scaffold.Proofs.GoType.Descriptor
import Scaffold.Proofs.Package.Alike
import Scaffold.Proofs.Model.Reading
import Scaffold.Proofs.Package.Site
import Scaffold.Proofs.Model.ModelsPackages
import Scaffold.Proofs.Text.Lines
import Scaffold.Proofs.GoType.Names
import Scaffold.Proofs.Model.WrapperLines
import Scaffold.Proofs.Model.Origin
import Scaffold.Proofs.Model.Assignments
import Scaffold.Proofs.Model.RelationCalls
import Scaffold.Proofs.Model.FieldFaults
import Scaffold.Proofs.Model.Accessors
import Scaffold.Proofs.Model.SliceRelations
import Scaffold.Proofs.Model.SetterText
import Scaffold.Proofs.Model.AuditFields
import Scaffold.Proofs.Package.Growth
import Scaffold.Proofs.Model.Additions
import Scaffold.Proofs.Lookup
import Scaffold.Proofs.Json.Spelling
import Scaffold.Proofs.Package.Respelling
import Scaffold.Proofs.Package.Reading
import Scaffold.Proofs.Package.Spelling
import Scaffold.Proofs.Template.Supplied
import Scaffold.Proofs.Model.TemplateData
import Scaffold.Proofs.Package.Definitions
import Scaffold.Proofs.Model.Operations
import Scaffold.Proofs.Model.RepositoryText
import Scaffold.Proofs.Model.RepositorySetters
import Scaffold.Proofs.SetterType
import Scaffold.Proofs.Package.Hops
import Scaffold.Proofs.Model.Endless
import Scaffold.Proofs.Model.Attributes
import Scaffold.Proofs.Model.SearchedFields
import Scaffold.Proofs.Model.Ranges
import Scaffold.Proofs.SetterType.Flags
import Scaffold.Proofs.GoType.Readability
import Scaffold.Proofs.GoType.Viewers
import Scaffold.Proofs.Directive.Grammar
import Scaffold.Proofs.Model.OptionTypes
import Scaffold.Proofs.Model.Methods
import Scaffold.Proofs.Text.LowerCamel
import Scaffold.Proofs.Model.ParameterNames
import Scaffold.Proofs.Text.Blank
import Scaffold.Proofs.Formatter
import Scaffold.Proofs.Emission.Writing
import Scaffold.Proofs.Model.IdParserText
import Scaffold.Proofs.Model.SizedIntegers
import Scaffold.Proofs.Options
