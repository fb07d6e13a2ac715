import IdentityTypes.Program
import IdentityTypes.Proofs.Catalog.Assembly
import IdentityTypes.Proofs.Catalog.Families
import IdentityTypes.Proofs.Catalog.Forest
import IdentityTypes.Proofs.Catalog.Links
import IdentityTypes.Proofs.Catalog.Names
import IdentityTypes.Proofs.Catalog.Order
import IdentityTypes.Proofs.Configuration.Discovery
import IdentityTypes.Proofs.Configuration.Layout
import IdentityTypes.Proofs.FamilyRules
import IdentityTypes.Proofs.Files.Paths
import IdentityTypes.Proofs.Files.Replacement
import IdentityTypes.Proofs.Filter.Injective
import IdentityTypes.Proofs.Filter.Literals
import IdentityTypes.Proofs.Filter.Pieces
import IdentityTypes.Proofs.Filter.Reading
import IdentityTypes.Proofs.Filter.Writing
import IdentityTypes.Proofs.Generation
import IdentityTypes.Proofs.Inference.Arrays
import IdentityTypes.Proofs.Inference.Faults
import IdentityTypes.Proofs.Inference.FirstFault
import IdentityTypes.Proofs.Inference.Gather
import IdentityTypes.Proofs.Inference.Invariant
import IdentityTypes.Proofs.Inference.Mirror
import IdentityTypes.Proofs.Inference.Rules
import IdentityTypes.Proofs.Inference.Walk
import IdentityTypes.Proofs.Json.Grammar
import IdentityTypes.Proofs.Json.Lexing
import IdentityTypes.Proofs.Json.Literal
import IdentityTypes.Proofs.Json.Reading
import IdentityTypes.Proofs.Json.Records
import IdentityTypes.Proofs.Json.Writing
import IdentityTypes.Proofs.Name.Casing
import IdentityTypes.Proofs.Name.Words
import IdentityTypes.Proofs.OpenShapes
import IdentityTypes.Proofs.Outcomes
import IdentityTypes.Proofs.References
import IdentityTypes.Proofs.Relationships
import IdentityTypes.Proofs.Schema.Distinct
import IdentityTypes.Proofs.Schema.Layout
import IdentityTypes.Proofs.Schema.Reading
import IdentityTypes.Proofs.Schema.Writing
import IdentityTypes.Proofs.Sorting
import IdentityTypes.Proofs.Text.Utf8
import IdentityTypes.Proofs.TypeScript.Accessors
import IdentityTypes.Proofs.TypeScript.Comments
import IdentityTypes.Proofs.TypeScript.Defaults
import IdentityTypes.Proofs.TypeScript.Exports
import IdentityTypes.Proofs.TypeScript.Identifiers
import IdentityTypes.Proofs.TypeScript.Imports
import IdentityTypes.Proofs.TypeScript.Keys
import IdentityTypes.Proofs.TypeScript.Lines
import IdentityTypes.Proofs.TypeScript.Members
import IdentityTypes.Proofs.TypeScript.ReadBack
import IdentityTypes.Proofs.TypeScript.Reader
import IdentityTypes.Proofs.TypeScript.Types
