import CursorQuery.Main
import CursorQuery.Model.Listing
import CursorQuery.Proofs.CommandLine.Combination
import CursorQuery.Proofs.Declaration.Regions
import CursorQuery.Proofs.Declaration.ScopedNames
import CursorQuery.Proofs.Lowering.Access
import CursorQuery.Proofs.Lowering.Beginning
import CursorQuery.Proofs.Lowering.Definitions
import CursorQuery.Proofs.Lowering.Diagnostics
import CursorQuery.Proofs.Lowering.Enumerators
import CursorQuery.Proofs.Lowering.GlobalName
import CursorQuery.Proofs.Lowering.Hiding
import CursorQuery.Proofs.Lowering.Hierarchy
import CursorQuery.Proofs.Lowering.Locality
import CursorQuery.Proofs.Lowering.Lookup
import CursorQuery.Proofs.Lowering.NameTable
import CursorQuery.Proofs.Lowering.Names
import CursorQuery.Proofs.Lowering.Options
import CursorQuery.Proofs.Lowering.Origin
import CursorQuery.Proofs.Lowering.OutOfLine
import CursorQuery.Proofs.Lowering.Parts
import CursorQuery.Proofs.Lowering.Positions
import CursorQuery.Proofs.Lowering.Preorder
import CursorQuery.Proofs.Lowering.Pruning
import CursorQuery.Proofs.Lowering.QualifiedName
import CursorQuery.Proofs.Lowering.Redeclaration
import CursorQuery.Proofs.Lowering.SemanticParent
import CursorQuery.Proofs.Lowering.Signature
import CursorQuery.Proofs.Lowering.Unnamed
import CursorQuery.Proofs.Pattern.Anchoring
import CursorQuery.Proofs.Pattern.Locality
import CursorQuery.Proofs.Pattern.Unopened
import CursorQuery.Proofs.Query.Compile
import CursorQuery.Proofs.Query.Document
import CursorQuery.Proofs.Query.Issues
import CursorQuery.Proofs.Query.NameMatching
import CursorQuery.Proofs.Query.Validation
import CursorQuery.Proofs.Rendering
import CursorQuery.Proofs.Walk
import CursorQuery.Proofs.CommandLine.Reporting
import CursorQuery.Proofs.Pool
import CursorQuery.Character.Category
import CursorQuery.Character.Script
import CursorQuery.Pattern.Property
import CursorQuery.Pattern.Standard
