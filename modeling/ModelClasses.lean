import ModelClasses.DeclarationDocument
import ModelClasses.LiteralReader
import ModelClasses.Emission
import ModelClasses.Manifest
import ModelClasses.TraitSource.Reader
import ModelClasses.TraitSource.Declarations
import ModelClasses.Main
import ModelClasses.Proofs.Decimal.DigitText
import ModelClasses.Proofs.Decimal.Rounding
import ModelClasses.Proofs.Decimal.Numeral
import ModelClasses.Proofs.Literal.Escape
import ModelClasses.Proofs.Literal.Number
import ModelClasses.Proofs.Literal.RoundTrip
import ModelClasses.Proofs.Descriptor.Collection
import ModelClasses.Proofs.Synthesis.Classification
import ModelClasses.Proofs.Synthesis.Shape
import ModelClasses.Proofs.Generation
import ModelClasses.Proofs.Annotations
import ModelClasses.Proofs.Generation.Literals
import ModelClasses.Proofs.Synthesis.Acceptance
import ModelClasses.Proofs.Synthesis.Attribution
import ModelClasses.Proofs.Generation.Failures
import ModelClasses.Proofs.Generation.Discovery
import ModelClasses.Proofs.Generation.Order
import ModelClasses.Proofs.Path
import ModelClasses.Proofs.Emission.Store
import ModelClasses.Proofs.Emission
import ModelClasses.Proofs.Descriptor.Redeclaration
import ModelClasses.Proofs.Generation.Stability
import ModelClasses.Proofs.SourceText
import ModelClasses.Proofs.Generation.Scope
import ModelClasses.Proofs.Generation.Delegated
import ModelClasses.Proofs.Generation.TypeNames
import ModelClasses.Proofs.Json.Number
import ModelClasses.Proofs.Json.RoundTrip
import ModelClasses.Proofs.Json.Record
import ModelClasses.Proofs.DeclarationDocument
import ModelClasses.Proofs.Decimal.Grammar
import ModelClasses.Proofs.Literal.Grammar
import ModelClasses.Proofs.Literal.Exact
import ModelClasses.Proofs.Literal.Canonical
import ModelClasses.Proofs.Literal.ReferenceKinds
import ModelClasses.Proofs.Literal.Inert
import ModelClasses.Proofs.Literal.Cursor
import ModelClasses.Proofs.Literal.Faults
import ModelClasses.Proofs.Emission.Containment
import ModelClasses.Proofs.Generation.IntegerDefaults
import ModelClasses.Proofs.Naming.CamelCase
import ModelClasses.Proofs.Resolution.Packages
import ModelClasses.Proofs.TraitSource.Accessors
import ModelClasses.Proofs.TraitSource.IntegerDefaults
import ModelClasses.Proofs.TraitSource.ModulePaths
import ModelClasses.Proofs.Generation.WrittenTags
import ModelClasses.Proofs.Generation.PropertyNames
import ModelClasses.Proofs.Generation.Constructors
import ModelClasses.Proofs.Generation.DelegatedScope
import ModelClasses.Proofs.Generation.ClassNames
import ModelClasses.Proofs.SourceText.TypeText
import ModelClasses.Proofs.Resolution.AnnotationRecords
import ModelClasses.Proofs.TraitSource.Implementations
import ModelClasses.Proofs.TraitSource.References
import ModelClasses.Proofs.TraitSource.TypePlaces
import ModelClasses.Proofs.SourceText.Members
import ModelClasses.Proofs.Emission.Lossless
import ModelClasses.Proofs.Naming.Words
import ModelClasses.Proofs.IndexedGraph
import ModelClasses.Proofs.Generation.Duplicates
