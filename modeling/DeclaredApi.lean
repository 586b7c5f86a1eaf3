import DeclaredApi.Main
import DeclaredApi.Proofs.Name.Words
import DeclaredApi.Proofs.Signature.Phrase
import DeclaredApi.Proofs.Signature.Completeness
import DeclaredApi.Proofs.Result
import DeclaredApi.Proofs.Signature.Soundness
import DeclaredApi.Proofs.Signature.Scanning
import DeclaredApi.Proofs.Name.Dimensions
import DeclaredApi.Proofs.TypeRef.Validation
import DeclaredApi.Proofs.Signature.Acceptance
import DeclaredApi.Proofs.TypeRef.RoundTrip
import DeclaredApi.Proofs.Scope.Reachability
import DeclaredApi.Proofs.Scope.Registration
import DeclaredApi.Proofs.Declaration.Variables
import DeclaredApi.Proofs.Source.Scoping
import DeclaredApi.Proofs.Source.Visibility
import DeclaredApi.Proofs.Action
import DeclaredApi.Proofs.Resolution.Lists
import DeclaredApi.Proofs.Resolution.Declared
import DeclaredApi.Proofs.ClassSignature.Declared
import DeclaredApi.Proofs.Analysis.Scopes
import DeclaredApi.Proofs.Signature.Interning
import DeclaredApi.Proofs.Resolution.Reference
import DeclaredApi.Proofs.Json.Value
import DeclaredApi.Proofs.Structured.Forms
import DeclaredApi.Proofs.Structured.Soundness
import DeclaredApi.Proofs.Session.History
import DeclaredApi.Proofs.Declaration.Spelling
import DeclaredApi.Proofs.Resolution.Spelling
import DeclaredApi.Proofs.Memo
import DeclaredApi.Proofs.Session.Interned
import DeclaredApi.Proofs.Source.Imports
import DeclaredApi.Proofs.Resolution.Erasure
import DeclaredApi.Proofs.Resolution.Capture
import DeclaredApi.Proofs.Classifier.Decisions
import DeclaredApi.Proofs.TypeRef.Leaves
import DeclaredApi.Proofs.Structured.Projection
import DeclaredApi.Proofs.Structured.RoundTrip
import DeclaredApi.Proofs.ClassSignature.Document
import DeclaredApi.Proofs.ClassSignature.Reference
import DeclaredApi.Proofs.Session.Classification
import DeclaredApi.Proofs.Session.Projection
import DeclaredApi.Proofs.Declaration.Classes
import DeclaredApi.Proofs.Resolution.Leaves
import DeclaredApi.Proofs.ClassSignature.Failures
import DeclaredApi.Proofs.Scope.Parts
import DeclaredApi.Proofs.Resolution.Parts
import DeclaredApi.Proofs.ClassSignature.Parts
import DeclaredApi.Proofs.Analysis.Signatures
import DeclaredApi.Proofs.Analysis.Isolation
import DeclaredApi.Proofs.Sorting
import DeclaredApi.Proofs.Source.Tables
import DeclaredApi.Proofs.Source.Lookups
import DeclaredApi.Proofs.Analysis.Order
import DeclaredApi.Proofs.Source.Forest
import DeclaredApi.Proofs.Source.Declarations
import DeclaredApi.Proofs.ClassSignature.Rearranged
import DeclaredApi.Proofs.Session.MemberOrder
import DeclaredApi.Proofs.Resolution.Stored
import DeclaredApi.Proofs.Signature.Nesting
import DeclaredApi.Proofs.Session.DepthLimit
import DeclaredApi.Proofs.Name.Identifiers
import DeclaredApi.Proofs.Source.Written
import DeclaredApi.Proofs.Source.Reading
import DeclaredApi.Proofs.Source.Meaning
import DeclaredApi.Proofs.Session.SourceTypes
import DeclaredApi.Proofs.ClassSignature.Packages
import DeclaredApi.Proofs.Session.ClassDocuments
import DeclaredApi.Proofs.Source.PartialScans
import DeclaredApi.Proofs.Json.Texts
import DeclaredApi.Proofs.Json.Numbers
import DeclaredApi.Proofs.Json.KeyOrder
import DeclaredApi.Proofs.Json.Values
import DeclaredApi.Proofs.Json.Documents
import DeclaredApi.Proofs.Signature.Wildcards
import DeclaredApi.Proofs.Resolution.Wildcards
import DeclaredApi.Proofs.Structured.Wildcards
import DeclaredApi.Proofs.Session.RootChanges
import DeclaredApi.Proofs.Signature.Lexemes
import DeclaredApi.Proofs.Signature.Shortening
import DeclaredApi.Proofs.Signature.Strays
import DeclaredApi.Proofs.Signature.Levels
import DeclaredApi.Proofs.Signature.Faults
import DeclaredApi.Proofs.Signature.Refusals
import DeclaredApi.Proofs.Signature.FaultPosition
import DeclaredApi.Proofs.Structured.Offences
import DeclaredApi.Proofs.Structured.Acceptance
import DeclaredApi.Proofs.Session.Offences
import DeclaredApi.Proofs.Name.Blanks
import DeclaredApi.Proofs.Signature.Bases
import DeclaredApi.Proofs.Signature.Applied
import DeclaredApi.Proofs.Structured.Bases
import DeclaredApi.Proofs.Session.Bases
import DeclaredApi.Proofs.Scope.Levels
import DeclaredApi.Proofs.Scope.Visibility
import DeclaredApi.Proofs.Resolution.Substitution
import DeclaredApi.Proofs.Source.Origins
import DeclaredApi.Proofs.Source.MemberTypes
import DeclaredApi.Proofs.Source.MemberNames
import DeclaredApi.Proofs.Signature.WildcardFree
import DeclaredApi.Proofs.Resolution.BoundWalks
import DeclaredApi.Proofs.Resolution.RawUses
import DeclaredApi.Proofs.Memo.Reentrancy
import DeclaredApi.Proofs.Classifier.Probing
import DeclaredApi.Proofs.Session.Answers
import DeclaredApi.Proofs.Resolution.Dimensions
import DeclaredApi.Proofs.Signature.Layout
import DeclaredApi.Proofs.Signature.WholeWords
