import JvmScope.ClassFile.Assembler
import JvmScope.ClassFile.Parser
import JvmScope.Classpath.Provider
import JvmScope.Config.LogFilter
import JvmScope.Config.Reader
import JvmScope.Resolution.Check
import JvmScope.Types.Members
import JvmScope.Proofs.Outcome
import JvmScope.Proofs.QualifiedName
import JvmScope.Proofs.Descriptor.MethodType
import JvmScope.Proofs.Program.Below
import JvmScope.Proofs.Types.Source
import JvmScope.Proofs.Types.Walk
import JvmScope.Proofs.Types.Selection
import JvmScope.Proofs.Resolution.TypeLookup
import JvmScope.Proofs.Resolution.Declarations
import JvmScope.Proofs.Resolution.CleanCheck
import JvmScope.Proofs.Resolution.FileSource
import JvmScope.Proofs.Resolution.Provenance
import JvmScope.Proofs.Resolution.CallDescriptors
import JvmScope.Proofs.Resolution.RoundTrip
import JvmScope.Proofs.ClassFile.Framing
import JvmScope.Proofs.ClassFile.Content
import JvmScope.Proofs.ClassFile.ModifiedUtf8
import JvmScope.Proofs.ClassFile.RoundTrip
import JvmScope.Proofs.Types.Hiding
import JvmScope.Proofs.Types.Ambiguity
import JvmScope.Proofs.Classpath.Generated
import JvmScope.Proofs.Resolution.DocumentOrder
import JvmScope.Proofs.Resolution.ErrorPlaces
import JvmScope.Proofs.Resolution.FileTrail
import JvmScope.Proofs.Resolution.MemberMistakes
import JvmScope.Proofs.Resolution.PropertyReports
import JvmScope.Proofs.Classpath.OwnNames
import JvmScope.Proofs.Classpath.Runs
import JvmScope.Proofs.Resolution.ErrorSpread
import JvmScope.Proofs.Resolution.TypeNames
import JvmScope.Proofs.Resolution.SymbolLookup
import JvmScope.Proofs.Resolution.StaticImports
import JvmScope.Proofs.Types.Erasure
import JvmScope.Proofs.Resolution.CallTypes
import JvmScope.Proofs.Resolution.CallResolution
import JvmScope.Proofs.ClassFile.Assembly
import JvmScope.Proofs.Descriptor.Grammar
import JvmScope.Proofs.Types.Storing
import JvmScope.Proofs.Types.FreeVariables
import JvmScope.Proofs.Program.Construction
import JvmScope.Proofs.Types.Questions
import JvmScope.Proofs.Types.SubtypeSearch
import JvmScope.Proofs.Types.Chains
import JvmScope.Proofs.Classpath.Opening
import JvmScope.Proofs.Program.Endings
import JvmScope.Proofs.Resolution.PlainImports
import JvmScope.Proofs.Resolution.Termination
import JvmScope.Proofs.Types.Failures
import JvmScope.Proofs.Types.MethodLists
import JvmScope.Proofs.Types.CallDecisions
import JvmScope.Proofs.Resolution.LexicalScope
import JvmScope.Proofs.Resolution.AssignmentTargets
import JvmScope.Proofs.Resolution.WrittenTypes
import JvmScope.Proofs.Resolution.DeclaredMembers
import JvmScope.Proofs.Descriptor.ReadingBack
import JvmScope.Proofs.Signature.Grammar
import JvmScope.Proofs.Signature.TypeParameters
import JvmScope.Proofs.Classpath.LoadedMembers
import JvmScope.Proofs.Classpath.FirstSpelling
import JvmScope.Proofs.Classpath.ModuleOrder
import JvmScope.Proofs.Types.Substitution
import JvmScope.Proofs.Types.StoringRule
import JvmScope.Proofs.Types.Instances
import JvmScope.Proofs.Types.StoringOrder
import JvmScope.Proofs.Signature.Bounds
import JvmScope.Proofs.Classpath.Listing
