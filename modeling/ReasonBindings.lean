import ReasonBindings.Main
import ReasonBindings.Proofs.Model.Interfaces
import ReasonBindings.Proofs.Model.Outline
import ReasonBindings.Proofs.Model.Sentinel
import ReasonBindings.Proofs.Model.Total
import ReasonBindings.Proofs.Namespace
import ReasonBindings.Proofs.ParseTree.WellTyped
import ReasonBindings.Proofs.TypeText.Scoping
import ReasonBindings.Proofs.Model.LibraryName
import ReasonBindings.Proofs.ParseTree.Constructors
import ReasonBindings.Proofs.Model.Merging
import ReasonBindings.Proofs.Syntax.Plain
import ReasonBindings.Proofs.TypeText.Arguments
import ReasonBindings.Proofs.Model.Arity
import ReasonBindings.Proofs.Model.Swaps
import ReasonBindings.Proofs.Model.Commuting
import ReasonBindings.Proofs.Model.Arrangement
import ReasonBindings.Proofs.Model.Essence
import ReasonBindings.Proofs.Files.Disk
import ReasonBindings.Proofs.ParseTree.Comments
import ReasonBindings.Proofs.Files.Effect
import ReasonBindings.Proofs.Watch
import ReasonBindings.Proofs.Files.Spelling
import ReasonBindings.Proofs.Commands
import ReasonBindings.Proofs.CommandLine
import ReasonBindings.Proofs.TypeText.Parentheses
import ReasonBindings.Proofs.Model.ObjectTypes
import ReasonBindings.Proofs.Model.Lines
import ReasonBindings.Proofs.ParseTree.Copies
import ReasonBindings.Proofs.ParseTree.DottedNamespaces
import ReasonBindings.Proofs.Model.ExportedNames
import ReasonBindings.Proofs.TypeText.Operands
import ReasonBindings.Proofs.ParseTree.DottedNames
import ReasonBindings.Proofs.Model.Warnings
import ReasonBindings.Proofs.Model.MissingNames
import ReasonBindings.Proofs.Model.Signatures
import ReasonBindings.Proofs.ParseTree.Signatures
import ReasonBindings.Proofs.ParseTree.OptionalParameters
import ReasonBindings.Proofs.ParseTree.Tidying
import ReasonBindings.Proofs.ParseTree.Unions
import ReasonBindings.Proofs.Path.BindingsFile
import ReasonBindings.Proofs.Model.Printing
import ReasonBindings.Proofs.ParseTree.NodeTexts
