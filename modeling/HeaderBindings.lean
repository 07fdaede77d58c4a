import HeaderBindings.Main
import HeaderBindings.Proofs.Emission.Arguments
import HeaderBindings.Proofs.Emission.Filter
import HeaderBindings.Proofs.Emission.Steps
import HeaderBindings.Proofs.Emission.Transcript
import HeaderBindings.Proofs.Emission.Unambiguous
import HeaderBindings.Proofs.Signature.Algebra
import HeaderBindings.Proofs.Signature.Aliases
import HeaderBindings.Proofs.Signature.Chain
import HeaderBindings.Proofs.Signature.Reading
import HeaderBindings.Proofs.Signature.Silent
import HeaderBindings.Proofs.Signature.Transparency
import HeaderBindings.Proofs.Signature.Tree
import HeaderBindings.Proofs.TableRelation
import HeaderBindings.Proofs.Emission.Blocks
import HeaderBindings.Proofs.Emission.Relevance
import HeaderBindings.Proofs.Emission.Rerun
import HeaderBindings.Proofs.Signature.Width
import HeaderBindings.Proofs.Emission.HelperCalls
import HeaderBindings.Proofs.Emission.VoidResult
import HeaderBindings.Proofs.Emission.Visits
import HeaderBindings.Proofs.Emission.Placeholders
import HeaderBindings.Proofs.Emission.Environment
import HeaderBindings.Proofs.Emission.Exchange
import HeaderBindings.Proofs.Signature.Keywords
import HeaderBindings.Proofs.Signature.Respelling
import HeaderBindings.Proofs.Emission.KeywordOrder
import HeaderBindings.Proofs.Emission.Callables
import HeaderBindings.Proofs.Emission.FunctionAliases
import HeaderBindings.Proofs.Emission.Mentions
import HeaderBindings.Proofs.Comments.SelfContained
import HeaderBindings.History
import HeaderBindings.Proofs.Registry.DefaultChoice
import HeaderBindings.Proofs.Reading.Entities
import HeaderBindings.Proofs.Reading.Preserved
import HeaderBindings.Proofs.CommandLine.Places
import HeaderBindings.Proofs.CommandLine.Isolation
import HeaderBindings.Proofs.CommandLine.Outputs
import HeaderBindings.Proofs.CommandLine.Sequence
import HeaderBindings.Proofs.Signature.Shell
import HeaderBindings.Proofs.Module.Names
import HeaderBindings.Proofs.Text.Lines
import HeaderBindings.Proofs.Reading.Names
import HeaderBindings.Proofs.Emission.OneLine
import HeaderBindings.Proofs.Module.ReadBack
import HeaderBindings.Proofs.Module.Includes
import HeaderBindings.Proofs.CommandLine.Written
import HeaderBindings.Proofs.CommandLine.Overwriting
import HeaderBindings.Proofs.Module.CamelCase
import HeaderBindings.Proofs.Reading.Constants
import HeaderBindings.Proofs.Reading.Dimensions
import HeaderBindings.Proofs.Module.Imports
import HeaderBindings.Proofs.Emission.MemberTypes
