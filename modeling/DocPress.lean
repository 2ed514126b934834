import DocPress.FileTree
import DocPress.Json.Printer
import DocPress.Main
import DocPress.Proofs.ComponentLinks
import DocPress.Proofs.HiddenCommands
import DocPress.Proofs.HiddenDeclarations
import DocPress.Proofs.RenderedTypes
import DocPress.Proofs.RuntimeAnchors
import DocPress.Proofs.SamePageLinks
import DocPress.Proofs.TransparentWrappers
import DocPress.Proofs.RunOutcomes
import DocPress.Proofs.ReorderedUnits
import DocPress.Proofs.RepeatedGroups
import DocPress.Proofs.ComponentBlocks
import DocPress.Proofs.HeadingLevels
import DocPress.Proofs.CommentTexts
import DocPress.Proofs.BalancedSections
import DocPress.Proofs.BalancedPages
import DocPress.Proofs.OutputPaths
import DocPress.Proofs.InterfaceLinks
import DocPress.Proofs.LoadedReferences
import DocPress.Proofs.WrittenDeclarations
import DocPress.Proofs.SeparateRuns
import DocPress.Proofs.LinkTargets
import DocPress.Proofs.PlainTexts
import DocPress.Proofs.FragmentTexts
import DocPress.Proofs.EscapedBraces
import DocPress.Proofs.CodeTags
import DocPress.Proofs.ShiftedFields
import DocPress.Proofs.AppendedInterfaces
import DocPress.Proofs.LinkAddresses
import DocPress.Proofs.DirectMembers
import DocPress.Proofs.VersionedCalls
import DocPress.Proofs.RunFunctions
import DocPress.Proofs.SubcommandAnchors
import DocPress.Proofs.SubcommandLinks
import DocPress.Proofs.CommandDocuments
import DocPress.Proofs.ConfiguredTexts
import DocPress.Proofs.ConfigFaults
import DocPress.Proofs.LargeNumbers
import DocPress.Proofs.ImportRoots
import DocPress.Proofs.AnchorTexts
