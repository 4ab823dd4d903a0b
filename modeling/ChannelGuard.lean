import ChannelGuard.Access.Script
import ChannelGuard.Api.Router
import ChannelGuard.Main
import ChannelGuard.Policy.Directory
import ChannelGuard.Proofs.ChannelNames
import ChannelGuard.Proofs.DecisionTable
import ChannelGuard.Proofs.ParsingByGrammar
import ChannelGuard.Proofs.RuleIsolation
import ChannelGuard.Settings.Basic
import ChannelGuard.Proofs.ByteOrder
import ChannelGuard.Proofs.GuardedChannels
import ChannelGuard.Proofs.Attempts
import ChannelGuard.Proofs.DeclaredRules
import ChannelGuard.Proofs.DirectoryLoading
import ChannelGuard.Proofs.QueryWireForm
import ChannelGuard.Proofs.JsonView
import ChannelGuard.Proofs.ConditionPaths
import ChannelGuard.Proofs.WithheldData
import ChannelGuard.Proofs.JsonText
import ChannelGuard.Proofs.RecordForms
import ChannelGuard.Proofs.HttpDecisions
import ChannelGuard.Proofs.RuleViews
import ChannelGuard.Proofs.IntegerComparison
import ChannelGuard.Proofs.IgnoredParts
import ChannelGuard.Proofs.LexicalGrammar
import ChannelGuard.Proofs.NumberLiterals
import ChannelGuard.Proofs.LexemeReading
import ChannelGuard.Proofs.LongestMatch
import ChannelGuard.Proofs.ComposedConditions
import ChannelGuard.Proofs.RenderedConditions
import ChannelGuard.Proofs.NegatedConditions
import ChannelGuard.Proofs.UnfailingConditions
import ChannelGuard.Proofs.EqualityOfValues
import ChannelGuard.Proofs.ComparisonLaws
import ChannelGuard.Proofs.ModelNames
import ChannelGuard.Proofs.TimeLimits
import ChannelGuard.Proofs.WireShapes
import ChannelGuard.Proofs.RefusalTexts
import ChannelGuard.Proofs.FaultOffsets
import ChannelGuard.Proofs.ParsingSteps
import ChannelGuard.Proofs.TomlTables
import ChannelGuard.Proofs.SettingsTree
import ChannelGuard.Proofs.SettingsLayers
import ChannelGuard.Proofs.SettingsLoading
