import Userscript.Injector
import Userscript.Loader
import Userscript.Proofs.Alternatives
import Userscript.Proofs.CaseClasses
import Userscript.Proofs.Cutting
import Userscript.Proofs.DistinctRules
import Userscript.Proofs.DomainNames
import Userscript.Proofs.ElementAttributes
import Userscript.Proofs.GlobExpression
import Userscript.Proofs.GlobMatching
import Userscript.Proofs.GlobRules
import Userscript.Proofs.GroupNames
import Userscript.Proofs.HostCharacters
import Userscript.Proofs.HostGlobs
import Userscript.Proofs.InjectedOrder
import Userscript.Proofs.JoinedExpressions
import Userscript.Proofs.KeptItems
import Userscript.Proofs.LatinCapitals
import Userscript.Proofs.LineEndings
import Userscript.Proofs.LineGlobs
import Userscript.Proofs.LinkingCode
import Userscript.Proofs.LoadedScripts
import Userscript.Proofs.LookAhead
import Userscript.Proofs.MarkedBlocks
import Userscript.Proofs.MatchedSpans
import Userscript.Proofs.MetadataBlock
import Userscript.Proofs.MetadataLine
import Userscript.Proofs.Overlay
import Userscript.Proofs.PageComment
import Userscript.Proofs.PageSelection
import Userscript.Proofs.PageTokens
import Userscript.Proofs.ParsedScript
import Userscript.Proofs.PatternForms
import Userscript.Proofs.PlannedElement
import Userscript.Proofs.PlannedText
import Userscript.Proofs.PolicyHeader
import Userscript.Proofs.PolicyPasses
import Userscript.Proofs.PreferredMatch
import Userscript.Proofs.ProcessedPage
import Userscript.Proofs.PublishedExpression
import Userscript.Proofs.QueryParameters
import Userscript.Proofs.ReadBehind
import Userscript.Proofs.ReadClassBehind
import Userscript.Proofs.ReadGroupBehind
import Userscript.Proofs.ReadInside
import Userscript.Proofs.RefusedMetadata
import Userscript.Proofs.RefusedScripts
import Userscript.Proofs.RenamedNonces
import Userscript.Proofs.ResolvedScript
import Userscript.Proofs.RewrittenHeader
import Userscript.Proofs.RuleFiles
import Userscript.Proofs.RuleUnion
import Userscript.Proofs.ScriptOrder
import Userscript.Proofs.ScriptSlots
import Userscript.Proofs.SearchSoundness
import Userscript.Proofs.SettledMetadata
import Userscript.Proofs.SpannedTexts
import Userscript.Proofs.SplitItems
import Userscript.Proofs.Trimming
import Userscript.Proofs.UnsafeMarkup
import Userscript.Proofs.UnsafePlaces
import Userscript.Proofs.UselessScripts
import Userscript.Proofs.Validation
import Userscript.Proofs.VersionedAddress
import Userscript.Proofs.WebAddresses
import Userscript.Proofs.WrittenPatterns
import Userscript.Proofs.WrittenStrings
import Userscript.Rules.Filter
