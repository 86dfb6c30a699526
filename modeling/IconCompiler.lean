import IconCompiler.Icon
import IconCompiler.Markup.Stored
import IconCompiler.Template.Reader
import IconCompiler.Proofs.OpenElements
import IconCompiler.Proofs.Preorder
import IconCompiler.Proofs.WrittenTree
import IconCompiler.Proofs.Names
import IconCompiler.Proofs.ReadAttributes
import IconCompiler.Proofs.StackRuns
import IconCompiler.Proofs.Representation
import IconCompiler.Proofs.Rounding
import IconCompiler.Proofs.RoundingInterval
import IconCompiler.Proofs.ShortestDecimal
import IconCompiler.Proofs.NumberRoundTrip
import IconCompiler.Proofs.Escaping
import IconCompiler.Proofs.TaggedText
import IconCompiler.Proofs.AttributeSection
import IconCompiler.Proofs.TagBodies
import IconCompiler.Proofs.EmittedTree
import IconCompiler.Proofs.EmittedMarkup
import IconCompiler.Proofs.DepthReview
import IconCompiler.Proofs.ReadOutcome
import IconCompiler.Proofs.Visibility
import IconCompiler.Proofs.QuotedLiterals
import IconCompiler.Proofs.CallArguments
import IconCompiler.Proofs.RenderCalls
import IconCompiler.Proofs.TargetFiles
import IconCompiler.Proofs.BatchOutcome
import IconCompiler.Proofs.ScriptModules
import IconCompiler.Proofs.ThemeImports
import IconCompiler.Proofs.ComposedSource
import IconCompiler.Proofs.FileCollisions
import IconCompiler.Proofs.CustomTags
import IconCompiler.Proofs.MarkupCharacters
import IconCompiler.Proofs.TemplateLiterals
import IconCompiler.Proofs.InertTemplates
import IconCompiler.Proofs.EmptyPairs
import IconCompiler.Proofs.OpeningOrder
import IconCompiler.Proofs.InertMarkup
import IconCompiler.Proofs.GlueTemplates
import IconCompiler.Proofs.SharedClasses
import IconCompiler.Proofs.AttributeItems
import IconCompiler.Proofs.Respacing
import IconCompiler.Proofs.SegmentTokens
import IconCompiler.Proofs.LocatedElements
import IconCompiler.Proofs.CharacterReferences
import IconCompiler.Proofs.StartTags
import IconCompiler.Proofs.ObjectEntries
import IconCompiler.Proofs.RootAttributes
import IconCompiler.Proofs.NumeralGrammar
import IconCompiler.Proofs.SizeLiterals
import IconCompiler.Proofs.ModuleNames
import IconCompiler.Proofs.VerbatimTemplates
import IconCompiler.Proofs.ClassExpressions
import IconCompiler.Proofs.AsciiWords
import IconCompiler.Proofs.JsxAttributes
import IconCompiler.Proofs.PathTexts
import IconCompiler.Proofs.NearestNumbers
import IconCompiler.Proofs.NumericValues
import IconCompiler.Proofs.SpellingMaps
import IconCompiler.Proofs.StoredConfigs
import IconCompiler.Proofs.ErrorAttribution
