import RequestPipeline.Main
import RequestPipeline.Hook.Store
import RequestPipeline.Number
import RequestPipeline.Script
import RequestPipeline.Shelf
import RequestPipeline.Proofs.Steps
import RequestPipeline.Proofs.Courses
import RequestPipeline.Proofs.Order
import RequestPipeline.Proofs.Budget
import RequestPipeline.Proofs.Outcome
import RequestPipeline.Proofs.Calls
import RequestPipeline.Proofs.Answers
import RequestPipeline.Proofs.Attempts
import RequestPipeline.Proofs.Rounds
import RequestPipeline.Proofs.DefaultPipeline
import RequestPipeline.Proofs.Readings
import RequestPipeline.Proofs.Cancellation
import RequestPipeline.Proofs.Rebuild
import RequestPipeline.Proofs.Endpoint
import RequestPipeline.Proofs.ElapsedTime
import RequestPipeline.Proofs.Mappings
import RequestPipeline.Proofs.JsonData
import RequestPipeline.Proofs.TameHooks
import RequestPipeline.Proofs.Interruption
import RequestPipeline.Proofs.CallEnding
import RequestPipeline.Proofs.Validation
import RequestPipeline.Proofs.Precedence
import RequestPipeline.Proofs.BadSettings
import RequestPipeline.Proofs.Rounding
import RequestPipeline.Proofs.DecimalReading
import RequestPipeline.Proofs.ShortestDigits
import RequestPipeline.Proofs.NumberText
import RequestPipeline.Proofs.JsonRoundTrip
import RequestPipeline.Proofs.FirstMessage
import RequestPipeline.Proofs.ClientRequests
import RequestPipeline.Proofs.SentBody
import RequestPipeline.Proofs.BodyRoundTrip
import RequestPipeline.Proofs.Logging
import RequestPipeline.Proofs.Frames
import RequestPipeline.Proofs.TypedBody
import RequestPipeline.Proofs.MessageOfRun
import RequestPipeline.Proofs.GivenHeaders
import RequestPipeline.Proofs.SentAnswers
import RequestPipeline.Proofs.FreshResponses
import RequestPipeline.Proofs.Causes
import RequestPipeline.Proofs.Classification
import RequestPipeline.Proofs.Schedule
import RequestPipeline.Proofs.Waits
import RequestPipeline.Proofs.Untangled
import RequestPipeline.Proofs.UntangledHooks
import RequestPipeline.Proofs.CauseChains
import RequestPipeline.Proofs.HookLists
import RequestPipeline.Proofs.ListedNames
import RequestPipeline.Proofs.JsonGrammar
import RequestPipeline.Proofs.StandardText
import RequestPipeline.Proofs.StandardBody
import RequestPipeline.Proofs.Targets
import RequestPipeline.Proofs.Settlement
import RequestPipeline.Proofs.IndentedText
import RequestPipeline.Proofs.EndingTexts
import RequestPipeline.Proofs.LevelNames
