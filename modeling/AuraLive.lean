import AuraLive.Foundations.Discipline
import AuraLive.VoiceBot.OneVoice
import AuraLive.VoiceBot.Mute
import AuraLive.VoiceBot.Superseded
import AuraLive.VoiceBot.Quiescence
import AuraLive.VoiceBot.Captures
import AuraLive.VoiceBot.VisionMode
import AuraLive.VoiceBot.HostAuthority
import AuraLive.Rag.Delivery
import AuraLive.Rag.Disconnect
import AuraLive.Rag.Questions
import AuraLive.Rag.Reports
import AuraLive.Rag.Transcript
import AuraLive.Perplexity.Cells
import AuraLive.Perplexity.Freshness
import AuraLive.Perplexity.Protection
import AuraLive.Perplexity.Rooms
import AuraLive.Mcp.TimerTool
import AuraLive.Mcp.Deadline
import AuraLive.Mcp.DiagramCache
import AuraLive.Mcp.Framing
import AuraLive.Recording.Metadata
import AuraLive.Llm.Conversation
import AuraLive.Llm.PureCalls
import AuraLive.VoiceBot.Playback
import AuraLive.Foundations.BreadthFirst
import AuraLive.VoiceBot.Flowchart
import AuraLive.VoiceBot.FlowchartLayout
import AuraLive.Perplexity.Addressees
import AuraLive.Study.Answers
import AuraLive.Study.Scores
import AuraLive.Study.Limits
import AuraLive.Lifecycle.Microphones
import AuraLive.Lifecycle.Periodic
import AuraLive.Lifecycle.PerplexityMirror
import AuraLive.Lifecycle.OneBot
import AuraLive.Lifecycle.Teardown
import AuraLive.Lifecycle.AutoShutdown
import AuraLive.Lifecycle.ScreenShare
import AuraLive.VoiceBot.FrameOrder
import AuraLive.VoiceBot.History
import AuraLive.Upload.ChatFiles
import AuraLive.Calendar.NextWeek
import AuraLive.Calendar.FreeSlot
import AuraLive.Calendar.DateExpressions
import AuraLive.Calendar.NextSuchDay
import AuraLive.Calendar.TimeExpressions
import AuraLive.Calendar.Appointments
import AuraLive.Timeline.Context
import AuraLive.Agent.Opinions
import AuraLive.Agent.Insights
import AuraLive.Mcp.Handshake
import AuraLive.Study.QuizReplies
import AuraLive.Stt.Clova
import AuraLive.Foundations.Double
import AuraLive.Agent.Evidence
import AuraLive.VoiceBot.SilenceAlerts
import AuraLive.Foundations.Rewriting
import AuraLive.Foundations.Spacing
import AuraLive.Stt.NormalForm
import AuraLive.Intent.WakeWord
import AuraLive.Foundations.Regex
import AuraLive.Intent.TimerCommands
import AuraLive.Intent.Jamo
import AuraLive.Perplexity.ReportOrder
import AuraLive.VoiceBot.DiagramContexts
import AuraLive.Foundations.Replacing
import AuraLive.Tts.Markdown
import AuraLive.Tts.Images
import AuraLive.Tts.Ssml
import AuraLive.Upload.FileNames
import AuraLive.Foundations.Url
import AuraLive.Upload.ViewerUrl
import AuraLive.Mcp.ArchitectureDiagram
import AuraLive.Mcp.ArchitectureGroups
import AuraLive.Search.Service
import AuraLive.Search.Cache
import AuraLive.Stt.Streams
import AuraLive.Search.Plan
import AuraLive.Foundations.Retry
import AuraLive.Llm.Answers
import AuraLive.Mcp.SequenceDiagram
import AuraLive.Mcp.ErDiagram
import AuraLive.Foundations.Requests
import AuraLive.Access.Admission
import AuraLive.VoiceBot.SpeakingStats
import AuraLive.VoiceBot.DomainModel
import AuraLive.Agent.Router
