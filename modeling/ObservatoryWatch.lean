import ObservatoryWatch.Log.Template
import ObservatoryWatch.Main
import ObservatoryWatch.Proofs.Acceptance
import ObservatoryWatch.Proofs.AcceptedSettings
import ObservatoryWatch.Proofs.ClientsReleased
import ObservatoryWatch.Proofs.EventIdentity
import ObservatoryWatch.Proofs.EventPhase
import ObservatoryWatch.Proofs.EventReading
import ObservatoryWatch.Proofs.EventsOnce
import ObservatoryWatch.Proofs.FlipCountdown
import ObservatoryWatch.Proofs.HistoryTables
import ObservatoryWatch.Proofs.ImagePace
import ObservatoryWatch.Proofs.ImagesCounted
import ObservatoryWatch.Proofs.Indifference
import ObservatoryWatch.Proofs.KeyNames
import ObservatoryWatch.Proofs.Markup
import ObservatoryWatch.Proofs.Mirror
import ObservatoryWatch.Proofs.NestedRedaction
import ObservatoryWatch.Proofs.OwnThumbnails
import ObservatoryWatch.Proofs.QuietRounds
import ObservatoryWatch.Proofs.ReadBack
import ObservatoryWatch.Proofs.Restart
import ObservatoryWatch.Proofs.Retries
import ObservatoryWatch.Proofs.RoomAddress
import ObservatoryWatch.Proofs.RoomProtocol
import ObservatoryWatch.Proofs.TargetConversation
import ObservatoryWatch.Proofs.TargetOrigin
import ObservatoryWatch.Proofs.TargetSearch
import ObservatoryWatch.Proofs.TargetSticking
import ObservatoryWatch.Proofs.WebhookToken
import ObservatoryWatch.Rehearsal
import ObservatoryWatch.Proofs.LatestStart
import ObservatoryWatch.Proofs.MinuteText
import ObservatoryWatch.Proofs.Dates
import ObservatoryWatch.Proofs.FlipClock
import ObservatoryWatch.Proofs.LogLine
