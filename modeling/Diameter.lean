import Diameter.Network.Outside
import Diameter.Settings.Reader
import Diameter.Proofs.Flags
import Diameter.Proofs.Shape
import Diameter.Proofs.Ringing
import Diameter.Proofs.Bypass
import Diameter.Proofs.Stage
import Diameter.Proofs.Stage.Opening
import Diameter.Proofs.Stage.Election
import Diameter.Proofs.Stage.Running
import Diameter.Proofs.Stage.Step
import Diameter.Proofs.Run
import Diameter.Proofs.Sight
import Diameter.Proofs.Handshake
import Diameter.Proofs.Links
import Diameter.Proofs.Precedence
import Diameter.Proofs.Expected
import Diameter.Proofs.EventHandling
import Diameter.Proofs.Utterance
import Diameter.Proofs.RequestOutcome
import Diameter.Proofs.Tells
import Diameter.Proofs.Acceptable
import Diameter.Proofs.Watch
import Diameter.Proofs.Watch.Turn
import Diameter.Proofs.Clockwork
import Diameter.Proofs.Chronicle
import Diameter.Proofs.Misses
import Diameter.Proofs.Parting
import Diameter.Proofs.Language
import Diameter.Proofs.Rebuff
import Diameter.Proofs.Postponing
import Diameter.Proofs.Strangers
import Diameter.Proofs.Speech
import Diameter.Proofs.PendingTurns
import Diameter.Proofs.Pending
import Diameter.Proofs.RequestNotes
import Diameter.Proofs.Settlement
import Diameter.Proofs.Answers
import Diameter.Proofs.Tidy
import Diameter.Proofs.Holdings
import Diameter.Proofs.WaitersSettled
import Diameter.Proofs.Teardown
import Diameter.Proofs.World
import Diameter.Proofs.Correlation
import Diameter.Proofs.OctetWords
import Diameter.Proofs.AvpCodec
import Diameter.Proofs.MessageCodec
import Diameter.Proofs.Introduction
import Diameter.Proofs.Negotiation
import Diameter.Proofs.Accord
import Diameter.Proofs.Advertisement
import Diameter.Proofs.Duel
import Diameter.Proofs.Duel.Stands
import Diameter.Proofs.Duel.Sound
import Diameter.Proofs.Duel.Agreement
import Diameter.Proofs.Dispatches
import Diameter.Proofs.Replies
import Diameter.Proofs.Office
import Diameter.Proofs.Padding
import Diameter.Proofs.AvpTree
import Diameter.Proofs.Framing
import Diameter.Proofs.AttachedStreams
import Diameter.Proofs.StreamHandover
import Diameter.Proofs.Outgoing
import Diameter.Proofs.NetworkSteps
import Diameter.Proofs.Brevity
import Diameter.Proofs.Endurance
import Diameter.Proofs.Exclusive
import Diameter.Proofs.Diversion
import Diameter.Proofs.Values
import Diameter.Proofs.Blame
import Diameter.Proofs.Attending
import Diameter.Proofs.Buffers
import Diameter.Proofs.Registrations
import Diameter.Proofs.Happenings
import Diameter.Proofs.Numbering
import Diameter.Proofs.Detached
import Diameter.Proofs.Blind
import Diameter.Proofs.Awaiting
import Diameter.Proofs.Abreast
import Diameter.Proofs.Welcome
import Diameter.Proofs.Takeover
import Diameter.Proofs.Pertinent
import Diameter.Proofs.Dealings
import Diameter.Proofs.Eras
import Diameter.Proofs.Selection
import Diameter.Proofs.Ledger
import Diameter.Proofs.AlarmClock
import Diameter.Proofs.Grammar
import Diameter.Proofs.Freshness
