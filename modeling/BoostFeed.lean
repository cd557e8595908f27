import BoostFeed.Main
import BoostFeed.Session.Form
import BoostFeed.Playback.Form
import BoostFeed.Setup.Form
import BoostFeed.Proofs.Session.Convergence
import BoostFeed.Proofs.Session.Rendering
import BoostFeed.Proofs.Session.CatchUp
import BoostFeed.Proofs.Session.Repetition
import BoostFeed.Proofs.Session.FirstPlay
import BoostFeed.Proofs.Feed.Map
import BoostFeed.Proofs.Playback.SingleFlight
import BoostFeed.Proofs.Service.Traffic
import BoostFeed.Proofs.Service.Provenance
import BoostFeed.Proofs.Service.Cursor
import BoostFeed.Proofs.Service.Silence
import BoostFeed.Proofs.Watch.Attempts
import BoostFeed.Proofs.Session.Pushing
import BoostFeed.Proofs.Session.OlderHistory
import BoostFeed.Proofs.Session.Exhausted
import BoostFeed.Proofs.Service.Reporting
import BoostFeed.Proofs.Service.Denial
import BoostFeed.Proofs.Service.Replying
import BoostFeed.Proofs.Address.PushEndpoint
import BoostFeed.Proofs.Terminal.Remembering
import BoostFeed.Proofs.Service.Decoding
import BoostFeed.Proofs.Playback.Ensemble
import BoostFeed.Proofs.Setup.Layering
import BoostFeed.Proofs.Service.BalanceReadings
import BoostFeed.Proofs.Service.Relaying
import BoostFeed.Proofs.Feed.Neighbours
import BoostFeed.Proofs.Session.FirstArrivals
import BoostFeed.Proofs.Numerology.RuleOrder
import BoostFeed.Proofs.Numerology.Equalities
import BoostFeed.Proofs.Numerology.RuleList
import BoostFeed.Proofs.Session.AppNames
import BoostFeed.Proofs.Session.EventSounds
import BoostFeed.Proofs.Terminal.ReplyLine
