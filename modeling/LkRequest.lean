import LkRequest.Handshake.Chunking
import LkRequest.Stream.Reading
import LkRequest.Stream.PostHandshake
import LkRequest.Quic.Levels
import LkRequest.Quic.HeaderProtection
import LkRequest.Handshake.TranscriptSpec
import LkRequest.Handshake.EchAcceptance
import LkRequest.Hello.EchBuilder
import LkRequest.Client.H2Errors
import LkRequest.Client.RemoteDns
import LkRequest.Client.Authenticated
import LkRequest.Client.HttpsOnly
import LkRequest.Client.Routes
import LkRequest.Client.Credentials
import LkRequest.Client.QuicFailures
import LkRequest.Client.DnsFlight
import LkRequest.Client.ConnectionLimit
import LkRequest.Client.QuicCoalescing
import LkRequest.Client.ConnectionUse
import LkRequest.Client.SessionCapacity
import LkRequest.Client.BadProxyTally
import LkRequest.Client.ProtocolChoice
import LkRequest.Client.HttpsSelection
import LkRequest.Client.CookieRemoval
import LkRequest.Client.TcpFingerprint
import LkRequest.Client.QuicQuarantine
import LkRequest.H2.Uploads
import LkRequest.H2.TableSize
import LkRequest.H2.DynamicTable
import LkRequest.H2.ReceiveCredit
import LkRequest.H2.StreamIds
import LkRequest.H2.HeaderFrames
import LkRequest.H2.Processing
import LkRequest.SessionStore
