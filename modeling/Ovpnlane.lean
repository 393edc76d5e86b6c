import Ovpnlane.Properties.LocalPort
import Ovpnlane.Properties.FlowBytes
import Ovpnlane.Properties.EndOfStream
import Ovpnlane.Properties.Handshake
import Ovpnlane.Properties.Replies
import Ovpnlane.Properties.Resources
import Ovpnlane.Properties.Resolution
import Ovpnlane.Properties.DnsPolicy
import Ovpnlane.Properties.DnsFailure
import Ovpnlane.Properties.Resets
import Ovpnlane.Properties.Generations
import Ovpnlane.Properties.FailedStart
import Ovpnlane.Properties.Options
import Ovpnlane.Properties.DnsServers
import Ovpnlane.Properties.SocksGrammar
import Ovpnlane.Properties.SocksLimit
import Ovpnlane.Properties.SavePassword
import Ovpnlane.Properties.SessionMessage
import Ovpnlane.Properties.UpdateGates
import Ovpnlane.Properties.Extraction
import Ovpnlane.Properties.Profiles
import Ovpnlane.Properties.Keychain
import Ovpnlane.Properties.Credential
import Ovpnlane.Properties.Listing
import Ovpnlane.Properties.Discovery
import Ovpnlane.Properties.Manifests
import Ovpnlane.Properties.ServeLoop
import Ovpnlane.Properties.ProcessEnd
import Ovpnlane.Properties.InstallRelease
import Ovpnlane.Properties.StoredPassword
import Ovpnlane.Properties.IdleFlows
import Ovpnlane.Properties.UpdateRelease
import Ovpnlane.Properties.Refusals
