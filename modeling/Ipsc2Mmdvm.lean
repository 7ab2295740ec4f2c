import Ipsc2Mmdvm.Audio.DecoderPool
import Ipsc2Mmdvm.Bridge.AdminSettings
import Ipsc2Mmdvm.Bridge.Echo
import Ipsc2Mmdvm.Bridge.ManagedClients
import Ipsc2Mmdvm.Bridge.Routes
import Ipsc2Mmdvm.Bridge.Streams
import Ipsc2Mmdvm.Dmr.BptcDistance
import Ipsc2Mmdvm.Dmr.FullLinkControl
import Ipsc2Mmdvm.Hytera.AnalogAudio
import Ipsc2Mmdvm.Hytera.Expiry
import Ipsc2Mmdvm.Hytera.Grammar
import Ipsc2Mmdvm.Hytera.Numbering
import Ipsc2Mmdvm.Ipsc.Arrival
import Ipsc2Mmdvm.Ipsc.Loss
import Ipsc2Mmdvm.Ipsc.MapOrder
import Ipsc2Mmdvm.Ipsc.Numbering
import Ipsc2Mmdvm.Ipsc.PeerList
import Ipsc2Mmdvm.Mmdvm.Completion
import Ipsc2Mmdvm.Mmdvm.ConfigPacket
import Ipsc2Mmdvm.Mmdvm.Draining
import Ipsc2Mmdvm.Mmdvm.Interleaving
import Ipsc2Mmdvm.Mmdvm.Login
import Ipsc2Mmdvm.Mmdvm.Representation
import Ipsc2Mmdvm.Mmdvm.Supervision
import Ipsc2Mmdvm.Nrl.Closing
import Ipsc2Mmdvm.Nrl.Framing
import Ipsc2Mmdvm.Registry.DeviceRaces
import Ipsc2Mmdvm.Registry.Lifecycle
import Ipsc2Mmdvm.Registry.Timestamps
import Ipsc2Mmdvm.Repeater.Duplicates
import Ipsc2Mmdvm.Repeater.Rejection
import Ipsc2Mmdvm.Rewrite.Meaning
import Ipsc2Mmdvm.Timeslot.Conservation
import Ipsc2Mmdvm.Web.AudioMixer
import Ipsc2Mmdvm.Web.Passwords
import Ipsc2Mmdvm.Web.SavedConfig
