import Ipsc2Mmdvm.Bridge.Forwarding
import Ipsc2Mmdvm.Web.Upstream

namespace Ipsc2Mmdvm.Bridge

open Data Registry Web List

/-! The upstream networks that the bridge starts with: the devices of the registry with a valid
configuration, or what the configuration file has.  Each is validated alone. -/

section

variable (env : StartEnv)

end

section

variable {cfg : MMDVM} {names : List String} {networks : List MMDVM}

end

section

variable {env : StartEnv} {svc : Service}

end

end Ipsc2Mmdvm.Bridge
