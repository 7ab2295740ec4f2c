import Ipsc2Mmdvm.Data.Net
import Ipsc2Mmdvm.Rewrite.Rules
import Ipsc2Mmdvm.Web.Devices

namespace Ipsc2Mmdvm.Web

open Data Registry Rewrite

/-! Upstream networks are configurations kept as devices.  What a device has no column for is one
JSON text. -/

structure ManagedExtra where
  masterServer : String := ""
  tgRewrites : List Mapping := []
  pcRewrites : List Mapping := []
  typeRewrites : List Mapping := []
  srcRewrites : List Mapping := []
  passAllPC : List Int := []
  passAllTG : List Int := []

structure ExtraCodec where
  unmarshal : String → Except String ManagedExtra
  marshal : ManagedExtra → Except String String

/-- `config.MMDVM`, without the listen address, which only the server mode has. -/
structure MMDVM where
  sourceKey : String
  name : String
  callsign : String
  id : UInt32
  rxFreq : UInt64
  txFreq : UInt64
  txPower : UInt8
  colorCode : UInt8
  latitude : Rat
  longitude : Rat
  height : UInt16
  location : String
  description : String
  url : String
  slots : UInt8
  masterServer : String
  password : String
  tgRewrites : List Mapping
  pcRewrites : List Mapping
  typeRewrites : List Mapping
  srcRewrites : List Mapping
  passAllPC : List Int
  passAllTG : List Int

def sourceKeyOf (cfg : MMDVM) : String :=
  if trimText cfg.sourceKey ≠ "" then trimText cfg.sourceKey else "mmdvm-upstream:" ++ trimText cfg.name

def parseManagedExtra (codec : ExtraCodec) (raw : String) : Except String ManagedExtra :=
  if trimText raw = "" then .ok {} else codec.unmarshal (trimText raw)

def marshalManagedExtra (codec : ExtraCodec) (extra : ManagedExtra) : Except String String :=
  (codec.marshal extra).map fun data => if data = "\x7b\x7d" then "" else data

def masterServerFromDevice (dev : Device) : String :=
  if trimText dev.ip = "" then ""
  else if dev.port > 0 then joinHostPort (trimText dev.ip) (toString dev.port)
  else trimText dev.ip

/-- What `strconv.Atoi` returns, whether or not it reports an error: zero for a text that is no
number, the nearest number for one that is out of range. -/
def atoiValue (text : String) : Int :=
  match atoi text with
  | some value => value
  | none =>
    let digits := match text.toList with
      | '-' :: digits => digits
      | '+' :: digits => digits
      | digits => digits
    if digits.isEmpty || digits.any (fun digit => !digit.isDigit) then 0
    else if text.toList.head? = some '-' then -2 ^ 63
    else 2 ^ 63 - 1

def splitMasterServer (value : String) : String × Int :=
  if trimText value = "" then ("", 0)
  else
    match splitHostPort (trimText value) with
    | none => (trimText value, 0)
    | some (host, port) => (host, atoiValue port)

def deviceToConfig (codec : ExtraCodec) (dev : Device) : Except String MMDVM :=
  match parseManagedExtra codec dev.extraJSON with
  | .error text => .error ("parse managed extra: " ++ text)
  | .ok extra =>
    .ok
      { sourceKey := dev.sourceKey
        name := trimText dev.name
        callsign := trimText dev.callsign
        id := dev.dmrID
        rxFreq := dev.rxFreq
        txFreq := dev.txFreq
        txPower := dev.txPower
        colorCode := dev.colorCode
        latitude := dev.latitude
        longitude := dev.longitude
        height := dev.height
        location := trimText dev.location
        description := trimText dev.description
        url := trimText dev.url
        slots := orElse 0 dev.slots 3
        masterServer := orElse "" (trimText extra.masterServer) (masterServerFromDevice dev)
        password := dev.devicePassword
        tgRewrites := extra.tgRewrites
        pcRewrites := extra.pcRewrites
        typeRewrites := extra.typeRewrites
        srcRewrites := extra.srcRewrites
        passAllPC := extra.passAllPC
        passAllTG := extra.passAllTG }

def configToDevice (codec : ExtraCodec) (cfg : MMDVM) : Except String Device :=
  (marshalManagedExtra codec
      { masterServer := trimText cfg.masterServer
        tgRewrites := cfg.tgRewrites
        pcRewrites := cfg.pcRewrites
        typeRewrites := cfg.typeRewrites
        srcRewrites := cfg.srcRewrites
        passAllPC := cfg.passAllPC
        passAllTG := cfg.passAllTG }).map fun extraJSON =>
    { category := .mmdvm
      protocol := "mmdvm-upstream"
      sourceKey := sourceKeyOf cfg
      name := trimText cfg.name
      callsign := trimText cfg.callsign
      dmrID := cfg.id
      model := "MMDVM Master"
      ip := (splitMasterServer cfg.masterServer).1
      port := (splitMasterServer cfg.masterServer).2
      status := "configured"
      online := false
      rxFreq := cfg.rxFreq
      txFreq := cfg.txFreq
      txPower := cfg.txPower
      colorCode := cfg.colorCode
      latitude := cfg.latitude
      longitude := cfg.longitude
      height := cfg.height
      location := trimText cfg.location
      description := trimText cfg.description
      url := trimText cfg.url
      slots := orElse 0 cfg.slots 3
      devicePassword := cfg.password
      extraJSON }

def validateSlot (slot : UInt64) : Bool := slot == 1 || slot == 2

def rewriteError (r : Mapping) : Option String :=
  if !validateSlot r.fromSlot || !validateSlot r.toSlot then some "invalid rewrite slot (must be 1 or 2)"
  else if r.range < 1 then some "invalid rewrite range (must be >= 1)"
  else none

def validateRewrites (cfg : MMDVM) : Option String :=
  (cfg.tgRewrites ++ cfg.pcRewrites ++ cfg.typeRewrites ++ cfg.srcRewrites).findSome? rewriteError

def networkError (names : List String) (cfg : MMDVM) : Option String :=
  if cfg.name = "" then some "invalid MMDVM network name provided"
  else if cfg.name ∈ names then some "duplicate MMDVM network name provided"
  else if cfg.callsign = "" then some "invalid MMDVM callsign provided"
  else if cfg.colorCode > 15 then some "invalid MMDVM color code provided"
  else if cfg.longitude < -180 ∨ cfg.longitude > 180 then some "invalid MMDVM longitude provided"
  else if cfg.latitude < -90 ∨ cfg.latitude > 90 then some "invalid MMDVM latitude provided"
  else if cfg.masterServer = "" then some "invalid MMDVM master server provided"
  else if cfg.password = "" then some "invalid MMDVM password provided"
  else validateRewrites cfg

variable {cfg : MMDVM} {names : List String} {networks : List MMDVM}

theorem required_of_networkError (valid : networkError names cfg = none) :
    cfg.name ≠ "" ∧ cfg.callsign ≠ "" ∧ cfg.colorCode ≤ 15 ∧ cfg.masterServer ≠ "" ∧ cfg.password ≠ "" := by
  simp only [networkError] at valid
  split_ifs at valid with name known callsign colorCode longitude latitude masterServer password
  exact ⟨name, callsign, UInt8.not_lt.mp colorCode, masterServer, password⟩

def validateMMDVMNetworks (names : List String) : List MMDVM → Option String
  | [] => none
  | cfg :: networks => (networkError names cfg).or (validateMMDVMNetworks (cfg.name :: names) networks)

def validateMMDVMClients (networks : List MMDVM) : Option String := validateMMDVMNetworks [] networks

theorem networkError_of_accepted (accepted : validateMMDVMNetworks names networks = none) (member : cfg ∈ networks) :
    ∃ names, networkError names cfg = none := by
  induction networks generalizing names with
  | nil => cases member
  | cons network networks ih =>
    obtain ⟨first, rest⟩ := Option.or_eq_none_iff.mp accepted
    rcases List.mem_cons.mp member with rfl | later
    · exact ⟨names, first⟩
    · exact ih rest later

theorem required_of_accepted (accepted : validateMMDVMClients networks = none) (member : cfg ∈ networks) :
    cfg.name ≠ "" ∧ cfg.callsign ≠ "" ∧ cfg.colorCode ≤ 15 ∧ cfg.masterServer ≠ "" ∧ cfg.password ≠ "" := by
  obtain ⟨names, valid⟩ := networkError_of_accepted accepted member
  exact required_of_networkError valid

structure UpstreamPayload where
  rxFreq : Option UInt64 := none
  txFreq : Option UInt64 := none
  txPower : Option UInt8 := none
  colorCode : Option UInt8 := none
  latitude : Option Rat := none
  longitude : Option Rat := none
  height : Option UInt16 := none
  url : Option String := none
  slots : Option UInt8 := none
  masterServer : Option String := none
  tgRewrites : Option (List Mapping) := none
  pcRewrites : Option (List Mapping) := none
  typeRewrites : Option (List Mapping) := none
  srcRewrites : Option (List Mapping) := none
  passAllPC : Option (List Int) := none
  passAllTG : Option (List Int) := none

def buildManagedMMDVMConfig (codec : ExtraCodec) (current : Device) (payload : DeviceUpdatePayload)
    (upstream : UpstreamPayload) : Except String MMDVM :=
  (deviceToConfig codec current).map fun cfg =>
    { cfg with
      name := (payload.name.map trimText).getD cfg.name
      callsign := (payload.callsign.map trimText).getD cfg.callsign
      id := payload.dmrID.getD cfg.id
      description := (payload.description.map trimText).getD cfg.description
      location := (payload.location.map trimText).getD cfg.location
      password := payload.devicePassword.getD cfg.password
      rxFreq := upstream.rxFreq.getD cfg.rxFreq
      txFreq := upstream.txFreq.getD cfg.txFreq
      txPower := upstream.txPower.getD cfg.txPower
      colorCode := upstream.colorCode.getD cfg.colorCode
      latitude := upstream.latitude.getD cfg.latitude
      longitude := upstream.longitude.getD cfg.longitude
      height := upstream.height.getD cfg.height
      url := (upstream.url.map trimText).getD cfg.url
      slots := orElse 0 (upstream.slots.getD cfg.slots) 3
      masterServer := (upstream.masterServer.map trimText).getD cfg.masterServer
      tgRewrites := upstream.tgRewrites.getD cfg.tgRewrites
      pcRewrites := upstream.pcRewrites.getD cfg.pcRewrites
      typeRewrites := upstream.typeRewrites.getD cfg.typeRewrites
      srcRewrites := upstream.srcRewrites.getD cfg.srcRewrites
      passAllPC := upstream.passAllPC.getD cfg.passAllPC
      passAllTG := upstream.passAllTG.getD cfg.passAllTG }

def managedUpdate (codec : ExtraCodec) (device : Device) (payload : DeviceUpdatePayload) (upstream : UpstreamPayload) :
    Except (Nat × String) Device :=
  match buildManagedMMDVMConfig codec device payload upstream with
  | .error text => .error (400, text)
  | .ok cfg =>
    match validateMMDVMClients [cfg] with
    | some text => .error (400, text)
    | none =>
      match configToDevice codec cfg with
      | .error text => .error (500, text)
      | .ok dev => .ok dev

def System.handleDevicePatch (codec : ExtraCodec) (lookup : UInt32 → String) (req : Request) (sys : System) (id : Nat)
    (body : Option (DeviceUpdatePayload × UpstreamPayload)) : System × Response :=
  let managed := match sys.service.store.deviceByID id, body with
    | some dev, some (payload, upstream) => managedUpdate codec (enrichDevice lookup dev) payload upstream
    | _, _ => req.managed
  sys.handleDeviceUpdate lookup { req with managed } id (body.map Prod.fst)

end Ipsc2Mmdvm.Web
