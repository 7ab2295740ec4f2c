import Ipsc2Mmdvm.Web.Public

namespace Ipsc2Mmdvm.Web

open Data Registry Routing Json Registry.Event List GoMap

/-! Two runs that differ in the passwords of devices alone send the same until a device is sent
whose passwords differ. -/

def withoutPassword (dev : Device) : Device := { dev with devicePassword := "" }

def eventWithoutPassword : Registry.Event → Registry.Event
  | .deviceUpdated dev => .deviceUpdated (withoutPassword dev)
  | .deviceDeleted dev => .deviceDeleted (withoutPassword dev)
  | .callRecorded call => .callRecorded call

def eventPassword : Registry.Event → Option String
  | .deviceUpdated dev => some dev.devicePassword
  | .deviceDeleted dev => some dev.devicePassword
  | .callRecorded _ => none

def Viewer.withoutPasswords (viewer : Viewer) : Viewer :=
  { viewer with events := viewer.events.map (List.map eventWithoutPassword) }

structure RegistryState.Alike (state state' : RegistryState) : Prop where
  devices : ∀ key, (state.devices.lookup key).map withoutPassword = (state'.devices.lookup key).map withoutPassword
  recent : state.recent = state'.recent
  callTotal : state.callTotal = state'.callTotal

inductive PublicAction.Alike : PublicAction → PublicAction → Prop where
  | registry {state state' : RegistryState} (alike : state.Alike state') : Alike (.registry state) (.registry state')
  | publish {event event' : Registry.Event} (same : eventWithoutPassword event = eventWithoutPassword event') :
      Alike (.publish event) (.publish event')
  | same (action : PublicAction) : Alike action action

structure PublicServer.Alike (s s' : PublicServer) : Prop where
  registry : s.registry.Alike s'.registry
  router : s.router = s'.router
  runtime : s.runtime = s'.runtime
  wsClients : s.wsClients = s'.wsClients
  audioTargets : s.audioTargets = s'.audioTargets
  viewers : s.viewers.map (Option.map Viewer.withoutPasswords) = s'.viewers.map (Option.map Viewer.withoutPasswords)

def RegistryState.SamePasswords (state state' : RegistryState) : Prop :=
  ∀ key, (state.devices.lookup key).map Device.devicePassword = (state'.devices.lookup key).map Device.devicePassword

def PublicServer.nextEvent (s : PublicServer) (i : Nat) : Option Registry.Event :=
  (s.viewer i).bind fun viewer => viewer.events.bind List.head?

/-- The passwords of the devices that the action sends are the same in both runs. -/
def PublicServer.PasswordsAgree (s s' : PublicServer) : PublicAction → Prop
  | .viewer (.get _ _) => s.registry.SamePasswords s'.registry
  | .viewer (.connect _ _) => s.registry.SamePasswords s'.registry
  | .viewer (.sendEvent i) => (s.nextEvent i).bind eventPassword = (s'.nextEvent i).bind eventPassword
  | _ => True

def PublicServer.AgreeThroughout (lookup : UInt32 → String) :
    PublicServer → PublicServer → List PublicAction → List PublicAction → Prop
  | s, s', action :: actions, action' :: actions' =>
    s.PasswordsAgree s' action ∧
      AgreeThroughout lookup (s.step lookup action).1 (s'.step lookup action').1 actions actions'
  | _, _, _, _ => True

section

variable {lookup : UInt32 → String} {dev dev' : Device} {event event' : Registry.Event}

theorem deviceJSON_devicePassword : (deviceJSON dev).member "devicePassword" = some (.text dev.devicePassword) := by
  simp [deviceJSON, member, lookup_cons]

theorem devicePassword_of_deviceJSON (same : deviceJSON dev = deviceJSON dev') :
    dev.devicePassword = dev'.devicePassword := by
  have sent := congrArg (member "devicePassword") same
  rw [deviceJSON_devicePassword, deviceJSON_devicePassword] at sent
  exact text.inj (Option.some.inj sent)

theorem eq_of_withoutPassword (alike : withoutPassword dev = withoutPassword dev')
    (password : dev.devicePassword = dev'.devicePassword) : dev = dev' :=
  calc dev = { withoutPassword dev with devicePassword := dev.devicePassword } := rfl
    _ = { withoutPassword dev' with devicePassword := dev'.devicePassword } := by rw [alike, password]
    _ = dev' := rfl

theorem devicePassword_enrichDevice : (enrichDevice lookup dev).devicePassword = dev.devicePassword := by
  simp only [enrichDevice]
  split <;> rfl

theorem deviceJSON_iff (alike : withoutPassword dev = withoutPassword dev') :
    deviceJSON (enrichDevice lookup dev) = deviceJSON (enrichDevice lookup dev') ↔
      dev.devicePassword = dev'.devicePassword := by
  constructor
  · intro same
    simpa only [devicePassword_enrichDevice] using devicePassword_of_deviceJSON same
  · intro password
    rw [eq_of_withoutPassword alike password]

theorem eventPassword_of_eventJSON (same : eventJSON event = eventJSON event') :
    eventPassword event = eventPassword event' := by
  cases event <;> cases event' <;> simp only [eventJSON, object.injEq, cons.injEq, Prod.mk.injEq,
    text.injEq, String.reduceEq, true_and, and_true, false_and, and_false] at same
  · simp only [eventPassword, devicePassword_of_deviceJSON same]
  · simp only [eventPassword, devicePassword_of_deviceJSON same]
  · rfl

theorem eventJSON_iff (alike : eventWithoutPassword event = eventWithoutPassword event') :
    eventJSON event = eventJSON event' ↔ eventPassword event = eventPassword event' := by
  refine ⟨eventPassword_of_eventJSON, fun password => ?_⟩
  cases event <;> cases event' <;> simp only [eventWithoutPassword, reduceCtorEq, deviceUpdated.injEq,
    deviceDeleted.injEq, callRecorded.injEq] at alike
  · rw [eq_of_withoutPassword alike (Option.some.inj password)]
  · rw [eq_of_withoutPassword alike (Option.some.inj password)]
  · rw [alike]

end

open PublicServer.Alike

section

variable {lookup : UInt32 → String} {state state' : RegistryState}

theorem found_iff {found found' : Option Device} (alike : found.map withoutPassword = found'.map withoutPassword) :
    found.isSome = found'.isSome := by
  simpa only [Option.isSome_map] using congrArg Option.isSome alike

theorem RegistryState.Alike.keys (alike : state.Alike state') : state.devices.keys = state'.devices.keys := by
  ext key
  rw [mem_keys_iff, mem_keys_iff, ← Option.isSome_iff_exists, ← Option.isSome_iff_exists, found_iff (alike.devices key)]

theorem devicesJSON_iff {find find' : String → Option Device}
    (alike : ∀ key, (find key).map withoutPassword = (find' key).map withoutPassword) (keys : List String) :
    ((keys.filterMap find).map (enrichDevice lookup)).map deviceJSON =
        ((keys.filterMap find').map (enrichDevice lookup)).map deviceJSON ↔
      ∀ key ∈ keys, (find key).map Device.devicePassword = (find' key).map Device.devicePassword := by
  induction keys with
  | nil => simp
  | cons key keys ih =>
    have here := alike key
    cases found : find key with
    | none =>
      cases found' : find' key with
      | none => simpa [found, found'] using ih
      | some dev' => simp [found, found'] at here
    | some dev =>
      cases found' : find' key with
      | none => simp [found, found'] at here
      | some dev' =>
        rw [found, found', Option.map_some, Option.map_some, Option.some.injEq] at here
        simp only [filterMap_cons_some found, filterMap_cons_some found', map_cons,
          cons.injEq, deviceJSON_iff here, ih, forall_mem_cons, found, found', Option.map_some,
          Option.some.injEq]

theorem snapshotDevices_iff (alike : state.Alike state') (order : Enumeration String) :
    (PublicServer.snapshotDevices lookup order state.devices).map deviceJSON =
        (PublicServer.snapshotDevices lookup order state'.devices).map deviceJSON ↔
      state.SamePasswords state' := by
  rw [PublicServer.snapshotDevices, PublicServer.snapshotDevices, ← alike.keys, devicesJSON_iff alike.devices]
  constructor
  · intro listed key
    by_cases present : key ∈ state.devices.keys
    · exact listed key (order.mem_order.mpr present)
    · have absent : state.devices.lookup key = none := by
        rw [mem_keys_iff, ← Option.isSome_iff_exists] at present
        simpa using present
      have absent' : state'.devices.lookup key = none := by
        have same := found_iff (alike.devices key)
        rw [absent] at same
        simpa using same.symm
      rw [absent, absent']
  · exact fun same key _ => same key

variable {s s' : PublicServer}

theorem PublicServer.Alike.runtimeSnapshot (alike : s.Alike s') : s.runtimeSnapshot = s'.runtimeSnapshot := by
  simp only [PublicServer.runtimeSnapshot, alike.runtime, alike.wsClients, alike.audioTargets]

theorem payloadJSON_iff (lookup : UInt32 → String) (alike : s.Alike s') (baseURL : String) (reading : Reading) :
    payloadJSON (s.publicSnapshotPayload lookup baseURL reading).2 =
        payloadJSON (s'.publicSnapshotPayload lookup baseURL reading).2 ↔
      s.registry.SamePasswords s'.registry := by
  simp only [payloadJSON, PublicServer.publicSnapshotPayload, alike.router, alike.runtimeSnapshot,
    alike.registry.recent, alike.registry.callTotal, object.injEq, cons.injEq, Prod.mk.injEq,
    array.injEq, true_and, and_true]
  exact snapshotDevices_iff alike.registry reading.devices

theorem PublicServer.Alike.publicSnapshotPayload (lookup : UInt32 → String) (alike : s.Alike s') (baseURL : String) (reading : Reading) :
    (s.publicSnapshotPayload lookup baseURL reading).1.Alike (s'.publicSnapshotPayload lookup baseURL reading).1 where
  registry := alike.registry
  router := by simp only [PublicServer.publicSnapshotPayload, alike.router]
  runtime := alike.runtime
  wsClients := alike.wsClients
  audioTargets := alike.audioTargets
  viewers := alike.viewers

theorem map_offer {α β : Type} (f : α → β) (capacity : Nat) (item : α) (channel : List α) :
    (offer capacity item channel).map f = offer capacity (f item) (channel.map f) := by
  simp only [offer, length_map]
  split
  · simp
  · rfl

theorem map_eachViewer {f : Viewer → Viewer} (g : Viewer → Viewer)
    (commutes : ∀ viewer : Viewer, (f viewer).withoutPasswords = g viewer.withoutPasswords) :
    (s.eachViewer f).viewers.map (Option.map Viewer.withoutPasswords) =
      (s.viewers.map (Option.map Viewer.withoutPasswords)).map (Option.map g) := by
  simp only [PublicServer.eachViewer, map_map]
  apply map_congr_left
  intro viewer _
  cases viewer with
  | none => rfl
  | some viewer => simp [commutes viewer]

theorem PublicServer.Alike.eachViewer (alike : s.Alike s') {f f' : Viewer → Viewer} (g : Viewer → Viewer)
    (commutes : ∀ viewer : Viewer, (f viewer).withoutPasswords = g viewer.withoutPasswords)
    (commutes' : ∀ viewer : Viewer, (f' viewer).withoutPasswords = g viewer.withoutPasswords) :
    (s.eachViewer f).Alike (s'.eachViewer f') :=
  { alike with viewers := by rw [map_eachViewer g commutes, map_eachViewer g commutes', alike.viewers] }

theorem withoutPasswords_offerEvent (viewer : Viewer) (event : Registry.Event) :
    (viewer.offerEvent event).withoutPasswords = viewer.withoutPasswords.offerEvent (eventWithoutPassword event) := by
  cases viewer with
  | mk events runtimes =>
    cases events with
    | none => rfl
    | some events => simp [Viewer.withoutPasswords, Viewer.offerEvent, map_offer]

section

variable (alike : s.Alike s')

include alike

theorem PublicServer.Alike.publish {event event' : Registry.Event}
    (same : eventWithoutPassword event = eventWithoutPassword event') : (s.publish event).Alike (s'.publish event') := by
  apply alike.eachViewer fun viewer => viewer.offerEvent (eventWithoutPassword event)
  · exact fun viewer => withoutPasswords_offerEvent viewer event
  · intro viewer
    rw [withoutPasswords_offerEvent, same]

theorem PublicServer.Alike.broadcastRuntime : s.broadcastRuntime.Alike s'.broadcastRuntime := by
  simp only [PublicServer.broadcastRuntime, alike.runtimeSnapshot]
  exact alike.eachViewer (fun viewer => viewer.offerRuntime s'.runtimeSnapshot) (fun _ => rfl) fun _ => rfl

theorem PublicServer.Alike.trackWSClient (delta : Int) : (s.trackWSClient delta).Alike (s'.trackWSClient delta) := by
  apply broadcastRuntime
  exact { alike with wsClients := by rw [alike.wsClients] }

theorem PublicServer.Alike.trackAudioTargets (delta : Int) :
    (s.trackAudioTargets delta).Alike (s'.trackAudioTargets delta) := by
  apply broadcastRuntime
  exact { alike with audioTargets := by rw [alike.audioTargets] }

theorem PublicServer.Alike.viewer (i : Nat) :
    (s.viewer i).map Viewer.withoutPasswords = (s'.viewer i).map Viewer.withoutPasswords := by
  have listed := congrArg (fun viewers => viewers[i]?.join) alike.viewers
  simpa only [getElem?_map, Option.join_map_eq_map_join, PublicServer.viewer] using listed

theorem PublicServer.Alike.setViewer (i : Nat) {viewer viewer' : Option Viewer}
    (same : viewer.map Viewer.withoutPasswords = viewer'.map Viewer.withoutPasswords) :
    (s.setViewer i viewer).Alike (s'.setViewer i viewer') :=
  { alike with
    viewers := by simp only [PublicServer.setViewer, map_set, alike.viewers, same] }

theorem PublicServer.Alike.viewer_cases (i : Nat) : (s.viewer i = none ∧ s'.viewer i = none) ∨
      ∃ events events' runtimes, s.viewer i = some ⟨events, runtimes⟩ ∧ s'.viewer i = some ⟨events', runtimes⟩ ∧
        events.map (map eventWithoutPassword) = events'.map (map eventWithoutPassword) := by
  have same := alike.viewer i
  cases here : s.viewer i with
  | none =>
    rw [here] at same
    exact .inl ⟨rfl, by simpa using same.symm⟩
  | some viewer =>
    cases there : s'.viewer i with
    | none => simp [here, there] at same
    | some viewer' =>
      rw [here, there, Option.map_some, Option.map_some, Option.some.injEq] at same
      obtain ⟨events, runtimes⟩ := viewer
      obtain ⟨events', runtimes'⟩ := viewer'
      have equal : runtimes = runtimes' := congrArg Viewer.runtimes same
      subst equal
      exact .inr ⟨events, events', runtimes, rfl, rfl, congrArg Viewer.events same⟩

end

theorem queues_cases {events events' : Option (List Registry.Event)}
    (same : events.map (map eventWithoutPassword) = events'.map (map eventWithoutPassword)) :
    (events = none ∧ events' = none) ∨ (events = some [] ∧ events' = some []) ∨
      ∃ event event' rest rest', events = some (event :: rest) ∧ events' = some (event' :: rest') ∧
        eventWithoutPassword event = eventWithoutPassword event' ∧
        rest.map eventWithoutPassword = rest'.map eventWithoutPassword := by
  cases events with
  | none => exact .inl ⟨rfl, by simpa using same.symm⟩
  | some queue =>
    cases events' with
    | none => cases same
    | some queue' =>
      have same := Option.some.inj same
      cases queue with
      | nil => exact .inr (.inl ⟨rfl, by simpa using same.symm⟩)
      | cons event rest =>
        cases queue' with
        | nil => cases same
        | cons event' rest' =>
          rw [map_cons, map_cons, cons.injEq] at same
          exact .inr (.inr ⟨event, event', rest, rest', rfl, rfl, same.1, same.2⟩)

structure StepsAlike (result result' : PublicServer × List Sent) (agree : Prop) : Prop where
  server : result.1.Alike result'.1
  length : result.2.length = result'.2.length
  sent : result.2 = result'.2 ↔ agree

section

variable (alike : s.Alike s')

include alike

theorem stepsAlike_silent : StepsAlike (s, []) (s', []) True where
  server := alike
  length := rfl
  sent := by simp

theorem stepsAlike_set (i : Nat) {viewer viewer' : Option Viewer}
    (same : viewer.map Viewer.withoutPasswords = viewer'.map Viewer.withoutPasswords) (sent : List Sent) :
    StepsAlike (s.setViewer i viewer, sent) (s'.setViewer i viewer', sent) True where
  server := alike.setViewer i same
  length := rfl
  sent := by simp

theorem connect_alike (baseURL : String) (reading : Reading) :
    StepsAlike (s.view lookup (.connect baseURL reading)) (s'.view lookup (.connect baseURL reading))
      (s.registry.SamePasswords s'.registry) := by
  have counted := (alike.trackWSClient 1).publicSnapshotPayload lookup baseURL reading
  have sameCount := congrArg length counted.viewers
  rw [length_map, length_map] at sameCount
  have viewers : ∀ viewer : Option Viewer,
      ((s.trackWSClient 1).viewers ++ [viewer]).map (Option.map Viewer.withoutPasswords) =
        ((s'.trackWSClient 1).viewers ++ [viewer]).map (Option.map Viewer.withoutPasswords) := by
    intro viewer
    rw [map_append, map_append, (alike.trackWSClient 1).viewers]
  exact
    { server := { counted with viewers := viewers _ }
      length := rfl
      sent := by
        have shown : _ ↔ s.registry.SamePasswords s'.registry :=
          payloadJSON_iff lookup (alike.trackWSClient 1) baseURL reading
        rw [← shown]
        simp [PublicServer.view, sameCount] }

theorem sendEvent_alike (i : Nat) : StepsAlike (s.view lookup (.sendEvent i)) (s'.view lookup (.sendEvent i))
      (s.PasswordsAgree s' (.viewer (.sendEvent i))) := by
  simp only [PublicServer.view, PublicServer.PasswordsAgree, PublicServer.nextEvent]
  rcases alike.viewer_cases i with ⟨here, there⟩ | ⟨events, events', runtimes, here, there, same⟩
  · simpa [here, there] using stepsAlike_silent alike
  · rcases queues_cases same with ⟨rfl, rfl⟩ | ⟨rfl, rfl⟩ | ⟨event, event', rest, rest', rfl, rfl, first, others⟩
    · simpa [here, there] using stepsAlike_silent alike
    · simpa [here, there] using stepsAlike_silent alike
    · simp only [here, there]
      exact
        { server := alike.setViewer i (by simp [Viewer.withoutPasswords, others])
          length := rfl
          sent := by simpa using eventJSON_iff first }

theorem view_alike (action : ViewerAction) :
    StepsAlike (s.view lookup action) (s'.view lookup action) (s.PasswordsAgree s' (.viewer action)) := by
  cases action with
  | get baseURL reading =>
    exact
      { server := alike.publicSnapshotPayload lookup baseURL reading
        length := rfl
        sent := by simpa [PublicServer.view, PublicServer.PasswordsAgree] using payloadJSON_iff lookup alike baseURL reading }
  | connect baseURL reading => exact connect_alike alike baseURL reading
  | sendEvent i => exact sendEvent_alike alike i
  | subscribe i =>
    rcases alike.viewer_cases i with ⟨here, there⟩ | ⟨events, events', runtimes, here, there, same⟩
    all_goals simp only [PublicServer.view, here, there]
    · exact stepsAlike_silent alike
    · exact stepsAlike_set alike i rfl []
  | subscribeRuntime i =>
    rcases alike.viewer_cases i with ⟨here, there⟩ | ⟨events, events', runtimes, here, there, same⟩
    all_goals simp only [PublicServer.view, here, there]
    · exact stepsAlike_silent alike
    · exact stepsAlike_set alike i (by simp [Viewer.withoutPasswords, same]) []
  | sendRuntime i =>
    rcases alike.viewer_cases i with ⟨here, there⟩ | ⟨events, events', runtimes, here, there, same⟩
    · simp only [PublicServer.view, here, there]
      exact stepsAlike_silent alike
    · rcases runtimes with _ | _ | ⟨runtime, rest⟩
      all_goals simp only [PublicServer.view, here, there]
      · exact stepsAlike_silent alike
      · exact stepsAlike_silent alike
      · exact stepsAlike_set alike i (by simp [Viewer.withoutPasswords, same]) _
  | sendAudio i frame =>
    rcases alike.viewer_cases i with ⟨here, there⟩ | ⟨events, events', runtimes, here, there, same⟩
    all_goals simp only [PublicServer.view, here, there]
    · exact stepsAlike_silent alike
    · exact ⟨alike, rfl, by simp [PublicServer.PasswordsAgree]⟩
  | close i =>
    rcases alike.viewer_cases i with ⟨here, there⟩ | ⟨events, events', runtimes, here, there, same⟩
    all_goals simp only [PublicServer.view, here, there]
    · exact stepsAlike_silent alike
    · exact stepsAlike_silent ((alike.setViewer i rfl).trackWSClient (-1))

end

theorem step_alike (lookup : UInt32 → String) (alike : s.Alike s') {action action' : PublicAction} (actions : action.Alike action') :
    StepsAlike (s.step lookup action) (s'.step lookup action') (s.PasswordsAgree s' action) := by
  cases actions with
  | registry states => exact stepsAlike_silent { alike with registry := states }
  | publish same => exact stepsAlike_silent (alike.publish same)
  | same action =>
    cases action with
    | registry state => exact stepsAlike_silent { alike with registry := ⟨fun _ => rfl, rfl, rfl⟩ }
    | router router => exact stepsAlike_silent { alike with router := rfl }
    | publish event => exact stepsAlike_silent (alike.publish rfl)
    | trackWSClient delta => exact stepsAlike_silent (alike.trackWSClient delta)
    | trackAudioTargets delta => exact stepsAlike_silent (alike.trackAudioTargets delta)
    | viewer action => exact view_alike alike action

end

/-- Two runs that differ in device passwords alone send the same exactly when they send
no device whose passwords differ. -/
theorem same_sent_iff_passwords_agree (lookup : UInt32 → String) (s s' : PublicServer)
    (actions actions' : List PublicAction) (servers : s.Alike s')
    (histories : List.Forall₂ PublicAction.Alike actions actions') :
    s.transcript lookup actions = s'.transcript lookup actions' ↔
      PublicServer.AgreeThroughout lookup s s' actions actions' := by
  induction histories generalizing s s' with
  | nil => exact iff_of_true rfl trivial
  | @cons action action' actions actions' first rest ih =>
    have stepped := step_alike lookup servers first
    simp only [PublicServer.transcript, PublicServer.AgreeThroughout]
    rw [← stepped.sent, ← ih _ _ stepped.server]
    constructor
    · exact fun same => List.append_inj same stepped.length
    · exact fun ⟨now, later⟩ => by rw [now, later]

def sampleDevice (password : String) : Device :=
  { category := .mmdvm, protocol := "mmdvm", sourceKey := "mmdvm:1", devicePassword := password }

def sampleServer (password : String) : PublicServer where
  registry := { devices := (∅ : GoMap String Device).insert "mmdvm:1" (sampleDevice password) }
  router := .new 0
  runtime := {}

def sampleReading : Reading where
  now := 1
  devices := .increasing String
  routes := .increasing

theorem sampleServer_registry_alike (password password' : String) :
    (sampleServer password).registry.Alike (sampleServer password').registry where
  devices key := by
    simp only [sampleServer, lookup_insert_eq]
    split <;> rfl
  recent := rfl
  callTotal := rfl

theorem sampleServer_alike (password password' : String) : (sampleServer password).Alike (sampleServer password') where
  registry := sampleServer_registry_alike password password'
  router := rfl
  runtime := rfl
  wsClients := rfl
  audioTargets := rfl
  viewers := rfl

theorem same_sent_once_passwords_agree : (sampleServer "secret").transcript (fun _ => "")
        [.viewer (.sendEvent 0), .registry (sampleServer "new").registry, .viewer (.connect "http://localhost" sampleReading)] =
      (sampleServer "other").transcript (fun _ => "")
        [.viewer (.sendEvent 0), .registry (sampleServer "new").registry, .viewer (.connect "http://localhost" sampleReading)] :=
  (same_sent_iff_passwords_agree _ _ _ _ _ (sampleServer_alike "secret" "other")
    (.cons (.same _) (.cons (.same _) (.cons (.same _) .nil)))).mpr ⟨rfl, trivial, fun _ => rfl, trivial⟩

/-- The snapshot that anybody may get has the passwords in it. -/
theorem snapshot_reveals_password : (sampleServer "secret").registry.Alike (sampleServer "other").registry ∧
      (sampleServer "secret").transcript (fun _ => "") [.viewer (.get "" sampleReading)] ≠
        (sampleServer "other").transcript (fun _ => "") [.viewer (.get "" sampleReading)] := by
  refine ⟨sampleServer_registry_alike _ _, fun same => ?_⟩
  have sent := (view_alike (sampleServer_alike "secret" "other") (.get "" sampleReading)).sent.mp
    (by simpa [PublicServer.transcript, PublicServer.step] using same)
  have passwords := sent "mmdvm:1"
  simp [sampleServer, sampleDevice] at passwords

end Ipsc2Mmdvm.Web
