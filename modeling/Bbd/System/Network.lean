import Bbd.Client.Actuation
import Bbd.System.Delivery
import Bbd.System.Ownership
import Mathlib.Logic.Function.Basic

/-!
# Many devices and one receiver

The receiver serves whoever connects, one connection after the other: devices that run the fetches
of the daemon, and anybody else with bytes of their own.  A `Network` is the database and the state
of every device; what a device sees of a run of the network is a run of the system of that device
alone (`view_run`), so whatever holds of every run of one device and the receiver holds here, in any
interleaving.

* As long as no reply is cut short on its way or longer than its buffers, whoever connects, no two
  devices ever command the same valve, and a valve opens only at a minute of a stored schedule of it
  (`valves_commanded_by_owner`, `open_valves_accounted_for`).
* Bytes that do not carry the id of a device keep it from missing a schedule as little as the other
  devices do (`no_device_misses`).
-/

namespace Bbd

open Server Client Runs

/-- The database of the receiver and the state of every device. -/
@[ext]
structure Network where
  db : Db
  client : UInt8 → Device

/-- The hosts: the receiver's, and that of the device with each `DEVICE_ID`. -/
structure Hosts where
  server : Endian
  client : UInt8 → Endian

/-- The hosts of the receiver and of the device `d`. -/
def Hosts.setup (h : Hosts) (d : UInt8) : Setup := ⟨h.server, h.client d, d⟩

/-- What happens to the network: a call of the web site, a connection with any bytes, an exchange of
a device, and a pass of its scheduler. -/
inductive NetworkEvent where
  | web (call : WebCall)
  | connection (heap : ℕ → UInt8) (env : Env) (newsockfd : Inbound)
  | exchange (deviceId : UInt8) (msgType : RequestType) (x : Exchange)
  | pass (deviceId : UInt8) (currMins : UInt16)

namespace Network

variable (h : Hosts)

/-- The receiver and the device `d`. -/
def view (n : Network) (d : UInt8) : System := ⟨n.db, n.client d⟩

/-- The state after an event. -/
def step (n : Network) : NetworkEvent → Network
  | .web call => { n with db := call.apply n.db }
  | .connection heap env newsockfd =>
    { n with db := (runServer h.server heap env newsockfd n.db).db }
  | .exchange d msgType x =>
    let sys := ((n.view d).exchange (h.setup d) x msgType).2
    ⟨sys.db, Function.update n.client d sys.client⟩
  | .pass d m => { n with client := Function.update n.client d ((n.client d).pass m) }

end Network

namespace NetworkEvent

variable (h : Hosts) (d : UInt8)

/-- The request that the receiver decodes from a connection. -/
def requested (heap : ℕ → UInt8) (newsockfd : Inbound) : Option (UInt8 × RequestType) :=
  (recvSocketHeader h.server heap newsockfd).bind fun header =>
    header.request.map fun type => (header.deviceId, type)

/-- What the device `d` sees of an event. -/
def seenBy : NetworkEvent → Option SystemEvent
  | .web call => some (.web call)
  | .connection heap env newsockfd =>
    (requested h heap newsockfd).map fun request => .other request.1 request.2 env
  | .exchange e type x =>
    if e = d then some (.exchange type x)
    else if x.connects then some (.other e type x.env) else none
  | .pass e m => if e = d then some (.pass m) else none

variable {h d}

theorem eq_pass_of_seenBy {e : NetworkEvent} {m : UInt16} (he : e.seenBy h d = some (.pass m)) :
    e = .pass d m := by
  cases e with
  | web call => cases he
  | connection heap env newsockfd =>
    rw [seenBy, Option.map_eq_some_iff] at he
    obtain ⟨_, -, hother⟩ := he
    cases hother
  | exchange e type x =>
    simp only [seenBy] at he
    split_ifs at he <;> cases he
  | pass e m =>
    simp only [seenBy] at he
    split_ifs at he with hd
    cases he
    rw [hd]

end NetworkEvent

namespace Network

variable {h : Hosts} {n : Network} {d : UInt8}

theorem db_runServer (server : Endian) (heap : ℕ → UInt8) (env : Env) (newsockfd : Inbound)
    (db : Db) :
    (runServer server heap env newsockfd db).db =
      match (recvSocketHeader server heap newsockfd).bind fun header =>
        header.request.map fun type => (header.deviceId, type) with
      | none => db
      | some request => (serveRequest server env request.1 db request.2).db := by
  rw [runServer_eq]
  cases recvSocketHeader server heap newsockfd with
  | none => rfl
  | some header =>
    simp only [serveHeader_eq, Option.bind_some]
    cases header.request <;> rfl

/-- A step of the network is for each device at most one step of its own system. -/
theorem view_step (e : NetworkEvent) :
    (n.step h e).view d =
      run (System.step (h.setup d)) (n.view d) (e.seenBy h d).toList := by
  cases e with
  | web call => rfl
  | connection heap env newsockfd =>
    simp only [step, view, db_runServer, NetworkEvent.seenBy, NetworkEvent.requested]
    cases (recvSocketHeader h.server heap newsockfd).bind fun header =>
      header.request.map fun type => (header.deviceId, type) <;> rfl
  | pass e m =>
    by_cases he : e = d
    · subst he
      simp [step, view, NetworkEvent.seenBy, System.step]
    · simp [step, view, NetworkEvent.seenBy, he, Function.update_of_ne (Ne.symm he)]
  | exchange e type x =>
    by_cases he : e = d
    · subst he
      simp [step, view, NetworkEvent.seenBy, System.step]
    · simp only [step, view, NetworkEvent.seenBy, if_neg he,
        Function.update_of_ne (Ne.symm he), System.exchange_db]
      by_cases hconnects : x.connects = true
      · simp [hconnects, System.step, Hosts.setup]
      · simp [hconnects]

/-- What a device sees of a run of the network is a run of its own system. -/
theorem view_run (h : Hosts) (n : Network) (d : UInt8) (es : List NetworkEvent) :
    (run (step h) n es).view d =
      run (System.step (h.setup d)) (n.view d) (es.filterMap (NetworkEvent.seenBy h d)) :=
  run_filterMap (fun n : Network => n.view d) (NetworkEvent.seenBy h d)
    (fun _ e => view_step e) es

/-- What the devices hold is their own. -/
def Rooted (h : Hosts) (n : Network) : Prop := ∀ d, (n.view d).Rooted (h.setup d)

end Network

/-- No reply of the event arrives in part, or is longer than its buffers. -/
def NetworkEvent.Whole (h : Hosts) (n : Network) : NetworkEvent → Prop
  | .web _ | .pass _ _ => True
  | .connection heap _ newsockfd =>
    ∀ request ∈ requested h heap newsockfd, n.db.FitsBuffers request.1
  | .exchange deviceId _ x => x.lost = 0 ∧ n.db.FitsBuffers deviceId

namespace Network

variable {h : Hosts} {n : Network} {d : UInt8}

theorem whole_of_seenBy {e : NetworkEvent} (he : e.Whole h n) {e' : SystemEvent}
    (hseen : e.seenBy h d = some e') : e'.Whole (h.setup d) (n.view d) := by
  cases e with
  | web call =>
    cases hseen
    trivial
  | connection heap env newsockfd =>
    rw [NetworkEvent.seenBy, Option.map_eq_some_iff] at hseen
    obtain ⟨request, -, rfl⟩ := hseen
    trivial
  | exchange e type x =>
    simp only [NetworkEvent.seenBy] at hseen
    split_ifs at hseen with hd <;> cases hseen
    · subst hd
      exact he
    · trivial
  | pass e m =>
    simp only [NetworkEvent.seenBy] at hseen
    split_ifs at hseen
    cases hseen
    trivial

variable {es : List NetworkEvent}

theorem whole_seenBy (hes : Along (step h) (fun n e => e.Whole h n) n es) (d : UInt8) :
    Along (System.step (h.setup d)) (fun sys e => e.Whole (h.setup d) sys) (n.view d)
      (es.filterMap (NetworkEvent.seenBy h d)) :=
  hes.filterMap (fun n : Network => n.view d) (NetworkEvent.seenBy h d)
    (fun _ e => view_step e) fun _ _ he _ hseen => whole_of_seenBy he hseen

theorem Rooted.run (hn : n.Rooted h) (hes : Along (step h) (fun n e => e.Whole h n) n es) :
    (run (step h) n es).Rooted h := by
  intro d
  rw [view_run]
  exact (hn d).run (whole_seenBy hes d)

end Network

/-! ## Safety -/

/-- Devices 1 and 2 of the garden, which hold nothing yet. -/
def Network.garden : Network := ⟨Db.garden, fun _ => ⟨[], .unset⟩⟩

theorem Network.rooted_garden (h : Hosts) : Network.garden.Rooted h :=
  fun d => System.rooted_of_unset (h.setup d) Db.garden

/-- Both devices fetch, and their passes fall into the schedules of their valves. -/
def NetworkEvent.watering : List NetworkEvent :=
  [.web (.create 1 none 5 7 0), .web (.create 2 none 6 9 0),
    .exchange 1 .getDeviceValvesMsg .calm, .exchange 2 .getDeviceValvesMsg .calm,
    .exchange 1 .getActiveSchesMsg .calm,
    .connection (fun _ => 0) .calm ⟨[148, 129, 2, 3, 0, 0], false⟩,
    .exchange 2 .getActiveSchesMsg .calm, .pass 1 6, .pass 2 6]

theorem NetworkEvent.whole_watering :
    Along (Network.step ⟨.little, fun _ => .big⟩)
      (fun n e => e.Whole ⟨.little, fun _ => .big⟩ n) Network.garden watering := by
  have hstranger : ∀ request ∈ requested ⟨.little, fun _ => .big⟩ (fun _ => 0)
      ⟨[148, 129, 2, 3, 0, 0], false⟩, request.1 = 2 := by decide
  refine ⟨trivial, trivial, ⟨rfl, by decide⟩, ⟨rfl, by decide⟩, ⟨rfl, by decide⟩,
    fun request hrequest => ?_, ⟨rfl, by decide⟩, trivial, trivial, trivial⟩
  rw [hstranger request hrequest]
  decide

/-- In every run of the network in which no reply is cut short or too long, from devices that hold
only their own and have every valve closed: a valve that is open belongs to its device, and one of
the passes that the device has made was at a minute within the interval of a stored schedule of that
valve. -/
theorem open_valves_accounted_for (h : Hosts) (n : Network) (hn : n.Rooted h)
    (hclosed : ∀ d, ∀ v ∈ (n.client d).valvesMap, v.vState = .closed) (es : List NetworkEvent)
    (hes : Along (Network.step h) (fun n e => e.Whole h n) n es) (d : UInt8) :
    ∀ v ∈ ((run (Network.step h) n es).client d).valvesMap, v.vState = .opened →
      ∃ m, .pass d m ∈ es ∧ ∃ r ∈ (run (Network.step h) n es).db.schedule.rows,
        (run (Network.step h) n es).db.owns d.toNat r ∧ r.valveIDf = v.vId.toNat ∧
          r.startTime ≤ m.toNat ∧ (m.toNat : ℤ) ≤ r.stopTime := by
  intro v hv hopen
  have hview := Network.view_run h n d es
  have hmem : v ∈ ((run (Network.step h) n es).view d).client.valvesMap := hv
  rw [hview] at hmem
  obtain ⟨m, hm, hrow⟩ := (hn d).accounted_run (hclosed d) (Network.whole_seenBy hes d) v hmem hopen
  rw [← hview] at hrow
  refine ⟨m, ?_, hrow⟩
  obtain ⟨e', he', hminute⟩ := List.mem_filterMap.1 hm
  obtain ⟨e, he, hseen⟩ := List.mem_filterMap.1 he'
  cases e' <;> simp only [SystemEvent.passMinute, reduceCtorEq, Option.some_inj] at hminute
  subst hminute
  rwa [NetworkEvent.eq_pass_of_seenBy hseen] at he

/-- Device 2 has its valve open. -/
theorem open_valves_accounted_for_garden :
    ∃ m, .pass 2 m ∈ NetworkEvent.watering ∧
      ∃ r ∈ (run (Network.step ⟨.little, fun _ => .big⟩) Network.garden
        NetworkEvent.watering).db.schedule.rows,
        (run (Network.step ⟨.little, fun _ => .big⟩) Network.garden
          NetworkEvent.watering).db.owns 2 r ∧ r.valveIDf = 2 ∧
          r.startTime ≤ m.toNat ∧ (m.toNat : ℤ) ≤ r.stopTime :=
  open_valves_accounted_for ⟨.little, fun _ => .big⟩ Network.garden (Network.rooted_garden _)
    (fun _ _ hv => (List.not_mem_nil hv).elim) NetworkEvent.watering NetworkEvent.whole_watering 2
    ⟨2, .opened⟩ (by decide) rfl

/-! ## Delivery -/

/-- What a run admits for the device `d`: connections that do not carry its id, and for itself
replies that are delivered in full and no more active schedules than its table has room for. -/
def NetworkEvent.Admitted (h : Hosts) (d : UInt8) (n : Network) : NetworkEvent → Prop
  | .connection heap _ newsockfd => ∀ request ∈ requested h heap newsockfd, request.1 ≠ d
  | .exchange e _ x => e = d → x.Delivers ∧
    (rcvGetActiveSchedules d.toNat n.db).length ≤ 6553
  | .web _ | .pass _ _ => True

namespace Network

variable {h : Hosts} {n : Network} {d : UInt8}

theorem admitted_of_seenBy {e : NetworkEvent} (he : e.Admitted h d n) {e' : SystemEvent}
    (hseen : e.seenBy h d = some e') : e'.Admitted (h.setup d) (n.view d) := by
  cases e with
  | web call =>
    cases hseen
    trivial
  | connection heap env newsockfd =>
    rw [NetworkEvent.seenBy, Option.map_eq_some_iff] at hseen
    obtain ⟨request, hrequest, rfl⟩ := hseen
    exact he request hrequest
  | exchange e type x =>
    simp only [NetworkEvent.seenBy] at hseen
    split_ifs at hseen with hd <;> cases hseen
    · exact he hd
    · exact hd
  | pass e m =>
    simp only [NetworkEvent.seenBy] at hseen
    split_ifs at hseen
    cases hseen
    trivial

theorem sound_step {e : NetworkEvent} (hs : ((n.view d).board (h.setup d)).Sound)
    (he : e.Admitted h d n) : (((n.step h e).view d).board (h.setup d)).Sound := by
  rw [view_step]
  cases hseen : e.seenBy h d with
  | none => exact hs
  | some e' => exact Bbd.sound_step hs (admitted_of_seenBy he hseen)

theorem view_step_exchange (type : RequestType) (x : Exchange) :
    (n.step h (.exchange d type x)).view d = ((n.view d).exchange (h.setup d) x type).2 := by
  simp [step, view]

end Network

/-- No device misses a schedule, whatever the other devices do and whoever else connects under
another id: from its first completed `GET_ACTIVE_SCHES_MSG` on, each completed exchange for
schedules leaves a device with every schedule of its own that was active when the receiver read the
database. -/
theorem no_device_misses (h : Hosts) (n : Network) (d : UInt8) (es : List NetworkEvent)
    (hes : Along (Network.step h) (fun n e => e.Admitted h d n) n es) :
    ∀ pre x₀ mid type x post,
      es = pre ++ .exchange d .getActiveSchesMsg x₀ :: (mid ++ .exchange d type x :: post) →
      ∀ n₀ n₁, n₀ = run (Network.step h) n pre →
        n₁ = run (Network.step h) (n₀.step h (.exchange d .getActiveSchesMsg x₀)) mid →
        ((n₀.view d).exchange (h.setup d) x₀ .getActiveSchesMsg).1 = 0 →
        type.listsSchedules → ((n₁.view d).exchange (h.setup d) x type).1 = 0 →
          ∀ r ∈ n₁.db.schedule.rows, n₁.db.owns d.toNat r → r.active = true →
            ∃ s ∈ ((n₁.step h (.exchange d type x)).client d).table, s.item = r.item := by
  rintro pre x₀ mid type x post rfl n₀ n₁ rfl rfl hfirst htype hrc r hr ho ha
  obtain ⟨-, hadm₀, htail⟩ := (along_append _ _).1 hes
  obtain ⟨hmid, hadm, -⟩ := (along_append _ _).1 htail
  -- The first exchange makes the board sound, and the events up to the last one keep it so.
  have hsound₀ := (exchange_sound rfl hfirst (hadm₀ rfl).1.2 (hadm₀ rfl).2 (Or.inl rfl)).2
  rw [← Network.view_step_exchange] at hsound₀
  have hsound := hmid.run_invariant
    (I := fun n : Network => ((n.view d).board (h.setup d)).Sound)
    (fun _ _ hs he => Network.sound_step hs he) hsound₀
  have hheld := (exchange_sound htype hrc (hadm rfl).1.2 (hadm rfl).2 (Or.inr hsound)).1
  rw [← Network.view_step_exchange] at hheld
  exact hheld ⟨r, hr, ho, ha, rfl⟩

/-- Device 1 polls, while device 2 is served and a stranger asks in the name of device 2. -/
theorem no_device_misses_garden :
    ∃ s ∈ ((run (Network.step ⟨.little, fun _ => .big⟩) Network.garden
        [.exchange 1 .getActiveSchesMsg .calm, .web (.create 1 none 5 7 0),
          .connection (fun _ => 0) .calm ⟨[148, 129, 2, 3, 0, 0], false⟩,
          .exchange 2 .getActiveSchesMsg .calm,
          .exchange 1 .checkNewSchedulesMsg .calm]).client 1).table,
      s.item = ⟨1, 1, 5, 7⟩ := by
  have hstranger : ∀ request ∈ NetworkEvent.requested ⟨.little, fun _ => .big⟩ (fun _ => 0)
      ⟨[148, 129, 2, 3, 0, 0], false⟩, request.1 ≠ 1 := by decide
  exact no_device_misses ⟨.little, fun _ => .big⟩ Network.garden 1
    [.exchange 1 .getActiveSchesMsg .calm, .web (.create 1 none 5 7 0),
      .connection (fun _ => 0) .calm ⟨[148, 129, 2, 3, 0, 0], false⟩,
      .exchange 2 .getActiveSchesMsg .calm, .exchange 1 .checkNewSchedulesMsg .calm]
    ⟨fun _ => ⟨by decide, by decide⟩, trivial, hstranger, fun h => absurd h (by decide),
      fun _ => ⟨by decide, by decide⟩, trivial⟩
    [] .calm [.web (.create 1 none 5 7 0),
      .connection (fun _ => 0) .calm ⟨[148, 129, 2, 3, 0, 0], false⟩,
      .exchange 2 .getActiveSchesMsg .calm] .checkNewSchedulesMsg .calm [] rfl _ _ rfl rfl
    (by decide) rfl (by decide) ⟨1, 1, none, 0, 5, 7, false, none, true, none⟩ (by decide)
    (by decide) rfl

end Bbd
