import Bbd.Client.Actuation
import Bbd.System.Delivery
import Bbd.System.Ownership

/-!
# The start of the daemon, and what it waters from then on

`_start` of `device_client.c` fetches the valves, fetches the active schedules and creates the
scheduler thread; each step has an error code of its own (`start_code`).  `main` then waits for the
thread, which never ends, and makes no request any more.

* So, unless a reply was cut short, the table stays what the receiver held when it served `_start`:
  a schedule that is created later is not watered, one that is deactivated later is
  (`daemon_waters_boot_snapshot`).
* Every call of `vm_set_valve_state`, whose return value the scheduler ignores, finds its valve
  (`calls_find_valve`).
-/

namespace Bbd

open Server Client Runs

/-! ## Completed exchanges -/

/-- What arrives of a reply with a body of `size` bytes passes for a reply: a part of the body; or,
for a fetch of schedules, a length that reads 0, whole or with what the stack holds. -/
def Exchange.Passes (x : Exchange) (type : RequestType) (size : ℕ) : Prop :=
  x.connects = true ∧ x.env.sendFails = false ∧
    (x.lost < size ∨ type.listsSchedules = true ∧
      (x.lost = 0 ∧ size = 0 ∨ x.lost = size + 1 ∧ size < 256 ∧ x.stale.stack 1 = 0))

instance (x : Exchange) (type : RequestType) (size : ℕ) : Decidable (x.Passes type size) :=
  inferInstanceAs (Decidable (_ ∧ _))

namespace System

variable {p : Setup} {x : Exchange} {sys : System} {type : RequestType}

/-- An exchange completes exactly when what arrives of the reply passes for one. -/
theorem exchange_eq_zero_iff_of_reply {rspLen : UInt16} {body : List UInt8}
    (hreply : (serveRequest p.server x.env p.deviceId sys.db type).reply =
      some (prepToSend16 p.server rspLen ++ body)) (hbody : body.length = rspLen.toNat) :
    (sys.exchange p x type).1 = 0 ↔ x.Passes type rspLen.toNat := by
  have hnil : (sys.client.fetch p.client x.stale (some ⟨[], x.timesOut⟩) type).1 ≠ 0 :=
    fetch_nil_ne_zero x.timesOut
  have hlen : (prepToSend16 p.server rspLen ++ body).length = 2 + rspLen.toNat := by
    rw [List.length_append, length_prepToSend16, hbody]
  simp only [exchange, served_eq, Exchange.arriving, hreply, Exchange.Passes]
  by_cases hconnects : x.connects = true
  · cases hsend : x.env.sendFails with
    | true => simpa [hconnects] using hnil
    | false =>
      simp only [hconnects, if_true, Bool.false_eq_true, if_false, Option.getD_some, true_and, hlen]
      rw [fetch_take_eq_zero_iff p.server hbody (Nat.sub_le _ _), ← UInt16.toNat_inj]
      refine or_congr ?_ (and_congr_right fun _ => or_congr ?_ (and_congr_left fun _ => ?_))
      · omega
      · show _ ∧ _ = 0 ↔ _
        omega
      · omega
  · have hnone : (sys.client.fetch p.client x.stale none type).1 ≠ 0 := fetch_none_ne_zero
    simpa [hconnects] using hnone

theorem exchange_ne_zero_of_reply_eq_none
    (hreply : (serveRequest p.server x.env p.deviceId sys.db type).reply = none) :
    (sys.exchange p x type).1 ≠ 0 := by
  have hnil : (sys.client.fetch p.client x.stale (some ⟨[], x.timesOut⟩) type).1 ≠ 0 :=
    fetch_nil_ne_zero x.timesOut
  simp only [exchange, served_eq, Exchange.arriving, hreply]
  split_ifs
  · simpa using hnil
  · simpa using hnil
  · exact fetch_none_ne_zero

end System

/-! ## `_start` -/

/-- What surrounds `_start`: whether `pthread_mutex_init` and `pthread_create` fail, the two
exchanges, and what the receiver serves in between. -/
structure Boot where
  mutexFails : Bool
  valves : Exchange
  between : List ServerEvent
  schedules : Exchange
  threadFails : Bool

/-- Nothing fails and nobody interferes. -/
def Boot.calm : Boot := ⟨false, .calm, [], .calm, false⟩

/-- A device whose process has just begun. -/
def System.begun (db : Db) : System := ⟨db, ⟨[], .unset⟩⟩

/-- The system when `_start` asks for the active schedules. -/
def Boot.beforeSchedules (b : Boot) (p : Setup) (db : Db) : System :=
  let sys := ((System.begun db).exchange p b.valves .getDeviceValvesMsg).2
  { sys with db := run (ServerEvent.step p.server) sys.db b.between }

/-- `_start` of `device_client.c`: the return value, and the system after it. -/
def start (p : Setup) (b : Boot) (db : Db) : ℕ × System :=
  if b.mutexFails then (1, System.begun db)
  else
    let r := (System.begun db).exchange p b.valves .getDeviceValvesMsg
    if r.1 ≠ 0 then (2, r.2)
    else
      let r := (b.beforeSchedules p db).exchange p b.schedules .getActiveSchesMsg
      if r.1 ≠ 0 then (3, r.2)
      else if b.threadFails then (4, r.2)
      else (0, r.2)

/-- What happens once `main` waits in `sm_wait_on_thread`: the receiver is used by others, and the
scheduler makes its passes.  The device makes no exchange any more. -/
inductive MainEvent where
  | server (e : ServerEvent)
  | pass (currMins : UInt16)

/-- The system after an event behind `_start`. -/
def System.mainStep (p : Setup) (sys : System) : MainEvent → System
  | .server e => { sys with db := e.step p.server sys.db }
  | .pass m => { sys with client := sys.client.pass m }

/-- An event of the receiver, as the device sees it. -/
def ServerEvent.toSystem : ServerEvent → SystemEvent
  | .web call => .web call
  | .request deviceId msgType env => .other deviceId msgType env

/-- What happens to the system in a start that succeeds. -/
def Boot.events (b : Boot) : List SystemEvent :=
  .exchange .getDeviceValvesMsg b.valves :: b.between.map ServerEvent.toSystem ++
    [.exchange .getActiveSchesMsg b.schedules]

section Start

variable {p : Setup} {b : Boot} {db : Db}

theorem beforeSchedules_eq_run (p : Setup) (b : Boot) (db : Db) :
    b.beforeSchedules p db = run (System.step p) (System.begun db)
      (.exchange .getDeviceValvesMsg b.valves :: b.between.map ServerEvent.toSystem) := by
  have hbetween (sys : System) (es : List ServerEvent) :
      run (System.step p) sys (es.map ServerEvent.toSystem) =
        { sys with db := run (ServerEvent.step p.server) sys.db es } := by
    induction es generalizing sys with
    | nil => rfl
    | cons e es ih =>
      rw [List.map_cons, run_cons, ih]
      cases e <;> rfl
  rw [run_cons, hbetween]
  rfl

theorem start_fst_eq_zero_iff :
    (start p b db).1 = 0 ↔ b.mutexFails = false ∧
      ((System.begun db).exchange p b.valves .getDeviceValvesMsg).1 = 0 ∧
      ((b.beforeSchedules p db).exchange p b.schedules .getActiveSchesMsg).1 = 0 ∧
      b.threadFails = false := by
  unfold start
  cases b.mutexFails
  · simp only [Bool.false_eq_true, if_false, true_and]
    split_ifs with hvalves hsches hthread <;> simp_all
  · simp

theorem start_snd (hstart : (start p b db).1 = 0) :
    (start p b db).2 = ((b.beforeSchedules p db).exchange p b.schedules .getActiveSchesMsg).2 := by
  obtain ⟨hmutex, hvalves, hsches, hthread⟩ := start_fst_eq_zero_iff.1 hstart
  simp [start, hmutex, hvalves, hsches, hthread]

/-- A start that succeeds is a run of the system. -/
theorem start_eq_run (hstart : (start p b db).1 = 0) :
    (start p b db).2 = run (System.step p) (System.begun db) b.events := by
  rw [start_snd hstart, beforeSchedules_eq_run, Boot.events, run_append]
  rfl

end Start

/-! ## When `_start` succeeds -/

namespace Server

variable {env : Env} {deviceId : UInt8} {db : Db}

/-- The connection to the database and its first statement go through. -/
def Env.Reads (env : Env) : Prop := (env.read.connect || env.read.exec 0) = false

instance (env : Env) : Decidable env.Reads := inferInstanceAs (Decidable (_ = _))

/-- The valves of the device can be read: their ids fit 16 bits. -/
def Env.ReadsValves (env : Env) (deviceId : UInt8) (db : Db) : Prop :=
  env.Reads ∧ ∀ id ∈ rcvGetDeviceValves deviceId.toNat db, 0 ≤ id ∧ id < 65536

/-- The active schedules of the device can be read: their values fit 16 bits. -/
def Env.ReadsSchedules (env : Env) (deviceId : UInt8) (db : Db) : Prop :=
  env.Reads ∧ ∀ a ∈ rcvGetActiveSchedules deviceId.toNat db, a.item.Fits

instance (env : Env) (deviceId : UInt8) (db : Db) : Decidable (env.ReadsValves deviceId db) :=
  inferInstanceAs (Decidable (_ ∧ _))

instance (env : Env) (deviceId : UInt8) (db : Db) : Decidable (env.ReadsSchedules deviceId db) :=
  inferInstanceAs (Decidable (_ ∧ _))

theorem exists_fetchDeviceValves_iff (rows : List ℤ) :
    (∃ valveIds, fetchDeviceValves rows = some valveIds) ↔ ∀ id ∈ rows, 0 ≤ id ∧ id < 65536 := by
  constructor
  · rintro ⟨valveIds, h⟩ id hid
    rw [← fetchDeviceValves_eq_some h, List.mem_map] at hid
    obtain ⟨u, -, hu⟩ := hid
    exact (exists_toNat_eq_iff id).1 ⟨u, hu⟩
  · intro h
    induction rows with
    | nil => exact ⟨[], rfl⟩
    | cons id rows ih =>
      obtain ⟨hid, hrows⟩ := List.forall_mem_cons.1 h
      obtain ⟨valveIds, hvalveIds⟩ := ih hrows
      obtain ⟨u, hu⟩ := (exists_toNat_eq_iff id).2 hid
      exact ⟨u :: valveIds, by
        simp only [fetchDeviceValves, asUint16_eq_some_iff.2 hu, hvalveIds]; rfl⟩

theorem exists_fetchValves_iff :
    (∃ valveIds, env.fetchValves deviceId db = some valveIds) ↔ env.ReadsValves deviceId db := by
  simp only [Env.fetchValves, dbGetDeviceValves, Work.exec_begin, UInt8.toNat_toUInt16,
    Env.ReadsValves, Env.Reads]
  cases env.read.connect
  · cases env.read.exec 0
    · simp only [Bool.or_self, Bool.false_eq_true, if_false, true_and,
        exists_fetchDeviceValves_iff, (env.valveOrder.perm _).mem_iff]
    · simp
  · simp

theorem exists_fetch_iff :
    (∃ read, env.fetch deviceId db = some read) ↔ env.ReadsSchedules deviceId db := by
  have hfetch : (∃ read, fetchActiveSchedules
      (env.order.order (rcvGetActiveSchedules deviceId.toNat db)) = some read) ↔
        ∀ a ∈ rcvGetActiveSchedules deviceId.toNat db, a.item.Fits := by
    constructor
    · rintro ⟨⟨sches, sents⟩, h⟩ a ha
      rw [← (env.order.perm _).mem_iff] at ha
      have hmem : a.item ∈ sches.map Schedule.item := by
        rw [(fetchActiveSchedules_eq_some h).1]
        exact List.mem_map_of_mem ha
      obtain ⟨s, -, hs⟩ := List.mem_map.1 hmem
      exact (exists_item_iff _).1 ⟨s, hs⟩
    · intro h
      refine exists_fetchActiveSchedules fun a ha => (exists_item_iff _).2 (h a ?_)
      rwa [(env.order.perm _).mem_iff] at ha
  simp only [Env.fetch, dbGetActiveSchedules, Work.exec_begin, UInt8.toNat_toUInt16,
    Env.ReadsSchedules, Env.Reads]
  cases env.read.connect
  · cases env.read.exec 0
    · simp only [Bool.or_self, Bool.false_eq_true, if_false, true_and, hfetch]
    · simp
  · simp

end Server

/-- The fetch of valves of `_start` succeeds. -/
def Boot.ValvesArrive (b : Boot) (p : Setup) (db : Db) : Prop :=
  b.valves.env.ReadsValves p.deviceId db ∧
    b.valves.Passes .getDeviceValvesMsg (2 * (rcvGetDeviceValves p.deviceId.toNat db).length)

/-- The fetch of schedules of `_start` succeeds. -/
def Boot.SchedulesArrive (b : Boot) (p : Setup) (db : Db) : Prop :=
  b.schedules.env.ReadsSchedules p.deviceId (b.beforeSchedules p db).db ∧
    b.schedules.Passes .getActiveSchesMsg
      (8 * (rcvGetActiveSchedules p.deviceId.toNat (b.beforeSchedules p db).db).length)

instance (b : Boot) (p : Setup) (db : Db) : Decidable (b.ValvesArrive p db) :=
  inferInstanceAs (Decidable (_ ∧ _))

instance (b : Boot) (p : Setup) (db : Db) : Decidable (b.SchedulesArrive p db) :=
  inferInstanceAs (Decidable (_ ∧ _))

section Start

variable {p : Setup} {b : Boot} {db : Db}

theorem valvesArrive_iff (hvalves : (rcvGetDeviceValves p.deviceId.toNat db).length ≤ 32766) :
    ((System.begun db).exchange p b.valves .getDeviceValvesMsg).1 = 0 ↔ b.ValvesArrive p db := by
  rw [Boot.ValvesArrive, ← exists_fetchValves_iff]
  have hreply := reply_getDeviceValves p.server b.valves.env p.deviceId db
  cases hfetch : b.valves.env.fetchValves p.deviceId db with
  | none =>
    rw [hfetch] at hreply
    have hne : ((System.begun db).exchange p b.valves .getDeviceValvesMsg).1 ≠ 0 :=
      System.exchange_ne_zero_of_reply_eq_none hreply
    simpa using hne
  | some valveIds =>
    rw [← length_of_fetchValves hfetch] at hvalves ⊢
    rw [hfetch, Option.map_some,
      deviceValvesReply_of_length_le p.server p.client hvalves] at hreply
    have hnat := toNat_valvesLength hvalves
    rw [@System.exchange_eq_zero_iff_of_reply p b.valves (System.begun db) .getDeviceValvesMsg _ _
      hreply (by rw [RecordCodec.length_encodeAll, width_valveIdCodec, hnat, Nat.mul_comm]),
      width_valveIdCodec, hnat]
    exact (and_iff_right ⟨valveIds, rfl⟩).symm

theorem schedulesArrive_iff (hsches : (rcvGetActiveSchedules p.deviceId.toNat
      (b.beforeSchedules p db).db).length ≤ 6553) :
    ((b.beforeSchedules p db).exchange p b.schedules .getActiveSchesMsg).1 = 0 ↔
      b.SchedulesArrive p db := by
  rw [Boot.SchedulesArrive, ← exists_fetch_iff]
  generalize b.beforeSchedules p db = sys at hsches ⊢
  have hreply := @reply_eq p.server b.schedules.env p.deviceId sys.db .getActiveSchesMsg rfl
  cases hfetch : b.schedules.env.fetch p.deviceId sys.db with
  | none =>
    rw [hfetch] at hreply
    simpa using System.exchange_ne_zero_of_reply_eq_none hreply
  | some read =>
    obtain ⟨sches, sents⟩ := read
    rw [← length_of_fetch hfetch] at hsches ⊢
    rw [hfetch, Option.map_some, RequestType.answer,
      scheduleReply_of_length_le p.server p.client (Nat.le_trans hsches (by decide))] at hreply
    have hnat : (UInt16.ofNat (8 * sches.length)).toNat = 8 * sches.length := by
      rw [UInt16.toNat_ofNat']
      omega
    rw [System.exchange_eq_zero_iff_of_reply hreply
      (by rw [RecordCodec.length_encodeAll, width_scheduleCodec, hnat, Nat.mul_comm]),
      width_scheduleCodec, hnat]
    exact (and_iff_right ⟨(sches, sents), rfl⟩).symm

end Start

/-- The return value of `_start` tells the first step that fails, where the lists of the device fit
their buffers.  A fetch fails exactly when the receiver cannot read the list (the connection to the
database or the statement fails, or a value does not fit 16 bits), or when no byte of a list arrives
behind its length; the fetch of schedules succeeds without one on a length that reads 0. -/
theorem start_code (p : Setup) (b : Boot) (db : Db)
    (hvalves : (rcvGetDeviceValves p.deviceId.toNat db).length ≤ 32766)
    (hsches : (rcvGetActiveSchedules p.deviceId.toNat (b.beforeSchedules p db).db).length ≤ 6553) :
    (start p b db).1 =
      if b.mutexFails then 1
      else if ¬ b.ValvesArrive p db then 2
      else if ¬ b.SchedulesArrive p db then 3
      else if b.threadFails then 4
      else 0 := by
  rw [← if_congr (not_congr (valvesArrive_iff hvalves)) rfl rfl,
    ← if_congr (not_congr (schedulesArrive_iff hsches)) rfl rfl]
  unfold start
  cases b.mutexFails
  · simp only [Bool.false_eq_true, if_false]
    split_ifs <;> rfl
  · rfl

/-- Device 1 starts, and of the reply with its schedule only the first byte arrives: the length
reads 0 with what the stack holds, and `_start` succeeds with an empty table. -/
theorem start_code_cut :
    (start ⟨.little, .big, 1⟩ { Boot.calm with schedules := { Exchange.calm with lost := 9 } }
      (Db.garden.afterWeb [.create 1 none 5 7 0])).1 = 0 := by
  rw [start_code _ _ _ (by decide) (by decide), if_neg (by decide), if_neg (by decide),
    if_neg (by decide), if_neg (by decide)]

/-! ## The boot snapshot -/

/-- The minute of a pass. -/
def MainEvent.passMinute : MainEvent → Option UInt16
  | .server _ => none
  | .pass m => some m

section Snapshot

variable {p : Setup} {b : Boot} {db : Db}

theorem client_run_mainStep (sys : System) (es : List MainEvent) :
    (run (System.mainStep p) sys es).client =
      run Device.pass sys.client (es.filterMap MainEvent.passMinute) :=
  run_filterMap (fun sys : System => sys.client) MainEvent.passMinute
    (fun _ e => by cases e <;> rfl) es

/-- The state of the device after a successful start with whole replies: its valves, all closed, and
the list that the receiver read. -/
theorem client_start (hstart : (start p b db).1 = 0)
    (hwhole : b.valves.lost = 0 ∧ b.schedules.lost = 0)
    (hvalves : (rcvGetDeviceValves p.deviceId.toNat db).length ≤ 32766)
    (hsches : (rcvGetActiveSchedules p.deviceId.toNat (b.beforeSchedules p db).db).length ≤ 6553) :
    ∃ valveIds sches sents, b.valves.env.fetchValves p.deviceId db = some valveIds ∧
      b.schedules.env.fetch p.deviceId (b.beforeSchedules p db).db = some (sches, sents) ∧
      (start p b db).2.client =
        if sches = [] then Device.start valveIds
        else (Device.start valveIds).setNewSchedules sches := by
  obtain ⟨-, hfirst, hsecond, -⟩ := start_fst_eq_zero_iff.1 hstart
  rcases System.exchange_getDeviceValves_cases p (System.begun db) hwhole.1 hvalves with
    ⟨hne, -⟩ | ⟨valveIds, hread, -, hclient⟩
  · exact absurd hfirst hne
  obtain ⟨sches, sents, hfetch, hex⟩ := exchange_of_completes rfl hsecond hwhole.2 hsches
  refine ⟨valveIds, sches, sents, hread, hfetch, ?_⟩
  have hbefore : (b.beforeSchedules p db).client = Device.start valveIds := hclient
  rw [start_snd hstart, hex]
  show (if sches = [] then (b.beforeSchedules p db).client
    else (b.beforeSchedules p db).client.setNewSchedules sches) = _
  rw [hbefore]

theorem live_beforeSchedules {sches : List Schedule} {sents : List Bool}
    (hfetch : b.schedules.env.fetch p.deviceId (b.beforeSchedules p db).db = some (sches, sents)) :
    (b.beforeSchedules p db).db.live p.deviceId.toNat = { i | ∃ s ∈ sches, s.item = i } := by
  ext i
  exact (mem_fetch_iff hfetch).symm

theorem tended_run_pass {c : Device} (hclosed : ∀ v ∈ c.valvesMap, v.vState = .closed)
    (minutes : List UInt16) :
    Shadowed (run Device.pass c minutes).valvesMap ∧ (run Device.pass c minutes).Tended := by
  refine run_invariant (I := fun c : Device => Shadowed c.valvesMap ∧ c.Tended) ?_
    ⟨shadowed_of_closed hclosed, Device.tended_of_closed hclosed⟩ minutes
  rintro c m ⟨hs, ht⟩
  exact ⟨Device.shadowed_pass m hs, (ht.attended_pass hs m).tended hs⟩

theorem covers_iff_item (s : Schedule) (m : UInt16) :
    s.covers m ↔ s.item.start ≤ m.toNat ∧ (m.toNat : ℤ) ≤ s.item.stop := by
  rw [Schedule.covers, UInt16.le_iff_toNat_le, UInt16.le_iff_toNat_le]
  simp only [Schedule.item, Int.ofNat_le]

end Snapshot

/-- Once `_start` has succeeded, with whole replies, the daemon waters by what the receiver held
when it served `_start`, whatever is created or deactivated later and however often the clock is
read: the table stays the list of the schedules that were active then, every pass leaves open only
valves that one of these demands, and the first pass opens every valve that one of them demands. -/
theorem daemon_waters_boot_snapshot (p : Setup) (b : Boot) (db : Db)
    (hstart : (start p b db).1 = 0) (hwhole : b.valves.lost = 0 ∧ b.schedules.lost = 0)
    (hvalves : (rcvGetDeviceValves p.deviceId.toNat db).length ≤ 32766)
    (hsches : (rcvGetActiveSchedules p.deviceId.toNat (b.beforeSchedules p db).db).length ≤ 6553)
    (es : List MainEvent) :
    (run (System.mainStep p) (start p b db).2 es).held =
        (b.beforeSchedules p db).db.live p.deviceId.toNat ∧
      (∀ pre m post, es = pre ++ .pass m :: post →
        ∀ v ∈ ((run (System.mainStep p) (start p b db).2 pre).mainStep p
            (.pass m)).client.valvesMap,
          v.vState = .opened →
            ∃ i ∈ (b.beforeSchedules p db).db.live p.deviceId.toNat,
              i.valveID = v.vId.toNat ∧ i.start ≤ m.toNat ∧ m.toNat ≤ i.stop) ∧
      (∀ pre m post, es = pre ++ .pass m :: post → pre.filterMap MainEvent.passMinute = [] →
        ∀ i ∈ (b.beforeSchedules p db).db.live p.deviceId.toNat,
          i.start ≤ m.toNat → m.toNat ≤ i.stop →
            ∃ v ∈ ((run (System.mainStep p) (start p b db).2 pre).mainStep p
              (.pass m)).client.valvesMap, i.valveID = v.vId.toNat ∧ v.vState = .opened) := by
  obtain ⟨valveIds, sches, sents, hread, hfetch, hclient⟩ :=
    client_start hstart hwhole hvalves hsches
  have hlive := live_beforeSchedules hfetch
  have htable : (start p b db).2.client.table = sches := by
    rw [hclient]
    split_ifs with hnil
    · exact hnil.symm
    · exact Device.table_setNewSchedules sches
  have hmap : (start p b db).2.client.valvesMap = vmInitSetValves valveIds := by
    rw [hclient]
    split_ifs <;> rfl
  have hclosed : ∀ v ∈ (start p b db).2.client.valvesMap, v.vState = .closed := by
    rw [hmap]
    exact fun v hv => closed_of_mem_init hv
  refine ⟨?_, ?_, ?_⟩
  · rw [System.held, client_run_mainStep, Device.table_run_pass, htable, hlive]
  · intro pre m post _ v hv hopen
    obtain ⟨hs, ht⟩ := tended_run_pass hclosed (pre.filterMap MainEvent.passMinute)
    have hatt := ht.attended_pass hs m
    rw [← client_run_mainStep] at hatt
    obtain ⟨s, hs, hid, hc⟩ := hatt v hv hopen
    rw [Device.table_pass, client_run_mainStep, Device.table_run_pass, htable] at hs
    rw [hlive]
    exact ⟨s.item, ⟨s, hs, rfl⟩, by rw [← hid]; rfl, (covers_iff_item s m).1 hc⟩
  · rintro pre m post - hfirst i hi hstarts hstops
    rw [hlive] at hi
    obtain ⟨s, hs, rfl⟩ := hi
    -- The valve of a schedule of the device is one of its valves.
    have hvalve : s.valveId ∈ valveIds := by
      obtain ⟨r, -, ho, -, hitem⟩ := exists_row_of_fetch hfetch hs
      have hv : r.valveIDf = s.valveId.toNat := congrArg Item.valveID hitem
      rw [Db.owns, decide_eq_true_eq, hv, beforeSchedules_eq_run,
        System.rcvGetDeviceValves_run] at ho
      exact (mem_fetchValves_iff hread).2 ho
    have hne : sches ≠ [] := List.ne_nil_of_mem hs
    rw [if_neg hne] at hclient
    refine ⟨⟨s.valveId, .opened⟩, exists_mem_of_vmRead ?_, rfl, rfl⟩
    show vmRead ((run (System.mainStep p) (start p b db).2 pre).client.pass m).valvesMap _ = _
    rw [client_run_mainStep, hfirst, run_nil, hclient, Device.read_pass_setNewSchedules,
      Device.start, vmRead_init, if_pos hvalve, Option.map_some,
      if_pos ⟨s, hs, rfl, (covers_iff_item s m).2 ⟨hstarts, hstops⟩⟩]

/-- Device 1 starts while its schedule is created; the schedule is deactivated, and waters. -/
theorem daemon_waters_boot_snapshot_deactivated :
    ∃ v ∈ ((run (System.mainStep ⟨.little, .big, 1⟩) (start ⟨.little, .big, 1⟩
        { Boot.calm with between := [.web (.create 1 none 5 7 0)] } Db.garden).2
          [.server (.web (.deactivate 1))]).mainStep ⟨.little, .big, 1⟩
            (.pass 6)).client.valvesMap, 1 = (v.vId.toNat : ℤ) ∧ v.vState = .opened :=
  (daemon_waters_boot_snapshot ⟨.little, .big, 1⟩
    { Boot.calm with between := [.web (.create 1 none 5 7 0)] } Db.garden (by decide) ⟨rfl, rfl⟩
    (by decide) (by decide) [.server (.web (.deactivate 1)), .pass 6]).2.2
      [.server (.web (.deactivate 1))] 6 [] rfl rfl ⟨1, 1, 5, 7⟩
      ⟨⟨1, 1, none, 0, 5, 7, false, none, true, none⟩, by decide, by decide, rfl, rfl⟩
      (by decide) (by decide)

/-! ## The calls of the scheduler -/

/-- The map of the device holds every valve of it. -/
def System.Equipped (p : Setup) (sys : System) : Prop :=
  ∀ id : UInt16, (id.toNat : ℤ) ∈ rcvGetDeviceValves p.deviceId.toNat sys.db →
    (vmRead sys.client.valvesMap id).isSome

section Equipped

variable {p : Setup} {sys : System}

theorem isSome_vmRead_pass (c : Device) (m v : UInt16) :
    (vmRead (c.pass m).valvesMap v).isSome = (vmRead c.valvesMap v).isSome := by
  rw [Device.vmRead_pass, Option.isSome_map]

theorem System.equipped_of_completes {x : Exchange} (hwhole : x.lost = 0)
    (hvalves : (rcvGetDeviceValves p.deviceId.toNat sys.db).length ≤ 32766)
    (hrc : (sys.exchange p x .getDeviceValvesMsg).1 = 0) :
    (sys.step p (.exchange .getDeviceValvesMsg x)).Equipped p := by
  rcases System.exchange_getDeviceValves_cases p sys hwhole hvalves with
    ⟨hne, -⟩ | ⟨valveIds, hread, -, hclient⟩
  · exact absurd hrc hne
  · intro id hid
    rw [System.rcvGetDeviceValves_step, ← mem_fetchValves_iff hread] at hid
    rw [System.step, hclient]
    dsimp only
    rw [vmRead_init, if_pos hid]
    rfl

/-- No event whose reply is whole takes a valve out of the map. -/
theorem System.Equipped.step (h : sys.Equipped p) {e : SystemEvent} (he : e.Whole p sys) :
    (sys.step p e).Equipped p := by
  intro id hid
  have hid' := hid
  rw [rcvGetDeviceValves_step] at hid'
  cases e with
  | web call => exact h id hid'
  | other deviceId type env => exact h id hid'
  | pass m => exact (isSome_vmRead_pass sys.client m id).trans (h id hid')
  | exchange type x =>
    cases htype : type.listsSchedules with
    | true =>
      rw [System.step, System.valvesMap_exchange htype]
      exact h id hid'
    | false =>
      cases type with
      | getDeviceValvesMsg =>
        by_cases hrc : (sys.exchange p x .getDeviceValvesMsg).1 = 0
        · exact System.equipped_of_completes he.1 he.2.1 hrc id hid
        · rcases System.exchange_getDeviceValves_cases p sys he.1 he.2.1 with
            ⟨-, hclient⟩ | ⟨-, -, hzero, -⟩
          · rw [System.step, hclient]
            exact h id hid'
          · exact absurd hzero hrc
      | _ => cases htype

theorem System.Equipped.run (h : sys.Equipped p) {es : List SystemEvent}
    (hes : Along (System.step p) (fun sys e => e.Whole p sys) sys es) :
    (Runs.run (System.step p) sys es).Equipped p :=
  hes.run_invariant (I := fun sys : System => sys.Equipped p) (fun _ _ h he => h.step he) h

/-- The calls of a pass of a device that has all its valves, and holds only its own, find them. -/
theorem isSome_vmRead_of_call (hrooted : sys.Rooted p) (hequipped : sys.Equipped p) {m : UInt16}
    {call : UInt16 × ValveState} (hcall : call ∈ sys.client.passCalls m) :
    (vmRead sys.client.valvesMap call.1).isSome := by
  obtain ⟨e, he, hvalve, -⟩ := Device.mem_passCalls_iff.1 hcall
  obtain ⟨r, -, ho, hitem⟩ := hrooted.table e.sche (List.mem_map_of_mem he)
  have hv : r.valveIDf = e.sche.valveId.toNat := congrArg Item.valveID hitem
  refine hequipped call.1 ?_
  rwa [Db.owns, decide_eq_true_eq, hv, hvalve] at ho

end Equipped

/-- On a device whose start succeeded, every call of `vm_set_valve_state` that any pass makes finds
its valve and returns 0, whatever happened since then, as long as no reply is cut short or too long:
the scheduler loses nothing by ignoring the return value. -/
theorem calls_find_valve (p : Setup) (b : Boot) (db : Db) (hstart : (start p b db).1 = 0)
    (es : List SystemEvent) (hes : Along (System.step p) (fun sys e => e.Whole p sys)
      (System.begun db) (b.events ++ es)) :
    ∀ m pre call post,
      (run (System.step p) (start p b db).2 es).client.passCalls m = pre ++ call :: post →
        (vmSetValveState call.1 call.2
          (run vmSet (run (System.step p) (start p b db).2 es).client.valvesMap pre)).1 = 0 := by
  intro m pre call post hcalls
  have hfirst := (start_fst_eq_zero_iff.1 hstart).2.1
  have hrooted : (run (System.step p) (start p b db).2 es).Rooted p := by
    rw [start_eq_run hstart, ← run_append]
    exact (System.rooted_of_unset p db).run hes
  have hequipped : (run (System.step p) (start p b db).2 es).Equipped p := by
    rw [start_eq_run hstart, ← run_append]
    rw [Boot.events, List.cons_append, List.cons_append] at hes ⊢
    rw [run_cons]
    exact (System.equipped_of_completes hes.1.1 hes.1.2.1 hfirst).run hes.2
  have hmem : call ∈ (run (System.step p) (start p b db).2 es).client.passCalls m := by
    rw [hcalls]
    exact List.mem_append_right _ List.mem_cons_self
  have hfound := isSome_vmRead_of_call hrooted hequipped hmem
  -- The calls before it change no key of the map.
  rw [vmSetValveState_fst, vmRead_run_set, Assignments.run_assign, Option.isSome_map, if_pos hfound]

/-- The call that opens valve 1. -/
theorem calls_find_valve_one :
    (vmSetValveState 1 .opened (run vmSet (run (System.step ⟨.little, .big, 1⟩)
      (start ⟨.little, .big, 1⟩ .calm (Db.garden.afterWeb [.create 1 none 5 7 0])).2
        []).client.valvesMap [])).1 = 0 :=
  calls_find_valve ⟨.little, .big, 1⟩ .calm (Db.garden.afterWeb [.create 1 none 5 7 0])
    (by decide) [] ⟨⟨rfl, by decide⟩, ⟨rfl, by decide⟩, trivial⟩ 6 [] (1, .opened) [] (by decide)

end Bbd
