import CopySync.Server.Relay.Machine

/-!
# The relay without the texts of its clips

Nothing the relay does with a clip that has been admitted depends on the clip's texts, but for
the record on the monitor.  Leaving the texts out of a state commutes with every step.
-/

namespace CopySync.Server

open Foundation

/-! ## Clips -/

/-- A clip without its texts. -/
def ClipEvent.blank (event : ClipEvent) : ClipEvent := { event with inlineText := "", html := "" }

/-- Whether a text is empty, as a text. -/
def veil (text : String) : String := if text = "" then "" else "*"

/-- A clip whose texts show only whether they are empty. -/
def ClipEvent.veiled (event : ClipEvent) : ClipEvent :=
  { event with inlineText := veil event.inlineText, html := veil event.html }

/-- What is shown of a clip that is routed: its texts only when it carries no encryption
metadata and end-to-end encryption is not enforced. -/
def ClipEvent.shown (event : ClipEvent) (e2eEnforced : Bool) : ClipEvent :=
  if event.enc.isSome || e2eEnforced then event.veiled else event

/-- Two clips that differ at most in texts that are encrypted or refused: the other fields and
the emptiness of the texts are the same, and the texts are unless the clip carries encryption
metadata or arrives while encryption is enforced. -/
structure ClipEvent.Alike (e2eEnforced : Bool) (left right : ClipEvent) : Prop where
  others : left.blank = right.blank
  inlineText : left.inlineText = "" ↔ right.inlineText = ""
  html : left.html = "" ↔ right.html = ""
  texts : left.enc = none → e2eEnforced = false → left = right

def Frame.blank : Frame → Frame
  | .clip event => .clip event.blank
  | frame => frame

def QueueItem.blank (item : QueueItem) : QueueItem := { item with event := item.event.blank }

@[simp] theorem veil_eq_empty {text : String} : veil text = "" ↔ text = "" := by
  rw [veil]
  by_cases empty : text = ""
  · simp [empty]
  · simp [empty]

@[simp] theorem ClipEvent.isPlaintext_veiled (event : ClipEvent) :
    event.veiled.isPlaintext = event.isPlaintext := by
  have same (text : String) : (veil text != "") = (text != "") := by
    rw [Bool.eq_iff_iff, bne_iff_ne, bne_iff_ne, Ne, veil_eq_empty]
  rw [isPlaintext, isPlaintext]
  simp only [veiled, same]

theorem ClipEvent.blank_shown (event : ClipEvent) (e2eEnforced : Bool) :
    (event.shown e2eEnforced).blank = event.blank := by
  rw [shown]
  split <;> rfl

theorem ClipEvent.Alike.veiled_eq {e2eEnforced : Bool} {left right : ClipEvent}
    (alike : Alike e2eEnforced left right) : left.veiled = right.veiled := by
  have text : veil left.inlineText = veil right.inlineText := by
    simp only [veil, alike.inlineText]
  have html : veil left.html = veil right.html := by
    simp only [veil, alike.html]
  have same := congrArg (fun event : ClipEvent =>
    { event with inlineText := veil left.inlineText, html := veil left.html }) alike.others
  simp only [blank, veiled] at same ⊢
  rw [same, text, html]

theorem ClipEvent.Alike.shown_eq {e2eEnforced : Bool} {left right : ClipEvent}
    (alike : Alike e2eEnforced left right) :
    left.shown e2eEnforced = right.shown e2eEnforced := by
  have enc : left.blank.enc = right.blank.enc := by rw [alike.others]
  change left.enc = right.enc at enc
  rw [shown, shown, enc]
  split
  next => exact alike.veiled_eq
  next plain =>
    rw [Bool.or_eq_true, not_or, Option.isSome_iff_ne_none, not_not, Bool.not_eq_true] at plain
    exact alike.texts (enc.trans plain.1) plain.2

/-! ## The store -/

namespace QueueBucket

theorem ext_items {left right : QueueBucket} (seq : left.seq = right.seq)
    (items : left.items = right.items) : left = right := by
  cases left
  cases right
  cases seq
  cases items
  rfl

def blank (bucket : QueueBucket) : QueueBucket where
  seq := bucket.seq
  items := bucket.items.mapValues QueueItem.blank
  issued := by
    intro entry among
    obtain ⟨old, member, rfl⟩ := List.mem_map.mp among
    exact bucket.issued old member

theorem blank_append (bucket : QueueBucket) (item : QueueItem) :
    (bucket.append item).blank = bucket.blank.append item.blank :=
  ext_items rfl (bucket.items.mapValues_put _ _ item)

theorem blank_deleteFirst (bucket : QueueBucket) :
    bucket.deleteFirst.blank = bucket.blank.deleteFirst := by
  refine ext_items rfl ?_
  simp only [blank, deleteFirst, OrderedMap.mapValues, OrderedMap.dropFirst, List.map_tail]

theorem blank_keep (bucket : QueueBucket) {keeps : QueueItem → Bool}
    (blind : ∀ item, keeps item.blank = keeps item) :
    (bucket.keep keeps).blank = bucket.blank.keep keeps :=
  ext_items rfl (bucket.items.mapValues_filter _ _ _ fun _ item => (blind item).symm)

@[simp] theorem blank_entries_length (bucket : QueueBucket) :
    bucket.blank.items.entries.length = bucket.items.entries.length := List.length_map ..

@[simp] theorem blank_entries_isEmpty (bucket : QueueBucket) :
    bucket.blank.items.entries.isEmpty = bucket.items.entries.isEmpty := by
  simp [blank, OrderedMap.mapValues]

theorem blank_values (bucket : QueueBucket) :
    bucket.blank.items.values = bucket.items.values.map QueueItem.blank :=
  bucket.items.values_mapValues _

theorem blank_trim (maxDepth : Int) (count : Nat) (bucket : QueueBucket) :
    trim maxDepth count bucket.blank =
      ((trim maxDepth count bucket).1.blank, (trim maxDepth count bucket).2) := by
  induction count generalizing bucket with
  | zero => rfl
  | succ count ih =>
      simp only [trim, blank_entries_isEmpty, ← blank_deleteFirst, ih]
      split_ifs <;> rfl

end QueueBucket

namespace Store

def blank (store : Store) : Store :=
  { store with queues := store.queues.mapValues QueueBucket.blank }

variable (lib : Library) (store : Store) (id : DeviceID)

theorem blank_queueOf : store.blank.queueOf id = (store.queueOf id).map QueueItem.blank := by
  rw [queueOf, queueOf, blank, OrderedMap.get?_mapValues]
  cases store.queues.get? id with
  | none => rfl
  | some bucket => exact bucket.blank_values

theorem blank_enqueue (item : QueueItem) (maxDepth : Int) :
    store.blank.enqueue id item.blank maxDepth =
      ((store.enqueue id item maxDepth).1.blank, (store.enqueue id item maxDepth).2) := by
  have bucket : (store.blank.queues.get? id).getD .empty =
      ((store.queues.get? id).getD .empty).blank := by
    rw [blank, OrderedMap.get?_mapValues]
    cases store.queues.get? id with
    | none => rfl
    | some bucket => rfl
  simp only [enqueue, bucket, ← QueueBucket.blank_append, QueueBucket.blank_trim,
    QueueBucket.blank_entries_length]
  simp only [blank, OrderedMap.mapValues_put]

theorem blank_drainQueue :
    store.blank.drainQueue id =
      ((store.drainQueue id).1.blank, (store.drainQueue id).2.map QueueItem.blank) := by
  rw [drainQueue, drainQueue, blank, OrderedMap.get?_mapValues]
  cases store.queues.get? id with
  | none => rfl
  | some bucket => simp [blank, OrderedMap.mapValues_erase, QueueBucket.blank_values]

theorem blank_purgeExpiredQueueItems (now : Time) (ttl : Duration) :
    (store.blank.purgeExpiredQueueItems now ttl).1 =
      (store.purgeExpiredQueueItems now ttl).1.blank := by
  rw [purgeExpiredQueueItems, purgeExpiredQueueItems]
  split
  next => rfl
  next =>
    simp only [blank]
    refine congrArg (fun queues => { store with queues }) ?_
    have filtered := OrderedMap.mapValues_filter
      (store.queues.mapValues (·.keep fun item => !expiredItem now ttl item)) QueueBucket.blank
      (fun _ bucket => !bucket.items.entries.isEmpty)
      (fun _ bucket => !bucket.items.entries.isEmpty)
      fun _ bucket => by rw [bucket.blank_entries_isEmpty]
    rw [filtered]
    refine congrArg (fun queues => OrderedMap.filter queues _) ?_
    rw [OrderedMap.mapValues_mapValues, OrderedMap.mapValues_mapValues]
    refine OrderedMap.mapValues_congr _ ?_
    intro _ bucket _
    exact (bucket.blank_keep fun _ => rfl).symm

theorem blank_deleteDevice :
    store.blank.deleteDevice lib id = (store.deleteDevice lib id).blank := by
  simp only [deleteDevice, blank, OrderedMap.mapValues_erase]

theorem blank_updateLastSeen (now : Time) :
    store.blank.updateLastSeen id now = (store.updateLastSeen id now).blank := by
  have devices : store.blank.devices = store.devices := rfl
  rw [updateLastSeen, updateLastSeen, devices]
  cases store.devices.get? id <;> rfl

theorem blank_claimPairing (code : String) (now : Time) (device : Device) (token : TokenRecord) :
    store.blank.claimPairing lib code now device token =
      (store.claimPairing lib code now device token).map blank := by
  have pairing : store.blank.pairing = store.pairing := rfl
  have names : store.blank.deviceNames = store.deviceNames := rfl
  simp only [claimPairing, pairing, names]
  cases store.pairing.get? code with
  | none => rfl
  | some entry =>
      simp only
      split
      next => rfl
      next =>
        split
        next => rfl
        next => rfl

/-- Transactions on the tokens leave the queues alone. -/
theorem blank_apply (op : TokenOp) : op.apply lib store.blank = (op.apply lib store).blank := by
  have tokens : store.blank.tokens = store.tokens := rfl
  cases op with
  | putPairing code => rfl
  | purgePairing now => rfl
  | claimPairing code now device hash =>
      simp only [TokenOp.apply, blank_claimPairing]
      cases store.claimPairing lib code now device ⟨device.id, hash, "", now, false⟩ <;> rfl
  | rotateToken id hash now =>
      simp only [TokenOp.apply, rotateToken, tokens]
      cases store.tokens.get? id with
      | none => rfl
      | some record =>
          simp only
          split <;> rfl
  | reissuePendingToken id prevHash hash now =>
      simp only [TokenOp.apply, reissuePendingToken, tokens]
      cases store.tokens.get? id with
      | none => rfl
      | some record =>
          simp only
          split <;> rfl
  | retireOldToken id =>
      simp only [TokenOp.apply, retireOldToken, tokens]
      cases store.tokens.get? id with
      | none => rfl
      | some record =>
          simp only
          split <;> rfl
  | deleteDevice id => exact store.blank_deleteDevice lib id

end Store

/-! ## Connections and the process -/

def Client.blank (client : Client) : Client :=
  { client with send := client.send.map Frame.blank }

def Session.blank : Session → Session
  | .drained settings items => .drained settings (items.map QueueItem.blank)
  | .registering settings rest full => .registering settings (rest.map QueueItem.blank) full
  | .requeueing depth rest => .requeueing depth (rest.map QueueItem.blank)
  | session => session

def Pump.blank : Pump → Pump
  | .writing frame => .writing frame.blank
  | pump => pump

def Connection.blank (connection : Connection) : Connection where
  client := connection.client.blank
  session := connection.session.blank
  pump := connection.pump.blank

theorem Client.blank_enqueue (client : Client) (frame : Frame) :
    client.blank.enqueue frame.blank =
      ((client.enqueue frame).1.blank, (client.enqueue frame).2) := by
  simp only [enqueue, blank, List.length_map]
  split
  next => simp
  next => rfl

namespace Daemon

def blank (daemon : Daemon) : Daemon where
  store := daemon.store.blank
  hub := daemon.hub
  connections := daemon.connections.map Connection.blank

variable (daemon : Daemon) (conn : ConnID) (id : DeviceID)

theorem blank_connection : daemon.blank.connections[conn]? =
    daemon.connections[conn]?.map Connection.blank := List.getElem?_map ..

theorem blank_set (connection : Connection) :
    ({ daemon with connections := daemon.connections.set conn connection } : Daemon).blank =
      { daemon.blank with
        connections := daemon.blank.connections.set conn connection.blank } := by
  simp only [blank, List.map_set]

theorem blank_push (frame : Frame) :
    daemon.blank.push conn frame.blank =
      ((daemon.push conn frame).1.blank, (daemon.push conn frame).2) := by
  rw [push, push, blank_connection]
  cases daemon.connections[conn]? with
  | none => rfl
  | some connection =>
      simp only [Option.map_some]
      rw [blank_set]
      simp only [Connection.blank, connection.client.blank_enqueue]

theorem blank_close (reason : String) :
    daemon.blank.close conn reason = (daemon.close conn reason).blank := by
  rw [close, close, blank_connection]
  cases daemon.connections[conn]? with
  | none => rfl
  | some connection =>
      simp only [Option.map_some]
      rw [blank_set]
      rfl

theorem blank_broadcastPresence (device : Device) (online : Bool) (exclude : DeviceID) :
    daemon.blank.broadcastPresence device online exclude =
      (daemon.broadcastPresence device online exclude).blank := by
  rw [broadcastPresence, broadcastPresence]
  change daemon.hub.clients.entries.foldl _ daemon.blank = _
  induction daemon.hub.clients.entries generalizing daemon with
  | nil => rfl
  | cons entry rest ih =>
      rw [List.foldl_cons, List.foldl_cons, ← ih]
      split
      next => rfl
      next =>
        exact congrArg (fun pushed : Daemon × Bool => List.foldl _ pushed.1 rest)
          (daemon.blank_push entry.2 (.presence ⟨device, online⟩))

/-! ## Handlers of the hub -/

theorem blank_handleUnregister (device : Device) (now : Time) :
    daemon.blank.handleUnregister conn device now =
      (daemon.handleUnregister conn device now).blank := by
  rw [handleUnregister, handleUnregister]
  change (if daemon.hub.clients.get? device.id = some conn then _ else _) = _
  split
  next =>
    rw [← blank_broadcastPresence]
    simp only [blank, Store.blank_updateLastSeen]
  next => rfl

theorem blank_handleEvict : daemon.blank.handleEvict id = (daemon.handleEvict id).blank := by
  have clients : daemon.blank.hub.clients = daemon.hub.clients := rfl
  rw [handleEvict, handleEvict, clients]
  cases daemon.hub.clients.get? id with
  | none => rfl
  | some conn =>
      simp only [blank_connection]
      cases daemon.connections[conn]? with
      | none => rfl
      | some connection =>
          simp only [Option.map_some, blank_close]
          rw [← blank_broadcastPresence]
          rfl

theorem blank_handleBlobRequest (blob : BlobID) :
    (daemon.blank.handleBlobRequest blob).1 = (daemon.handleBlobRequest blob).1.blank := by
  have onDemand : daemon.blank.hub.onDemand = daemon.hub.onDemand := rfl
  have clients : daemon.blank.hub.clients = daemon.hub.clients := rfl
  rw [handleBlobRequest, handleBlobRequest, onDemand]
  cases daemon.hub.onDemand.get? blob with
  | none => rfl
  | some origin =>
      simp only [clients]
      cases daemon.hub.clients.get? origin with
      | none => rfl
      | some conn => exact congrArg Prod.fst (daemon.blank_push conn (.blobRequest blob))

theorem blank_enroll (env : Env) (device : Device) (settings : RuntimeSettings) (now : Time) :
    daemon.blank.enroll env conn device settings now =
      (daemon.enroll env conn device settings now).blank := by
  have greeted (begun : Daemon) :
      let entered : Daemon :=
        { begun with
          store := begun.store.updateLastSeen device.id now
          hub := { begun.hub with clients := begun.hub.clients.put device.id conn } }
      ({ begun.blank with
        store := begun.blank.store.updateLastSeen device.id now
        hub := { begun.blank.hub with
          clients := begun.blank.hub.clients.put device.id conn } } : Daemon) =
        entered.blank := by
    simp only [blank, Store.blank_updateLastSeen]
  have same : daemon.blank.hub.clients.get? device.id = daemon.hub.clients.get? device.id := rfl
  cases found : daemon.hub.clients.get? device.id with
  | none =>
      simp only [enroll, same, found, greeted]
      exact congrArg Prod.fst (blank_push _ conn (.helloOK _))
  | some old =>
      simp only [enroll, same, found, blank_close, greeted]
      exact congrArg Prod.fst (blank_push _ conn (.helloOK _))

theorem blank_storePool (env : Env) (device : Device) (pool : String) :
    daemon.blank.storePool env device pool = (daemon.storePool env device pool).blank := by
  rw [storePool, storePool, ← blank_broadcastPresence]
  refine congrArg (fun updated => broadcastPresence updated _ true "") ?_
  have clients : daemon.blank.hub.clients = daemon.hub.clients := rfl
  simp only [clients]
  cases daemon.hub.clients.get? device.id with
  | none => rfl
  | some conn =>
      simp only [blank_connection]
      cases daemon.connections[conn]? with
      | none => rfl
      | some connection =>
          simp only [Option.map_some, blank, List.map_set]
          rfl

end Daemon

/-! ## Routing -/

section Shown

variable (event : ClipEvent) (e2eEnforced : Bool)

theorem ClipEvent.isPlaintext_shown :
    (event.shown e2eEnforced).isPlaintext = event.isPlaintext := by
  rw [shown]
  split
  next => exact event.isPlaintext_veiled
  next => rfl

theorem refuses_shown (settings : RuntimeSettings) :
    Daemon.refuses settings (event.shown e2eEnforced) = Daemon.refuses settings event := by
  rw [Daemon.refuses, Daemon.refuses, ClipEvent.isPlaintext_shown]

/-- The record of a clip does not depend on texts that are not shown. -/
theorem monitorEvent_shown (store : Store) :
    monitorEvent store (event.shown e2eEnforced) e2eEnforced =
      monitorEvent store event e2eEnforced := by
  rw [ClipEvent.shown]
  split
  next hidden =>
    by_cases empty : event.inlineText = ""
    · simp [monitorEvent, ClipEvent.veiled, hidden, empty]
    · simp [monitorEvent, ClipEvent.veiled, hidden, empty]
  next => rfl

theorem resolveTargets_shown (store : Store) :
    resolveTargets store (event.shown e2eEnforced) = resolveTargets store event := by
  rw [ClipEvent.shown]
  split <;> rfl

namespace Daemon

variable (daemon : Daemon)

theorem claimBlob_shown (targets : List Device) :
    daemon.claimBlob (event.shown e2eEnforced) targets = daemon.claimBlob event targets := by
  rw [ClipEvent.shown]
  split <;> rfl

theorem blank_claimBlob (targets : List Device) :
    daemon.blank.claimBlob event targets = (daemon.claimBlob event targets).blank := by
  rw [claimBlob, claimBlob]
  change (if event.blobID ≠ "" ∧ daemon.hub.claimOK event then _ else _) = _
  split <;> rfl

theorem blank_prepareRoute (env : Env) (settings : RuntimeSettings) (now : Time) :
    daemon.blank.prepareRoute env (event.shown settings.e2eEnabled) settings now =
      ((daemon.prepareRoute env event settings now).1.blank,
        (daemon.prepareRoute env event settings now).2) := by
  have size : (event.shown settings.e2eEnabled).size = event.size := by
    rw [ClipEvent.shown]
    split <;> rfl
  have published : daemon.blank.publishMonitor (event.shown settings.e2eEnabled)
      settings.e2eEnabled = (daemon.publishMonitor event settings.e2eEnabled).blank := by
    rw [publishMonitor, monitorEvent_shown]
    rfl
  simp only [prepareRoute, published, size, resolveTargets_shown, claimBlob_shown]
  have claimed := blank_claimBlob event
    { daemon.publishMonitor event settings.e2eEnabled with
      store := (daemon.publishMonitor event settings.e2eEnabled).store.recordActivity env.lib now
        event.size }
    (resolveTargets (daemon.store.recordActivity env.lib now event.size) event)
  exact Prod.ext claimed rfl

theorem blank_deliverTo (depth : Int) (now : Time) (target : Device) :
    daemon.blank.deliverTo event.blank depth now target =
      ((daemon.deliverTo event depth now target).1.blank,
        (daemon.deliverTo event depth now target).2) := by
  have queued (current : Daemon) : current.blank.enqueue target.id event.blank depth now =
      ((current.enqueue target.id event depth now).1.blank,
        (current.enqueue target.id event depth now).2) := by
    have stored := current.store.blank_enqueue target.id ⟨event.wire, now⟩ depth
    have trimmed := congrArg Prod.snd stored
    exact Prod.ext
      (congrArg (fun result => { current.blank with store := result.1 }) stored) trimmed
  have clients : daemon.blank.hub.clients = daemon.hub.clients := rfl
  have origin : event.blank.originDevice = event.originDevice := rfl
  rw [deliverTo, deliverTo, clients, origin]
  split
  next => rfl
  next =>
    cases daemon.hub.clients.get? target.id with
    | none => simp only [queued]
    | some conn =>
        have pushed := daemon.blank_push conn (.clip event.wire)
        change daemon.blank.push conn (.clip event.blank.wire) = _ at pushed
        simp only [pushed]
        split
        next => rfl
        next =>
          have evicted : daemon.blank.evictSlow target.id conn =
              (daemon.evictSlow target.id conn).blank := by
            rw [evictSlow, evictSlow, blank_close]
            rfl
          simp only [evicted, queued]

end Daemon

end Shown

end CopySync.Server
