import CopySync.Desktop.Ipc
import CopySync.Foundation.IdTable
import CopySync.Interop.Classifiers
import CopySync.Interop.TextDelivery

/-!
# Desktop client: the local history

`history.rs` with its callers: the key file, the table of clips whose previews and names are
sealed, the timers that purge password-like texts, and the request that reads the history.
The table and the key file outlive the agent, its timers do not.
-/

namespace CopySync.Desktop.History

open Foundation Client

/-- The libraries, and the character data and the entropy test of the classifier. -/
structure Env where
  prims : Primitives
  data : CharacterData
  random : Text → Bool

/-! ## The columns -/

/-- `strip_prefix("enc:")`. -/
def stripEnc (text : String) : Option String :=
  (text.toList.dropPrefix? "enc:".toList).map String.ofList

/-- Seal a field; an empty one, or one that cannot be sealed, is stored as it is. -/
def encryptField (prims : Primitives) (key : Option Bytes) (nonce : Nonce) (text : String) :
    String :=
  match key with
  | some key =>
      if text = "" then text
      else
        match E2e.sealPayload prims key nonce (bytesOf text) with
        | some body => "enc:" ++ prims.encodeBase64 body
        | none => text
  | none => text

/-- Whatever is not a sealed field under the key is shown as it is stored. -/
def decryptField (prims : Primitives) (key : Option Bytes) (text : String) : String :=
  match key, stripEnc text with
  | some key, some coded =>
      match prims.decodeBase64 coded with
      | .ok raw =>
          match E2e.openPayload prims key raw with
          | some plain => textOf plain
          | none => text
      | .error _ => text
  | _, _ => text

/-- The nonces drawn for the preview and the name of a row. -/
abbrev Nonces := Nonce × Nonce

def encryptRow (prims : Primitives) (key : Option Bytes) (nonces : Nonces) (row : HistoryRow) :
    HistoryRow :=
  { row with
    preview := encryptField prims key nonces.1 row.preview
    name := encryptField prims key nonces.2 row.name }

def decryptRow (prims : Primitives) (key : Option Bytes) (row : HistoryRow) : HistoryRow :=
  { row with
    preview := decryptField prims key row.preview
    name := decryptField prims key row.name }

/-! ## The table -/

/-- The largest id of a row. -/
def maxId : Nat := 2 ^ 63 - 1

/-- `add_history`: the id of the new row, unless the insertion fails. -/
def add (prims : Primitives) (key : Option Bytes) (clips : IdTable HistoryRow) (row : HistoryRow)
    (nonces : Nonces) (written : Bool) : IdTable HistoryRow × Option Nat :=
  if written && decide (clips.last < maxId) then
    (clips.insert (encryptRow prims key nonces row), some (clips.last + 1))
  else (clips, none)

/-- `LIMIT`: a negative one is none. -/
def sqlLimit {α : Type} (limit : Int) (rows : List α) : List α :=
  if limit < 0 then rows else rows.take limit.toNat

/-- The entries, the newest first. -/
def entries (prims : Primitives) (key : Option Bytes) (clips : IdTable HistoryRow) :
    List (Nat × HistoryRow) :=
  clips.newestFirst.map fun entry => (entry.1, decryptRow prims key entry.2)

def recent (prims : Primitives) (key : Option Bytes) (clips : IdTable HistoryRow) (limit : Int) :
    List (Nat × HistoryRow) :=
  sqlLimit limit (entries prims key clips)

/-- `to_lowercase`. -/
def toLowercase (data : CharacterData) (text : String) : String :=
  String.ofList (data.lowercase text.toList)

/-- The preview or the name contains the query, but for case. -/
def matching (data : CharacterData) (query : String) (row : HistoryRow) : Bool :=
  containsText (toLowercase data row.preview) (toLowercase data query) ||
    containsText (toLowercase data row.name) (toLowercase data query)

/-- The search looks at a window of recent rows. -/
def window : Int := 5000

def search (env : Env) (key : Option Bytes) (clips : IdTable HistoryRow) (query : String)
    (limit : Int) : List (Nat × HistoryRow) :=
  ((sqlLimit window (entries env.prims key clips)).filter fun entry =>
    matching env.data query entry.2).take (max limit 0).toNat

/-! ## The key -/

/-- `history_key`: the key of the key file, or a fresh one that is written there.  Also a
file that cannot be read or has another length is replaced; a failed write may leave anything. -/
def historyKey (file : Option Bytes) (readable : Bool) (drawn : Vector UInt8 32)
    (written : Except (Option Bytes) Unit) : Bytes × Option Bytes :=
  match file.filter fun bytes => readable && bytes.length == 32 with
  | some key => (key, file)
  | none =>
      (drawn.toList,
        match written with
        | .ok () => some drawn.toList
        | .error left => left)

/-! ## The agent and its disk -/

/-- A pending purge: the id of the row and the time from which it is deleted. -/
structure Timer where
  id : Nat
  due : Nat
  deriving DecidableEq, Repr

/-- The running agent. -/
structure Process where
  key : Bytes
  timers : List Timer
  deriving DecidableEq, Repr

/-- How a row comes into the history: as the text of a received clip or as a local text that
the privacy filter holds back, at some time and with the time to live that is configured then,
or in any other way. -/
inductive Source where
  | received (now ttl : Nat)
  | filtered (now ttl : Nat)
  | other
  deriving DecidableEq, Repr

/-- What happened to the history: a row was stored; a row was purged, or should have been and
the deletion failed; an agent opened the history with a key; the agent went away. -/
inductive Record where
  | stored (id : Nat) (row : HistoryRow) (source : Source)
  | purged (id : Nat) (now : Nat)
  | missed (id : Nat) (now : Nat)
  | opened (key : Bytes)
  | closed
  deriving DecidableEq, Repr

/-- The key file and the table on the disk, the agent that uses them, and the log of what
happened. -/
structure Keeper where
  keyFile : Option Bytes
  clips : IdTable HistoryRow
  process : Option Process
  log : List Record

/-- What the agent and its surroundings do.  A launch reads or writes the key file; a row is
recorded, a received text and a local one that the filter holds back with its own purge; the
timer at some place of the list fires. -/
inductive Move where
  | launch (readable : Bool) (drawn : Vector UInt8 32) (written : Except (Option Bytes) Unit)
  | exit
  | record (row : HistoryRow) (nonces : Nonces) (written : Bool)
  | receive (event : ClipEvent) (text : String) (nonces : Nonces) (written : Bool)
      (now ttl : Nat)
  | filter (ts text : String) (custom : List (Text → Bool)) (nonces : Nonces) (written : Bool)
      (now ttl : Nat)
  | purge (index now : Nat) (deleted : Bool)

/-- The row of a received text. -/
def receivedRow (event : ClipEvent) (text : String) : HistoryRow :=
  ⟨event.ts, "text", event.originDevice, "in", text, "text/plain", (bytesOf text).length, "", ""⟩

/-- The row of a local text that is not synced. -/
def filteredRow (ts text : String) : HistoryRow :=
  ⟨ts, "text", "me", "out", text, "text/plain", (bytesOf text).length, "", ""⟩

/-- `schedule_purge`, for a received text that looks like a secret and for every text the
filter held back; no time to live means that the row stays. -/
def due? (env : Env) (row : HistoryRow) : Source → Option Nat
  | .received now ttl =>
      if (Privacy.classify env.data env.random row.preview.toList []).isSome && ttl != 0 then
        some (now + ttl)
      else none
  | .filtered now ttl => if ttl != 0 then some (now + ttl) else none
  | .other => none

namespace Keeper

def start : Keeper where
  keyFile := none
  clips := .empty
  process := none
  log := []

/-- Store a row, log it, and schedule its purge. -/
def store (env : Env) (keeper : Keeper) (process : Process) (row : HistoryRow) (nonces : Nonces)
    (written : Bool) (source : Source) : Keeper :=
  let (clips, id) := add env.prims (some process.key) keeper.clips row nonces written
  match id with
  | none => { keeper with clips }
  | some id =>
      { keeper with
        clips
        process := some
          { process with
            timers := process.timers ++ ((due? env row source).map fun due => ⟨id, due⟩).toList }
        log := keeper.log ++ [.stored id row source] }

def step (env : Env) (keeper : Keeper) : Move → Option Keeper
  | .launch readable drawn written =>
      match keeper.process with
      | some _ => none
      | none =>
          let (key, keyFile) := historyKey keeper.keyFile readable drawn written
          some
            { keeper with
              keyFile
              process := some ⟨key, []⟩
              log := keeper.log ++ [.opened key] }
  | .exit =>
      keeper.process.map fun _ =>
        { keeper with process := none, log := keeper.log ++ [.closed] }
  | .record row nonces written =>
      keeper.process.map fun process => keeper.store env process row nonces written .other
  | .receive event text nonces written now ttl =>
      keeper.process.map fun process =>
        keeper.store env process (receivedRow event text) nonces written (.received now ttl)
  | .filter ts text custom nonces written now ttl =>
      -- The filter also knows the patterns of the user.
      if (Privacy.classify env.data env.random text.toList custom).isSome then
        keeper.process.map fun process =>
          keeper.store env process (filteredRow ts text) nonces written (.filtered now ttl)
      else none
  | .purge index now deleted =>
      match keeper.process with
      | none => none
      | some process =>
          match process.timers[index]? with
          | none => none
          | some timer =>
              if timer.due ≤ now then
                let fired := some { process with timers := process.timers.eraseIdx index }
                -- The timer is gone also when the deletion fails.
                if deleted then
                  some
                    { keeper with
                      clips := keeper.clips.delete timer.id
                      process := fired
                      log := keeper.log ++ [.purged timer.id now] }
                else
                  some
                    { keeper with
                      process := fired
                      log := keeper.log ++ [.missed timer.id now] }
              else none

/-- The reply to `GetHistory`: at most 200 rows, searched when the query is not blank. -/
def getHistory (env : Env) (keeper : Keeper) (process : Process) (query : Option String) :
    Ipc.Response :=
  let list :=
    match query with
    | some query =>
        if Ipc.trim query = "" then recent env.prims (some process.key) keeper.clips 200
        else search env (some process.key) keeper.clips (Ipc.trim query) 200
    | none => recent env.prims (some process.key) keeper.clips 200
  .history (list.map fun entry =>
    ⟨entry.2.ts, entry.2.kind, entry.2.direction, entry.2.origin, entry.2.preview, entry.2.size⟩)

end Keeper

/-! ## Reading what was stored -/

section Fields

variable {prims : Primitives} {key : Bytes}

theorem stripEnc_sealed (coded : String) : stripEnc ("enc:" ++ coded) = some coded := by
  have stripped : ("enc:" ++ coded).toList.dropPrefix? "enc:".toList = some coded.toList := by
    apply List.dropPrefix?_eq_some_iff.mpr
    exact ⟨"enc:".toList, String.toList_append, beq_self_eq_true _⟩
  rw [stripEnc, stripped, Option.map_some, String.ofList_toList]

/-- A field can be read back: it is empty, it is sealed, or it does not look sealed. -/
def legible (prims : Primitives) (key : Bytes) (nonce : Nonce) (text : String) : Bool :=
  text == "" || (E2e.sealPayload prims key nonce (bytesOf text)).isSome || (stripEnc text).isNone

theorem decryptField_plain {key : Option Bytes} {text : String} (plain : stripEnc text = none) :
    decryptField prims key text = text := by
  cases key <;> simp [decryptField, plain]

theorem decrypt_encryptField (lossless : Interop.Lossless prims) {nonce : Nonce} {text : String}
    (fine : legible prims key nonce text = true) :
    decryptField prims (some key) (encryptField prims (some key) nonce text) = text := by
  by_cases empty : text = ""
  · subst empty
    rfl
  · cases produced : E2e.sealPayload prims key nonce (bytesOf text) with
    | some body =>
        have stored : encryptField prims (some key) nonce text =
            "enc:" ++ prims.encodeBase64 body := by simp [encryptField, empty, produced]
        have decoded := lossless.decodes key body (.of_sealPayload produced)
        have opened := lossless.opens key nonce _ body produced
        simp only [stored, decryptField, stripEnc_sealed, decoded, opened, textOf_bytesOf]
    | none =>
        have stored : encryptField prims (some key) nonce text = text := by
          simp [encryptField, produced]
        have plain : stripEnc text = none := by
          simpa [legible, empty, produced] using fine
        rw [stored, decryptField_plain plain]

/-- Both content columns of a row can be read back. -/
def legibleRow (prims : Primitives) (key : Bytes) (nonces : Nonces) (row : HistoryRow) : Bool :=
  legible prims key nonces.1 row.preview && legible prims key nonces.2 row.name

theorem decrypt_encryptRow (lossless : Interop.Lossless prims) {nonces : Nonces}
    {row : HistoryRow} (fine : legibleRow prims key nonces row = true) :
    decryptRow prims (some key) (encryptRow prims (some key) nonces row) = row := by
  obtain ⟨preview, name⟩ := Bool.and_eq_true_iff.mp fine
  rw [decryptRow, encryptRow, decrypt_encryptField lossless preview,
    decrypt_encryptField lossless name]

end Fields

/-! ## The journal that is kept -/

/-- What an event changes in the table. -/
def Record.change? : Record → Option (Change HistoryRow)
  | .stored id row _ => some (.inserted id row)
  | .purged id _ => some (.deleted id)
  | .missed .. | .opened _ | .closed => none

def changes (log : List Record) : List (Change HistoryRow) := log.filterMap Record.change?

theorem changes_concat (log : List Record) (record : Record) :
    changes (log ++ [record]) = changes log ++ record.change?.toList := by
  cases changed : record.change? <;> simp [changes, List.filterMap_append, changed]

/-- The rows that were stored and not purged, the newest first. -/
def journal (log : List Record) : List HistoryRow :=
  (Change.kept (changes log)).reverse.map Prod.snd

/-- What a journal in the open would answer. -/
def answer (env : Env) (rows : List HistoryRow) (query : Option String) : List HistoryRow :=
  match query with
  | some query =>
      if Ipc.trim query = "" then rows.take 200
      else ((rows.take 5000).filter (matching env.data (Ipc.trim query))).take 200
  | none => rows.take 200

/-- The part of a row that is shown. -/
def histRow (row : HistoryRow) : Ipc.HistRow :=
  ⟨row.ts, row.kind, row.direction, row.origin, row.preview, row.size⟩

/-- The row that a move records. -/
def Move.asks : Move → Option (HistoryRow × Nonces × Source)
  | .record row nonces _ => some (row, nonces, .other)
  | .receive event text nonces _ now ttl =>
      some (receivedRow event text, nonces, .received now ttl)
  | .filter ts text _ nonces _ now ttl => some (filteredRow ts text, nonces, .filtered now ttl)
  | .launch .. | .exit | .purge .. => none

namespace Keeper

/-- The keeper after a row got an id. -/
def stored (env : Env) (keeper : Keeper) (process : Process) (row : HistoryRow) (nonces : Nonces)
    (source : Source) : Keeper :=
  { keeper with
    clips := keeper.clips.insert (encryptRow env.prims (some process.key) nonces row)
    process := some
      { process with
        timers := process.timers ++
          ((due? env row source).map fun due => ⟨keeper.clips.last + 1, due⟩).toList }
    log := keeper.log ++ [.stored (keeper.clips.last + 1) row source] }

/-- What one move does. -/
inductive Moves (env : Env) (keeper : Keeper) : Move → Keeper → Prop where
  | launched {readable drawn written key keyFile} (idle : keeper.process = none)
      (taken : historyKey keeper.keyFile readable drawn written = (key, keyFile)) :
      Moves env keeper (.launch readable drawn written)
        { keeper with
          keyFile
          process := some ⟨key, []⟩
          log := keeper.log ++ [.opened key] }
  | exited {process} (running : keeper.process = some process) :
      Moves env keeper .exit
        { keeper with process := none, log := keeper.log ++ [.closed] }
  | failed (move : Move) : Moves env keeper move keeper
  | stored {move process row nonces source} (running : keeper.process = some process)
      (asked : move.asks = some (row, nonces, source)) :
      Moves env keeper move (keeper.stored env process row nonces source)
  | purged {process timer} (index now : Nat) (running : keeper.process = some process)
      (pending : process.timers[index]? = some timer) (due : timer.due ≤ now) :
      Moves env keeper (.purge index now true)
        { keeper with
          clips := keeper.clips.delete timer.id
          process := some { process with timers := process.timers.eraseIdx index }
          log := keeper.log ++ [.purged timer.id now] }
  | missed {process timer} (index now : Nat) (running : keeper.process = some process)
      (pending : process.timers[index]? = some timer) (due : timer.due ≤ now) :
      Moves env keeper (.purge index now false)
        { keeper with
          process := some { process with timers := process.timers.eraseIdx index }
          log := keeper.log ++ [.missed timer.id now] }

variable {env : Env} {keeper next : Keeper} {process : Process} {move : Move}

theorem moves_of_store (running : keeper.process = some process) {row : HistoryRow}
    {nonces : Nonces} {source : Source} (written : Bool)
    (asked : move.asks = some (row, nonces, source)) :
    keeper.Moves env move (keeper.store env process row nonces written source) := by
  cases taken : written && decide (keeper.clips.last < maxId) with
  | false =>
      have same : keeper.store env process row nonces written source = keeper := by
        simp [store, add, taken]
      rw [same]
      exact .failed move
  | true =>
      have same : keeper.store env process row nonces written source =
          keeper.stored env process row nonces source := by
        simp [store, Keeper.stored, add, taken]
      rw [same]
      exact .stored running asked

theorem moves_of_step (stepped : keeper.step env move = some next) :
    keeper.Moves env move next := by
  cases move with
  | launch readable drawn written =>
      simp only [step] at stepped
      split at stepped
      next => cases stepped
      next idle =>
        cases stepped
        exact .launched idle rfl
  | exit =>
      obtain ⟨process, running, rfl⟩ := Option.map_eq_some_iff.mp stepped
      exact .exited running
  | record row nonces written =>
      obtain ⟨process, running, rfl⟩ := Option.map_eq_some_iff.mp stepped
      exact moves_of_store running written rfl
  | receive event text nonces written now ttl =>
      obtain ⟨process, running, rfl⟩ := Option.map_eq_some_iff.mp stepped
      exact moves_of_store running written rfl
  | filter ts text custom nonces written now ttl =>
      simp only [step] at stepped
      split at stepped
      next =>
        obtain ⟨process, running, rfl⟩ := Option.map_eq_some_iff.mp stepped
        exact moves_of_store running written rfl
      next => cases stepped
  | purge index now deleted =>
      simp only [step] at stepped
      split at stepped
      next => cases stepped
      next process running =>
        split at stepped
        next => cases stepped
        next timer pending =>
          split at stepped
          next due =>
            cases deleted with
            | true =>
                cases stepped
                exact .purged index now running pending due
            | false =>
                cases stepped
                exact .missed index now running pending due
          next => cases stepped

/-! ## The key and the journal -/

/-- A key file that was written is read again, and what is stored can be read back. -/
def admits (env : Env) (keeper : Keeper) (move : Move) : Bool :=
  match move, keeper.process with
  | .launch readable _ written, _ =>
      match keeper.keyFile, written with
      | none, .error _ => false
      | none, .ok () => true
      | some _, _ => readable
  | _, some process =>
      move.asks.all fun asked => legibleRow env.prims process.key asked.2.1 asked.1
  | _, none => true

/-- Seen with the key of the key file, the table holds the journal. -/
structure Readable (env : Env) (keeper : Keeper) : Prop where
  fresh : keeper.keyFile = none → keeper = .start
  records : ∀ key, keeper.keyFile = some key → key.length = 32 ∧
    (keeper.clips.map (decryptRow env.prims (some key))).Records (changes keeper.log)
  process : ∀ process, keeper.process = some process → keeper.keyFile = some process.key ∧
    ∀ timer ∈ process.timers, timer.id ≤ keeper.clips.last

theorem Readable.start (env : Env) : Readable env .start where
  fresh _ := rfl
  records _ keyed := by cases keyed
  process _ running := by cases running

/-- A launch obtains the key under which the rows were stored. -/
theorem Readable.launched (readable : keeper.Readable env) {legible : Bool}
    {drawn : Vector UInt8 32} {written : Except (Option Bytes) Unit}
    (careful : keeper.admits env (.launch legible drawn written) = true) {key : Bytes}
    {keyFile : Option Bytes}
    (taken : historyKey keeper.keyFile legible drawn written = (key, keyFile)) :
    Readable env
      { keeper with
        keyFile
        process := some ⟨key, []⟩
        log := keeper.log ++ [.opened key] } := by
  have kept : keyFile = some key ∧ key.length = 32 ∧
      (keeper.clips.map (decryptRow env.prims (some key))).Records (changes keeper.log) := by
    cases file : keeper.keyFile with
    | none =>
        have first := readable.fresh file
        cases written with
        | error left => simp [admits, file] at careful
        | ok done =>
            simp only [historyKey, file, Option.filter_none] at taken
            cases taken
            refine ⟨rfl, by simp, ?_⟩
            rw [first]
            exact .empty
    | some old =>
        obtain ⟨long, records⟩ := readable.records old file
        have seen : legible = true := by simpa [admits, file] using careful
        simp only [historyKey, file, seen, long, Option.filter_some, beq_self_eq_true,
          Bool.and_self, if_true] at taken
        cases taken
        exact ⟨rfl, long, records⟩
  obtain ⟨same, long, records⟩ := kept
  constructor
  · intro missing
    cases same.symm.trans missing
  · intro other found
    cases same.symm.trans found
    refine ⟨long, ?_⟩
    rw [changes_concat]
    simpa [Record.change?] using records
  · intro process running
    cases running
    exact ⟨same, by simp⟩

/-- A stored row joins the journal. -/
theorem Readable.stored (lossless : Interop.Lossless env.prims) (readable : keeper.Readable env)
    (running : keeper.process = some process) {row : HistoryRow} {nonces : Nonces}
    (fine : legibleRow env.prims process.key nonces row = true) (source : Source) :
    (keeper.stored env process row nonces source).Readable env := by
  obtain ⟨keyed, known⟩ := readable.process process running
  obtain ⟨long, records⟩ := readable.records process.key keyed
  constructor
  · intro missing
    cases keyed.symm.trans missing
  · intro key same
    cases keyed.symm.trans same
    have inserted := records.insert (decryptRow env.prims (some process.key)
      (encryptRow env.prims (some process.key) nonces row))
    rw [← IdTable.map_insert, decrypt_encryptRow lossless fine] at inserted
    refine ⟨long, ?_⟩
    rw [Keeper.stored, changes_concat]
    exact inserted
  · intro later same
    cases same
    constructor
    · exact keyed
    · intro timer among
      cases List.mem_append.mp among with
      | inl old => exact Nat.le_succ_of_le (known timer old)
      | inr new =>
          obtain ⟨due, -, rfl⟩ := Option.map_eq_some_iff.mp (Option.mem_toList.mp new)
          exact Nat.le_refl _

theorem Readable.step (lossless : Interop.Lossless env.prims) (readable : keeper.Readable env)
    (careful : keeper.admits env move = true) (moved : keeper.Moves env move next) :
    next.Readable env := by
  cases moved with
  | launched _ taken => exact readable.launched careful taken
  | exited running =>
      obtain ⟨keyed, -⟩ := readable.process _ running
      constructor
      · intro missing
        cases keyed.symm.trans missing
      · intro key found
        rw [changes_concat]
        simpa [Record.change?] using readable.records key found
      · intro process same
        cases same
  | failed => exact readable
  | @stored _ process row nonces source running asked =>
      have fine : legibleRow env.prims process.key nonces row = true := by
        cases move with
        | launch | exit | purge => cases asked
        | record | receive | filter => simpa [admits, running, asked] using careful
      exact readable.stored lossless running fine source
  | @purged process timer index now running pending due =>
      obtain ⟨keyed, known⟩ := readable.process process running
      constructor
      · intro missing
        cases keyed.symm.trans missing
      · intro key found
        obtain ⟨long, records⟩ := readable.records key found
        refine ⟨long, ?_⟩
        rw [changes_concat, IdTable.map_delete]
        exact records.delete (known timer (List.mem_of_getElem? pending))
      · intro later same
        cases same
        exact ⟨keyed, fun timer among => known timer (List.mem_of_mem_eraseIdx among)⟩
  | @missed process timer index now running pending due =>
      obtain ⟨keyed, known⟩ := readable.process process running
      constructor
      · intro missing
        cases keyed.symm.trans missing
      · intro key found
        rw [changes_concat]
        simpa [Record.change?] using readable.records key found
      · intro later same
        cases same
        exact ⟨keyed, fun timer among => known timer (List.mem_of_mem_eraseIdx among)⟩

/-- The entries read from the table are the journal. -/
theorem Readable.entries_eq (readable : keeper.Readable env)
    (running : keeper.process = some process) :
    (entries env.prims (some process.key) keeper.clips).map Prod.snd = journal keeper.log := by
  obtain ⟨keyed, -⟩ := readable.process process running
  obtain ⟨-, records⟩ := readable.records process.key keyed
  rw [entries, IdTable.newestFirst_eq, journal, ← records.rows]
  simp [IdTable.map]

/-- Sealed on the disk, stored by one agent and read by a later one, with ids and with rows
purged in between: the history answers every query as a journal in the open would, over all
runs in which the key file is kept. -/
theorem getHistory_eq (lossless : Interop.Lossless env.prims)
    (run : Run (Keeper.step env) (fun keeper move => keeper.admits env move = true) .start keeper)
    (running : keeper.process = some process) (query : Option String) :
    keeper.getHistory env process query =
      .history ((answer env (journal keeper.log) query).map histRow) := by
  have readable : keeper.Readable env := run.invariant (.start env)
    fun before careful stepped => before.step lossless careful (moves_of_step stepped)
  have seen := readable.entries_eq running
  have newest : (recent env.prims (some process.key) keeper.clips 200).map Prod.snd =
      (journal keeper.log).take 200 := by
    rw [← seen, ← List.map_take]
    rfl
  have found (text : String) :
      (search env (some process.key) keeper.clips text 200).map Prod.snd =
        (((journal keeper.log).take 5000).filter (matching env.data text)).take 200 := by
    rw [← seen, ← List.map_take, List.filter_map, ← List.map_take]
    rfl
  have shown (list : List (Nat × HistoryRow)) :
      Ipc.Response.history (list.map fun entry => histRow entry.2) =
        .history ((list.map Prod.snd).map histRow) := by
    rw [List.map_map]
    rfl
  cases query with
  | none =>
      rw [answer, ← newest, ← shown]
      rfl
  | some text =>
      simp only [getHistory, answer]
      split
      · rw [← newest, ← shown]
        rfl
      · rw [← found, ← shown]
        rfl

/-! ## A restart -/

/-- The reference values. -/
def demoEnv : Env := ⟨Reference.prims, Interop.asciiData, fun _ => false⟩

/-- The text `hi` is received and stored, and the agent restarts. -/
def demoMoves : List Move :=
  [.launch true ⟨Reference.key.toArray, rfl⟩ (.ok ()),
    .receive demoText "hi" (Reference.text.nonce, Reference.text.nonce) true 7 45,
    .exit,
    .launch true (Vector.replicate 32 9) (.ok ())]

/-- The search finds the text that an earlier agent sealed, in any case. -/
theorem demoHistory_found : ∃ keeper process,
    Run (Keeper.step demoEnv) (fun keeper move => keeper.admits demoEnv move = true) .start
      keeper ∧ keeper.process = some process ∧
      keeper.getHistory demoEnv process (some " HI ") =
        .history [⟨"", "text", "in", "", "hi", 2⟩] := by
  obtain ⟨keeper, run, checked⟩ := Run.exists_of_execWhen (Keeper.step demoEnv)
    (Keeper.admits demoEnv) .start demoMoves
    (fun keeper => decide (keeper.process = some ⟨Reference.key, []⟩ ∧
      (answer demoEnv (journal keeper.log) (some " HI ")).map histRow =
        [⟨"", "text", "in", "", "hi", 2⟩])) (by decide +kernel)
  obtain ⟨running, found⟩ := of_decide_eq_true checked
  refine ⟨keeper, _, run, running, ?_⟩
  rw [getHistory_eq Interop.lossless_reference run running, found]

end Keeper

end CopySync.Desktop.History
