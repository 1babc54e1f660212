import CopySync.Foundation.OrderedMap
import CopySync.Foundation.Transition

/-!
# The identity of the server

Clients trust a server for the pin of its certificate, and the server knows its devices by
hashes under a secret.  The first start makes both and keeps them on the disk.  A start may be
cut off anywhere, also in the middle of a file; still the server never serves under two
identities, so that the relay has the same environment after a restart.

The history is no part of the program.
-/

namespace CopySync.Server

open Foundation

structure Identity where
  serverID : String
  secret : String
  pin : String
  deriving DecidableEq, Repr

/-- The contents of `cert.pem` and `key.pem`. -/
structure KeyPair where
  cert : List UInt8
  key : List UInt8
  deriving DecidableEq, Repr

/-- What a start finds: the bucket `meta` of the database, and the files of the certificate. -/
structure DataDir where
  values : OrderedMap String String
  cert : Option (List UInt8)
  key : Option (List UInt8)

/-- The value of a name, made when it is missing, in one transaction. -/
def DataDir.getOrCreateMeta (disk : DataDir) (name fresh : String) : String × DataDir :=
  match disk.values.get? name with
  | some value => (value, disk)
  | none => (fresh, { disk with values := disk.values.put name fresh })

/-- How far a start has come.  A file is created empty and written a piece at a time. -/
inductive StartStage where
  | down
  | opened
  | named (serverID : String)
  | keyed (serverID secret : String)
  | writingCert (serverID secret : String) (pair : KeyPair) (written : Nat)
  | writingKey (serverID secret : String) (pair : KeyPair) (written : Nat)
  | up (identity : Identity)
  deriving DecidableEq, Repr

inductive StartEvent where
  | served (identity : Identity)
  | refused
  | exited (stage : StartStage)
  deriving DecidableEq, Repr

/-- What is drawn at random is part of the action. -/
inductive StartAction where
  | start
  | serverID (fresh : String)
  | secret (fresh : String)
  | loadOrCreate (fresh : KeyPair)
  | write (count : Nat)
  | close
  | exit

/-- The database is locked while a process runs, so there is one at a time. -/
structure Startup where
  disk : DataDir
  stage : StartStage
  history : List StartEvent

namespace Startup

/-- Nothing was started yet. -/
def new : Startup := ⟨⟨.empty, none, none⟩, .down, []⟩

section Steps

/-! `pinOf` is `tls.X509KeyPair` and `spkiPinFromCert` over the contents of both files. -/

variable (pinOf : List UInt8 → List UInt8 → Option String) (startup : Startup)

/-- The end of `LoadOrCreate`: the server serves from here on, or the process ends with an
error. -/
def present (serverID secret : String) (cert key : List UInt8) : Startup :=
  match pinOf cert key with
  | some pin =>
      { startup with
        stage := .up ⟨serverID, secret, pin⟩
        history := startup.history ++ [.served ⟨serverID, secret, pin⟩] }
  | none => { startup with stage := .down, history := startup.history ++ [.refused] }

/-- `LoadOrCreate`, up to where `cert.pem` is created, or emptied, if one of the files is
missing. -/
def loadOrCreate (serverID secret : String) (fresh : KeyPair) : Startup :=
  match startup.disk.cert, startup.disk.key with
  | some cert, some key => startup.present pinOf serverID secret cert key
  | _, _ =>
      { startup with
        disk := { startup.disk with cert := some [] }
        stage := .writingCert serverID secret fresh 0 }

def step : StartAction → Option Startup
  | .start =>
      match startup.stage with
      | .down => some { startup with stage := .opened }
      | _ => none
  | .serverID fresh =>
      match startup.stage with
      | .opened =>
          let (value, disk) := startup.disk.getOrCreateMeta "serverId" fresh
          some { startup with disk, stage := .named value }
      | _ => none
  | .secret fresh =>
      match startup.stage with
      | .named serverID =>
          let (value, disk) := startup.disk.getOrCreateMeta "serverSecret" fresh
          some { startup with disk, stage := .keyed serverID value }
      | _ => none
  | .loadOrCreate fresh =>
      match startup.stage with
      | .keyed serverID secret => some (startup.loadOrCreate pinOf serverID secret fresh)
      | _ => none
  | .write count =>
      match startup.stage with
      | .writingCert serverID secret pair written =>
          some { startup with
            disk := { startup.disk with cert := some (pair.cert.take (written + count)) }
            stage := .writingCert serverID secret pair (written + count) }
      | .writingKey serverID secret pair written =>
          some { startup with
            disk := { startup.disk with key := some (pair.key.take (written + count)) }
            stage := .writingKey serverID secret pair (written + count) }
      | _ => none
  | .close =>
      match startup.stage with
      | .writingCert serverID secret pair written =>
          if pair.cert.length ≤ written then
            some { startup with
              disk := { startup.disk with key := some [] }
              stage := .writingKey serverID secret pair 0 }
          else none
      | .writingKey serverID secret pair written =>
          if pair.key.length ≤ written then
            some (startup.present pinOf serverID secret pair.cert pair.key)
          else none
      | _ => none
  | .exit =>
      match startup.stage with
      | .down => none
      | stage =>
          some { startup with stage := .down, history := startup.history ++ [.exited stage] }

end Steps

/-! ## What a step does -/

variable {pinOf : List UInt8 → List UInt8 → Option String} {startup after : Startup}
variable {serverID secret : String} {pair : KeyPair} {written : Nat}

inductive Advances (pinOf : List UInt8 → List UInt8 → Option String) (startup : Startup) :
    StartAction → Startup → Prop where
  | boot (down : startup.stage = .down) :
      Advances pinOf startup .start { startup with stage := .opened }
  | name (fresh : String) (opened : startup.stage = .opened) :
      Advances pinOf startup (.serverID fresh)
        { startup with
          disk := (startup.disk.getOrCreateMeta "serverId" fresh).2
          stage := .named (startup.disk.getOrCreateMeta "serverId" fresh).1 }
  | key (fresh serverID : String) (named : startup.stage = .named serverID) :
      Advances pinOf startup (.secret fresh)
        { startup with
          disk := (startup.disk.getOrCreateMeta "serverSecret" fresh).2
          stage := .keyed serverID (startup.disk.getOrCreateMeta "serverSecret" fresh).1 }
  | load (fresh : KeyPair) (serverID secret : String) (cert key : List UInt8)
      (keyed : startup.stage = .keyed serverID secret)
      (certFile : startup.disk.cert = some cert) (keyFile : startup.disk.key = some key) :
      Advances pinOf startup (.loadOrCreate fresh)
        (startup.present pinOf serverID secret cert key)
  | create (fresh : KeyPair) (serverID secret : String)
      (keyed : startup.stage = .keyed serverID secret)
      (missing : startup.disk.cert = none ∨ startup.disk.key = none) :
      Advances pinOf startup (.loadOrCreate fresh)
        { startup with
          disk := { startup.disk with cert := some [] }
          stage := .writingCert serverID secret fresh 0 }
  | writeCert (count : Nat) (serverID secret : String) (pair : KeyPair) (written : Nat)
      (writing : startup.stage = .writingCert serverID secret pair written) :
      Advances pinOf startup (.write count)
        { startup with
          disk := { startup.disk with cert := some (pair.cert.take (written + count)) }
          stage := .writingCert serverID secret pair (written + count) }
  | writeKey (count : Nat) (serverID secret : String) (pair : KeyPair) (written : Nat)
      (writing : startup.stage = .writingKey serverID secret pair written) :
      Advances pinOf startup (.write count)
        { startup with
          disk := { startup.disk with key := some (pair.key.take (written + count)) }
          stage := .writingKey serverID secret pair (written + count) }
  | closeCert (serverID secret : String) (pair : KeyPair) (written : Nat)
      (writing : startup.stage = .writingCert serverID secret pair written)
      (complete : pair.cert.length ≤ written) :
      Advances pinOf startup .close
        { startup with
          disk := { startup.disk with key := some [] }
          stage := .writingKey serverID secret pair 0 }
  | closeKey (serverID secret : String) (pair : KeyPair) (written : Nat)
      (writing : startup.stage = .writingKey serverID secret pair written)
      (complete : pair.key.length ≤ written) :
      Advances pinOf startup .close (startup.present pinOf serverID secret pair.cert pair.key)
  | exit (running : startup.stage ≠ .down) :
      Advances pinOf startup .exit
        { startup with
          stage := .down, history := startup.history ++ [.exited startup.stage] }

theorem advances_of_step {action : StartAction}
    (stepped : startup.step pinOf action = some after) :
    Advances pinOf startup action after := by
  cases action with
  | start =>
      simp only [step] at stepped
      split at stepped
      next down =>
        cases stepped
        exact .boot down
      next => cases stepped
  | serverID fresh =>
      simp only [step] at stepped
      split at stepped
      next opened =>
        cases stepped
        exact .name fresh opened
      next => cases stepped
  | secret fresh =>
      simp only [step] at stepped
      split at stepped
      next named =>
        cases stepped
        exact .key fresh _ named
      next => cases stepped
  | loadOrCreate fresh =>
      simp only [step] at stepped
      split at stepped
      next keyed =>
        cases stepped
        rw [loadOrCreate]
        split
        next cert key certFile keyFile => exact .load fresh _ _ cert key keyed certFile keyFile
        next absent =>
          have missing : startup.disk.cert = none ∨ startup.disk.key = none := by
            cases certFile : startup.disk.cert with
            | none => exact .inl rfl
            | some cert =>
                cases keyFile : startup.disk.key with
                | none => exact .inr rfl
                | some key => exact (absent cert key certFile keyFile).elim
          exact .create fresh _ _ keyed missing
      next => cases stepped
  | write count =>
      simp only [step] at stepped
      split at stepped
      next writing =>
        cases stepped
        exact .writeCert count _ _ _ _ writing
      next writing =>
        cases stepped
        exact .writeKey count _ _ _ _ writing
      next => cases stepped
  | close =>
      simp only [step] at stepped
      split at stepped
      next writing =>
        split_ifs at stepped with complete
        cases stepped
        exact .closeCert _ _ _ _ writing complete
      next writing =>
        split_ifs at stepped with complete
        cases stepped
        exact .closeKey _ _ _ _ writing complete
      next => cases stepped
  | exit =>
      simp only [step] at stepped
      split at stepped
      next => cases stepped
      next running =>
        cases stepped
        exact .exit running

/-! ## One identity -/

/-- The disk holds an identity: whoever starts from it serves under this one. -/
structure Holds (pinOf : List UInt8 → List UInt8 → Option String) (disk : DataDir)
    (identity : Identity) : Prop where
  serverID : disk.values.get? "serverId" = some identity.serverID
  secret : disk.values.get? "serverSecret" = some identity.secret
  files : ∃ cert key, disk.cert = some cert ∧ disk.key = some key ∧
    pinOf cert key = some identity.pin

theorem Holds.unique {disk : DataDir} {first second : Identity}
    (one : Holds pinOf disk first) (other : Holds pinOf disk second) : first = second := by
  obtain ⟨cert, key, certFile, keyFile, pin⟩ := one.files
  obtain ⟨cert', key', certFile', keyFile', pin'⟩ := other.files
  cases certFile.symm.trans certFile'
  cases keyFile.symm.trans keyFile'
  have serverIDs := Option.some.inj (one.serverID.symm.trans other.serverID)
  have secrets := Option.some.inj (one.secret.symm.trans other.secret)
  have pins := Option.some.inj (pin.symm.trans pin')
  cases first
  cases second
  cases serverIDs
  cases secrets
  cases pins
  rfl

/-- A value that is there stays, and a value that is returned is there. -/
theorem getOrCreateMeta_kept (disk : DataDir) (name fresh : String) {query value : String}
    (found : disk.values.get? query = some value) :
    (disk.getOrCreateMeta name fresh).2.values.get? query = some value := by
  rw [DataDir.getOrCreateMeta]
  cases held : disk.values.get? name with
  | some old => exact found
  | none =>
      have others : query ≠ name := by
        rintro rfl
        cases held.symm.trans found
      exact (OrderedMap.get?_put_of_ne _ _ others).trans found

theorem getOrCreateMeta_made (disk : DataDir) (name fresh : String) :
    (disk.getOrCreateMeta name fresh).2.values.get? name =
      some (disk.getOrCreateMeta name fresh).1 := by
  rw [DataDir.getOrCreateMeta]
  cases held : disk.values.get? name with
  | some old => exact held
  | none => exact OrderedMap.get?_put_self _ _ _

theorem getOrCreateMeta_files (disk : DataDir) (name fresh : String) :
    (disk.getOrCreateMeta name fresh).2.cert = disk.cert ∧
      (disk.getOrCreateMeta name fresh).2.key = disk.key := by
  rw [DataDir.getOrCreateMeta]
  split <;> exact ⟨rfl, rfl⟩

theorem Holds.getOrCreateMeta {disk : DataDir} {identity : Identity}
    (held : Holds pinOf disk identity) (name fresh : String) :
    Holds pinOf (disk.getOrCreateMeta name fresh).2 identity := by
  obtain ⟨cert, key⟩ := getOrCreateMeta_files disk name fresh
  refine ⟨getOrCreateMeta_kept disk name fresh held.serverID,
    getOrCreateMeta_kept disk name fresh held.secret, ?_⟩
  rw [cert, key]
  exact held.files

def Unserved (history : List StartEvent) : Prop := ∀ identity, .served identity ∉ history

/-- What a start knows is on the disk.  Until both files are there nothing was served. -/
def Placed (disk : DataDir) (history : List StartEvent) : StartStage → Prop
  | .named serverID => disk.values.get? "serverId" = some serverID
  | .keyed serverID secret =>
      disk.values.get? "serverId" = some serverID ∧
        disk.values.get? "serverSecret" = some secret
  | .writingCert serverID secret pair written =>
      disk.values.get? "serverId" = some serverID ∧
        disk.values.get? "serverSecret" = some secret ∧
        disk.cert = some (pair.cert.take written) ∧ Unserved history
  | .writingKey serverID secret pair written =>
      disk.values.get? "serverId" = some serverID ∧
        disk.values.get? "serverSecret" = some secret ∧
        disk.cert = some pair.cert ∧ disk.key = some (pair.key.take written) ∧ Unserved history
  | .down | .opened | .up _ => True

structure Sound (pinOf : List UInt8 → List UInt8 → Option String) (startup : Startup) : Prop where
  kept : ∀ identity, .served identity ∈ startup.history → Holds pinOf startup.disk identity
  placed : Placed startup.disk startup.history startup.stage

namespace Sound

theorem new : Sound pinOf Startup.new where
  kept _ among := by cases among
  placed := trivial

/-- Both files are there, and the pair is tried. -/
theorem present (sound : Sound pinOf startup) {cert key : List UInt8}
    (serverIDs : startup.disk.values.get? "serverId" = some serverID)
    (secrets : startup.disk.values.get? "serverSecret" = some secret)
    (certFile : startup.disk.cert = some cert) (keyFile : startup.disk.key = some key) :
    Sound pinOf (startup.present pinOf serverID secret cert key) := by
  rw [Startup.present]
  cases tried : pinOf cert key with
  | none =>
      refine ⟨fun identity among => ?_, trivial⟩
      rcases List.mem_append.mp among with old | new
      · exact sound.kept identity old
      · cases List.mem_singleton.mp new
  | some pin =>
      refine ⟨fun identity among => ?_, trivial⟩
      rcases List.mem_append.mp among with old | new
      · exact sound.kept identity old
      · cases List.mem_singleton.mp new
        exact ⟨serverIDs, secrets, cert, key, certFile, keyFile, tried⟩

theorem step (sound : Sound pinOf startup) {action : StartAction}
    (stepped : startup.step pinOf action = some after) : Sound pinOf after := by
  obtain ⟨kept, placed⟩ := sound
  cases advances_of_step stepped with
  | boot => exact ⟨kept, trivial⟩
  | name fresh =>
      exact ⟨fun identity among => (kept identity among).getOrCreateMeta _ _,
        getOrCreateMeta_made _ _ _⟩
  | key fresh serverID named =>
      rw [named] at placed
      exact ⟨fun identity among => (kept identity among).getOrCreateMeta _ _,
        getOrCreateMeta_kept _ _ _ placed, getOrCreateMeta_made _ _ _⟩
  | load fresh serverID secret cert key keyed certFile keyFile =>
      have known := placed
      rw [keyed] at known
      exact Sound.present ⟨kept, placed⟩ known.1 known.2 certFile keyFile
  | create fresh serverID secret keyed missing =>
      rw [keyed] at placed
      have unserved : Unserved startup.history := by
        intro identity among
        obtain ⟨cert, key, certFile, keyFile, -⟩ := (kept identity among).files
        rcases missing with none | none
        · cases certFile.symm.trans none
        · cases keyFile.symm.trans none
      exact ⟨fun identity among => absurd among (unserved identity),
        placed.1, placed.2, rfl, unserved⟩
  | writeCert count serverID secret pair written writing =>
      rw [writing] at placed
      obtain ⟨serverIDs, secrets, -, unserved⟩ := placed
      exact ⟨fun identity among => absurd among (unserved identity),
        serverIDs, secrets, rfl, unserved⟩
  | writeKey count serverID secret pair written writing =>
      rw [writing] at placed
      obtain ⟨serverIDs, secrets, certFile, -, unserved⟩ := placed
      exact ⟨fun identity among => absurd among (unserved identity),
        serverIDs, secrets, certFile, rfl, unserved⟩
  | closeCert serverID secret pair written writing complete =>
      rw [writing] at placed
      obtain ⟨serverIDs, secrets, certFile, unserved⟩ := placed
      rw [List.take_of_length_le complete] at certFile
      exact ⟨fun identity among => absurd among (unserved identity),
        serverIDs, secrets, certFile, rfl, unserved⟩
  | closeKey serverID secret pair written writing complete =>
      have known := placed
      rw [writing] at known
      obtain ⟨serverIDs, secrets, certFile, keyFile, -⟩ := known
      rw [List.take_of_length_le complete] at keyFile
      exact Sound.present ⟨kept, placed⟩ serverIDs secrets certFile keyFile
  | exit running =>
      refine ⟨fun identity among => ?_, trivial⟩
      rcases List.mem_append.mp among with old | new
      · exact kept identity old
      · cases List.mem_singleton.mp new

end Sound

/-- Whatever starts were cut off and wherever, the server serves under one identity: one id,
one secret, and one pin. -/
theorem serves_one_identity (reached : Reachable (Startup.step pinOf) Startup.new startup)
    {first second : Identity} (earlier : .served first ∈ startup.history)
    (later : .served second ∈ startup.history) : first = second := by
  have sound : Sound pinOf startup :=
    reached.invariant .new fun sound _ stepped => sound.step stepped
  exact (sound.kept first earlier).unique (sound.kept second later)

/-! ## Starts that are refused -/

/-- An earlier start was cut off while it wrote the key. -/
def Cut (history : List StartEvent) : Prop :=
  ∃ serverID secret pair written,
    .exited (.writingKey serverID secret pair written) ∈ history

theorem Cut.append {history : List StartEvent} (cut : Cut history) (events : List StartEvent) :
    Cut (history ++ events) := by
  obtain ⟨serverID, secret, pair, written, among⟩ := cut
  exact ⟨serverID, secret, pair, written, List.mem_append_left _ among⟩

/-- A pair that is generated can be read again. -/
def genuine (pinOf : List UInt8 → List UInt8 → Option String) : StartAction → Bool
  | .loadOrCreate fresh => (pinOf fresh.cert fresh.key).isSome
  | _ => true

/-- Both files are there and can be read, or neither was written to its end. -/
def Readable (pinOf : List UInt8 → List UInt8 → Option String) (disk : DataDir)
    (history : List StartEvent) : StartStage → Prop
  | .writingCert _ _ pair written =>
      disk.cert = some (pair.cert.take written) ∧ disk.key = none ∧
        (pinOf pair.cert pair.key).isSome = true
  | .writingKey _ _ pair written =>
      disk.cert = some pair.cert ∧ disk.key = some (pair.key.take written) ∧
        (pinOf pair.cert pair.key).isSome = true
  | _ =>
      disk.key = none ∨
        ∃ cert key, disk.cert = some cert ∧ disk.key = some key ∧
          (Cut history ∨ (pinOf cert key).isSome = true)

structure Traced (pinOf : List UInt8 → List UInt8 → Option String) (startup : Startup) : Prop where
  refused : .refused ∈ startup.history → Cut startup.history
  readable : Readable pinOf startup.disk startup.history startup.stage

namespace Traced

theorem new : Traced pinOf Startup.new where
  refused among := by cases among
  readable := .inl rfl

theorem present (traced : Traced pinOf startup) {cert key : List UInt8}
    (certFile : startup.disk.cert = some cert) (keyFile : startup.disk.key = some key)
    (reads : Cut startup.history ∨ (pinOf cert key).isSome = true) :
    Traced pinOf (startup.present pinOf serverID secret cert key) := by
  rw [Startup.present]
  cases tried : pinOf cert key with
  | none =>
      rcases reads with cut | reads
      · exact ⟨fun _ => cut.append _, .inr ⟨cert, key, certFile, keyFile, .inl (cut.append _)⟩⟩
      · rw [tried] at reads
        cases reads
  | some pin =>
      have reads : (pinOf cert key).isSome = true := Option.isSome_of_eq_some tried
      refine ⟨fun among => ?_, .inr ⟨cert, key, certFile, keyFile, .inr reads⟩⟩
      rcases List.mem_append.mp among with old | new
      · exact (traced.refused old).append _
      · cases List.mem_singleton.mp new

theorem step (traced : Traced pinOf startup) {action : StartAction}
    (generated : genuine pinOf action = true)
    (stepped : startup.step pinOf action = some after) : Traced pinOf after := by
  obtain ⟨refused, readable⟩ := traced
  cases advances_of_step stepped with
  | boot down =>
      rw [down] at readable
      exact ⟨refused, readable⟩
  | name fresh opened =>
      rw [opened] at readable
      obtain ⟨cert, key⟩ := getOrCreateMeta_files startup.disk "serverId" fresh
      refine ⟨refused, ?_⟩
      simp only [Readable, cert, key]
      exact readable
  | key fresh serverID named =>
      rw [named] at readable
      obtain ⟨cert, key⟩ := getOrCreateMeta_files startup.disk "serverSecret" fresh
      refine ⟨refused, ?_⟩
      simp only [Readable, cert, key]
      exact readable
  | load fresh serverID secret cert key keyed certFile keyFile =>
      have known := readable
      rw [keyed] at known
      refine Traced.present ⟨refused, readable⟩ certFile keyFile ?_
      rcases known with none | ⟨cert', key', certFile', keyFile', reads⟩
      · cases keyFile.symm.trans none
      · cases certFile.symm.trans certFile'
        cases keyFile.symm.trans keyFile'
        exact reads
  | create fresh serverID secret keyed missing =>
      rw [keyed] at readable
      have absent : startup.disk.key = none := by
        rcases readable with none | ⟨cert, key, certFile, -⟩
        · exact none
        · rcases missing with none | none
          · cases certFile.symm.trans none
          · exact none
      exact ⟨refused, rfl, absent, generated⟩
  | writeCert count serverID secret pair written writing =>
      rw [writing] at readable
      exact ⟨refused, rfl, readable.2⟩
  | writeKey count serverID secret pair written writing =>
      rw [writing] at readable
      exact ⟨refused, readable.1, rfl, readable.2.2⟩
  | closeCert serverID secret pair written writing complete =>
      rw [writing] at readable
      obtain ⟨certFile, -, reads⟩ := readable
      rw [List.take_of_length_le complete] at certFile
      exact ⟨refused, certFile, rfl, reads⟩
  | closeKey serverID secret pair written writing complete =>
      have known := readable
      rw [writing] at known
      obtain ⟨certFile, keyFile, reads⟩ := known
      rw [List.take_of_length_le complete] at keyFile
      exact Traced.present ⟨refused, readable⟩ certFile keyFile (.inr reads)
  | exit running =>
      have settled (kept : startup.disk.key = none ∨
          ∃ cert key, startup.disk.cert = some cert ∧ startup.disk.key = some key ∧
            (Cut startup.history ∨ (pinOf cert key).isSome = true)) :
          Readable pinOf startup.disk (startup.history ++ [.exited startup.stage]) .down := by
        rcases kept with none | ⟨cert, key, certFile, keyFile, reads⟩
        · exact .inl none
        · exact .inr ⟨cert, key, certFile, keyFile, reads.imp_left fun cut => cut.append _⟩
      constructor
      · intro among
        rcases List.mem_append.mp among with old | new
        · exact (refused old).append _
        · cases List.mem_singleton.mp new
      · cases stage : startup.stage with
        | down => exact absurd stage running
        | writingCert serverID secret pair written =>
            rw [stage] at readable
            exact .inl readable.2.1
        | writingKey serverID secret pair written =>
            rw [stage] at readable
            have cut :
                Cut (startup.history ++ [.exited (.writingKey serverID secret pair written)]) :=
              ⟨serverID, secret, pair, written, by simp⟩
            exact .inr ⟨_, _, readable.1, readable.2.1, .inl cut⟩
        | opened | named serverID | keyed serverID secret | up identity =>
            rw [stage] at readable settled
            exact settled readable

end Traced

/-- A start is refused only after an earlier one was cut off while it wrote the key: anywhere
else a start may be cut off, and the next one succeeds. -/
theorem refused_after_cut
    (run : Run (Startup.step pinOf) (fun _ action => genuine pinOf action = true)
      Startup.new startup)
    (among : .refused ∈ startup.history) : Cut startup.history := by
  have traced : Traced pinOf startup :=
    run.invariant .new fun traced generated stepped => traced.step generated stepped
  exact traced.refused among

/-! ## Two runs -/

/-- A pair is read when its files are the same. -/
def demoPin (cert key : List UInt8) : Option String :=
  if cert = key then some (toString cert.length) else none

/-- A start is cut off before the certificate, one comes up, and one more. -/
def demoStarts : List StartAction :=
  [.start, .serverID "srv_1", .secret "a", .exit,
   .start, .serverID "srv_2", .secret "b", .loadOrCreate ⟨[1], [1]⟩, .write 1, .close, .write 1,
   .close, .exit,
   .start, .serverID "srv_3", .secret "c", .loadOrCreate ⟨[2, 2], [2, 2]⟩]

theorem demoStarts_serve :
    ∃ startup, Reachable (Startup.step demoPin) Startup.new startup ∧
      ∀ identity, .served identity ∈ startup.history → identity = ⟨"srv_1", "a", "1"⟩ := by
  obtain ⟨startup, reached, checked⟩ := Reachable.exists_of_exec (Startup.step demoPin) Startup.new
    demoStarts (fun startup => decide (.served ⟨"srv_1", "a", "1"⟩ ∈ startup.history))
    (by decide +kernel)
  exact ⟨startup, reached, fun identity among =>
    serves_one_identity reached among (of_decide_eq_true checked)⟩

/-- The first start is cut off while it writes the key. -/
def demoCut : List StartAction :=
  [.start, .serverID "srv_1", .secret "a", .loadOrCreate ⟨[1], [1]⟩, .write 1, .close, .exit,
   .start, .serverID "srv_2", .secret "b", .loadOrCreate ⟨[2], [2]⟩]

theorem demoCut_refused :
    ∃ startup, Run (Startup.step demoPin) (fun _ action => genuine demoPin action = true)
        Startup.new startup ∧ .refused ∈ startup.history ∧ Cut startup.history := by
  obtain ⟨startup, run, checked⟩ := Run.exists_of_execWhen (Startup.step demoPin)
    (fun _ action => genuine demoPin action) Startup.new demoCut
    (fun startup => decide (.refused ∈ startup.history)) (by decide +kernel)
  have among : .refused ∈ startup.history := of_decide_eq_true checked
  exact ⟨startup, run, among, refused_after_cut run among⟩

end Startup

end CopySync.Server
