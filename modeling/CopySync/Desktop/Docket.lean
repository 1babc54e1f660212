import CopySync.Desktop.Turn
import CopySync.Foundation.Custody

/-!
# Desktop client: content taken from the command channel

What becomes of every piece of content the engine takes from its command channel.
Uploaded content is never lost: it is in a worker, in the result channel or in the
stash until its frame is sent.  The frame of a text, or of a file on demand, is sent
by the command arm itself, which keeps nothing when that send fails; the files behind
such a file in one command are dropped with it.

The docket numbers pieces of content in the order in which they are taken and books
each of them in the place where the engine has it.
-/

namespace CopySync.Desktop

open Foundation Client

/-! ## Pieces of content -/

inductive Parcel where
  | text (text : String) (html : Option String)
  | image (picture : Picture)
  | file (document : Document)
  deriving DecidableEq, Repr

/-- A piece of content with what is to become of it. -/
structure Entry where
  parcel : Parcel
  plan : Plan
  sending : Sending

namespace Entry

/-- The report of an upload. -/
def report? (entry : Entry) : Option Upload :=
  match entry.plan with
  | .upload _ report => some report
  | _ => none

/-- The frame. -/
def event? (entry : Entry) : Option ClipEvent :=
  match entry.plan with
  | .post event .. => some event
  | .upload _ report => some report.event
  | .refuse _ => none

/-- What reports a refusal. -/
def refusal? (entry : Entry) : Option Output :=
  match entry.plan with
  | .refuse output => some output
  | _ => none

/-- A frame the command arm sends itself meets a working socket. -/
def delivers (entry : Entry) : Bool :=
  match entry.plan with
  | .post .. => entry.sending.delivered
  | _ => true

end Entry

/-- The files of one command, but for those this client just received. -/
def fileEntries (env : Env) (key : GroupKey) (threshold : Int) (recent : Dedup) :
    Nat → List (Document × Sending) → List Entry
  | _, [] => []
  | seq, (document, sending) :: rest =>
      if recent.seen document.path sending.now then fileEntries env key threshold recent seq rest
      else
        ⟨.file document, filePlan env key (seq + 1) threshold document sending, sending⟩ ::
          fileEntries env key threshold recent
            (if document.metadata.isOk then seq + 1 else seq) rest

/-- The content of a command, but for echoes and what the privacy filter withholds. -/
def Engine.entries (env : Env) (engine : Engine) (session : Session) : Cmd → List Entry
  | .localText text html exclude sending =>
      if engine.recentText.seen (env.prims.sha256Hex (bytesOf text)) sending.now then []
      else
        match if exclude then env.classify text else none with
        | some _ => []
        | none =>
            [⟨.text text html,
              textPlan env engine.key (engine.seq + 1) session.maxMsg text html sending, sending⟩]
  | .sendText text sending =>
      [⟨.text text none, textPlan env engine.key (engine.seq + 1) session.maxMsg text none sending,
        sending⟩]
  | .localImage picture sending =>
      let sha := env.prims.sha256Hex picture.rgba
      if engine.recentImg.seen sha sending.now then []
      else
        [⟨.image picture, imagePlan env engine.key (engine.seq + 1) picture sha sending, sending⟩]
  | .sendFile document sending =>
      [⟨.file document,
        filePlan env engine.key (engine.seq + 1) session.threshold document sending, sending⟩]
  | .localFiles documents =>
      fileEntries env engine.key session.threshold engine.recentFiles engine.seq documents
  | .setPool .. => []

/-! ## The docket -/

/-- Where a piece of content is. -/
inductive Place where
  | sent
  | uploading
  | results
  | pending
  | refused
  | lost
  deriving DecidableEq, Repr

/-- Where the command arm leaves content whose frame it can send. -/
def Entry.place (entry : Entry) : Place :=
  match entry.plan with
  | .refuse _ => .refused
  | .upload .. => .uploading
  | .post .. => .sent

/-- A failed send ends the command. -/
def bookings : List Entry → List (Place × Entry)
  | [] => []
  | entry :: rest =>
      if entry.delivers then (entry.place, entry) :: bookings rest
      else (entry :: rest).map fun entry => (.lost, entry)

/-- `surfaced` lists what showed the refusals to the user. -/
structure Docket where
  engine : Engine
  taken : List Entry
  custody : Custody Place Entry
  surfaced : List Output

namespace Docket

def start (env : Env) (config : Config) : Docket where
  engine := .start env config
  taken := []
  custody _ := []
  surfaced := []

/-- Book what a turn does. -/
def account (env : Env) (docket : Docket) : Progress → Docket
  | .none => docket
  | .command session cmd =>
      let entries := docket.engine.entries env session cmd
      { docket with
        taken := docket.taken ++ entries
        custody := docket.custody.receiveAll docket.taken.length (bookings entries)
        surfaced := docket.surfaced ++
          (Custody.bound .refused (bookings entries)).filterMap Entry.refusal? }
  | .finish position _ _ =>
      { docket with
        custody := docket.custody.move .uploading .results
          ((docket.custody .uploading).eraseIdx position)
          ((docket.custody .uploading)[position]?.toList) }
  | .settle report outcome delivered =>
      let front := (docket.custody .results).take 1
      let back := (docket.custody .results).drop 1
      match outcome, delivered with
      | .ok (), true => { docket with custody := docket.custody.move .results .sent back front }
      | .ok (), false => { docket with custody := docket.custody.move .results .pending back front }
      | .error message, _ =>
          { docket with
            custody := docket.custody.move .results .refused back front
            surfaced := docket.surfaced ++
              [if report.errViaError then .error message else .notify message] }
  | .readvertise accepted =>
      { docket with
        custody := docket.custody.move .pending .sent
          ((docket.custody .pending).drop accepted) ((docket.custody .pending).take accepted) }

def step (env : Env) (docket : Docket) (action : Action) : Option Docket :=
  (docket.engine.step env action).map fun engine =>
    { docket.account env (docket.engine.progress action) with engine }

/-- Every frame the command arm sends itself meets a working socket. -/
def delivers (env : Env) (docket : Docket) (action : Action) : Bool :=
  match docket.engine.progress action with
  | .command session cmd => (docket.engine.entries env session cmd).all Entry.delivers
  | _ => true

end Docket

/-- The frame of a clip that went out. -/
def Output.delivered? : Output → Option ClipEvent
  | .clip event _ true => some event
  | _ => none

namespace Docket

/-- The docket has the content where the engine has it: the frames that went out are
those of the content booked as sent, in that order, and every refusal was shown. -/
structure Faithful (docket : Docket) : Prop where
  sent : (docket.custody.items .sent).map Entry.event? =
    (docket.engine.log.filterMap Output.delivered?).map some
  uploading : (docket.custody.items .uploading).map Entry.report? =
    docket.engine.uploads.map some
  results : (docket.custody.items .results).map Entry.report? =
    docket.engine.outcomes.map (some ·.2)
  pending : (docket.custody.items .pending).map Entry.report? =
    docket.engine.pendingUploads.map some
  refused : docket.surfaced.length = (docket.custody.items .refused).length ∧
    docket.surfaced.Sublist docket.engine.log ∧ ∀ output ∈ docket.surfaced, output.refusal = true

/-- Every piece of content is sent, refused, or held by the engine: in one place, and
there once. -/
def Survives (docket : Docket) : Prop :=
  (∀ tag entry, docket.taken[tag]? = some entry →
    ∃! place, place ≠ .lost ∧ (tag, entry) ∈ docket.custody place) ∧
  ∀ place, (docket.custody.tags place).Nodup

end Docket

/-! ## What commands do -/

theorem map_bookings (entries : List Entry) : (bookings entries).map (·.2) = entries := by
  induction entries with
  | nil => rfl
  | cons entry rest ih =>
      rw [bookings]
      split_ifs
      · simp [ih]
      · simp

theorem mem_bookings {place : Place} {entry : Entry} {entries : List Entry}
    (listed : (place, entry) ∈ bookings entries) :
    entry ∈ entries ∧ (place = entry.place ∨ place = .lost) := by
  induction entries with
  | nil => cases listed
  | cons first rest ih =>
      rw [bookings] at listed
      split_ifs at listed
      · rcases List.mem_cons.mp listed with same | other
        · cases same
          exact ⟨by simp, .inl rfl⟩
        · exact ⟨List.mem_cons_of_mem _ (ih other).1, (ih other).2⟩
      · obtain ⟨other, member, same⟩ := List.mem_map.mp listed
        cases same
        exact ⟨member, .inr rfl⟩

theorem mem_bound {place : Place} {entry : Entry} {entries : List Entry}
    (listed : entry ∈ Custody.bound place (bookings entries)) :
    entry ∈ entries ∧ (place = entry.place ∨ place = .lost) := by
  obtain ⟨⟨home, item⟩, booked, found⟩ := List.mem_filterMap.mp listed
  simp only [Option.ite_none_right_eq_some, Option.some.injEq] at found
  obtain ⟨rfl, rfl⟩ := found
  exact mem_bookings booked

/-- The command arm itself books nothing in the places of finished uploads. -/
theorem bound_bookings {place : Place} (later : place = .results ∨ place = .pending)
    (entries : List Entry) : Custody.bound place (bookings entries) = [] := by
  refine List.eq_nil_iff_forall_not_mem.mpr fun entry listed => ?_
  obtain ⟨parcel, plan, sending⟩ := entry
  rcases mem_bound listed with ⟨-, same | same⟩
  · rcases later with rfl | rfl <;> cases plan <;> cases same
  · rcases later with rfl | rfl <;> cases same

/-- Nothing is lost while frames can be sent. -/
theorem bound_lost_of_delivers {entries : List Entry} (all : entries.all Entry.delivers = true) :
    Custody.bound .lost (bookings entries) = [] := by
  induction entries with
  | nil => rfl
  | cons entry rest ih =>
      obtain ⟨delivers, others⟩ := by simpa using all
      have kept : entry.place ≠ .lost := by
        obtain ⟨parcel, plan, sending⟩ := entry
        cases plan <;> nofun
      rw [bookings, if_pos delivers, Custody.bound, List.filterMap_cons_none (by simp [kept])]
      exact ih (by simpa using others)

/-- Every refused piece of content has an output that shows it. -/
theorem refusal_of_bound {entry : Entry} {entries : List Entry}
    (proper : ∀ entry ∈ entries, entry.plan.Proper)
    (listed : entry ∈ Custody.bound .refused (bookings entries)) :
    ∃ output, entry.refusal? = some output ∧ output.refusal = true := by
  obtain ⟨member, same | same⟩ := mem_bound listed
  · have own := proper entry member
    obtain ⟨parcel, plan, sending⟩ := entry
    cases plan with
    | refuse output => exact ⟨output, rfl, own⟩
    | upload | post => cases same
  · cases same

/-- Lost content leaves no trace in the engine. -/
theorem bound_lost (place : Place) (kept : place ≠ .lost) (entries : List Entry) :
    Custody.bound place (entries.map fun entry => (Place.lost, entry)) = [] := by
  refine List.filterMap_eq_nil_iff.mpr fun booked listed => ?_
  obtain ⟨entry, -, rfl⟩ := List.mem_map.mp listed
  rw [if_neg fun same => kept same.symm]

namespace Engine

/-- The engine has done what is booked. -/
structure Books (engine next : Engine) (booked : List (Place × Entry)) : Prop where
  uploads : next.uploads.map some =
    engine.uploads.map some ++ (Custody.bound .uploading booked).map Entry.report?
  outcomes : next.outcomes = engine.outcomes
  pending : next.pendingUploads = engine.pendingUploads
  log : ∃ outputs, next.log = engine.log ++ outputs ∧
    (outputs.filterMap Output.delivered?).map some =
      (Custody.bound .sent booked).map Entry.event? ∧
    ((Custody.bound .refused booked).filterMap Entry.refusal?).Sublist outputs

namespace Books

variable {env : Env} {engine next later : Engine} {booked more : List (Place × Entry)}

theorem refl (engine : Engine) : engine.Books engine [] :=
  ⟨by simp [Custody.bound], rfl, rfl, [], by simp [Custody.bound]⟩

theorem trans (first : engine.Books next booked) (second : next.Books later more) :
    engine.Books later (booked ++ more) := by
  obtain ⟨outputs, log, sent, refused⟩ := first.log
  obtain ⟨others, log', sent', refused'⟩ := second.log
  refine ⟨?_, second.outcomes.trans first.outcomes, second.pending.trans first.pending,
    outputs ++ others, ?_, ?_, ?_⟩
  · rw [second.uploads, first.uploads]
    simp [Custody.bound]
  · rw [log', log, List.append_assoc]
  · rw [List.filterMap_append, List.map_append, sent, sent']
    simp [Custody.bound]
  · have both := refused.append refused'
    simpa [Custody.bound] using both

theorem emit (books : engine.Books next booked) {output : Output}
    (quiet : output.delivered? = none) : engine.Books (next.emit output) booked := by
  obtain ⟨outputs, log, sent, refused⟩ := books.log
  refine ⟨books.uploads, books.outcomes, books.pending, outputs ++ [output], ?_, ?_, ?_⟩
  · simp [Engine.emit, log]
  · simpa [quiet] using sent
  · exact refused.trans (List.sublist_append_left ..)

theorem lost (books : engine.Books next []) (entries : List Entry) :
    engine.Books next (entries.map fun entry => (Place.lost, entry)) := by
  obtain ⟨uploads, outcomes, pending, log⟩ := books
  refine ⟨?_, outcomes, pending, ?_⟩
  · rwa [bound_lost .uploading (by simp)]
  · rwa [bound_lost .sent (by simp), bound_lost .refused (by simp)]

/-- Carrying out the plan of an entry whose frame can be sent. -/
theorem carryOut (env : Env) (engine : Engine) {entry : Entry} (proper : entry.plan.Proper)
    (delivers : entry.delivers = true) :
    engine.Books (engine.carryOut env entry.plan entry.sending).1 [(entry.place, entry)] := by
  obtain ⟨parcel, plan, sending⟩ := entry
  cases plan with
  | refuse output =>
      refine ⟨?_, rfl, rfl, [output], rfl, ?_, ?_⟩
      · simp [Custody.bound, Entry.place, Engine.carryOut, Engine.uploads, Engine.emit]
      · cases output <;> first | rfl | cases proper
      · simp [Custody.bound, Entry.place, Entry.refusal?]
  | upload payload report =>
      refine ⟨?_, rfl, rfl, [.put (blobId env.prims payload) payload], rfl, ?_, ?_⟩
      · simp [Custody.bound, Entry.place, Entry.report?, Engine.carryOut, Engine.uploads, spawn,
          Engine.emit, Worker.upload?]
      · simp [Custody.bound, Entry.place, Output.delivered?]
      · simp [Custody.bound, Entry.place]
  | post event hold row notice sha =>
      have delivered : sending.delivered = true := delivers
      obtain ⟨holds, held, carried⟩ := engine.carryOut_post env event hold row notice sha sending
      rw [delivered, if_pos rfl] at carried
      rw [carried]
      refine ⟨?_, rfl, rfl, _, rfl, ?_, ?_⟩
      · simp [Custody.bound, Entry.place, Engine.uploads]
      · simp [Custody.bound, Entry.place, Entry.event?, Output.delivered?]
      · simp [Custody.bound, Entry.place]

/-- A failed send leaves only the frame that failed. -/
theorem carryOut_fails (env : Env) (engine : Engine) {entry : Entry}
    (fails : entry.delivers = false) :
    engine.Books (engine.carryOut env entry.plan entry.sending).1 [] := by
  obtain ⟨parcel, plan, sending⟩ := entry
  cases plan with
  | refuse output => cases fails
  | upload payload report => cases fails
  | post event hold row notice sha =>
      have failed : sending.delivered = false := fails
      obtain ⟨holds, held, carried⟩ := engine.carryOut_post env event hold row notice sha sending
      rw [failed, if_neg (by simp)] at carried
      rw [carried]
      refine ⟨?_, rfl, rfl, _, rfl, ?_, ?_⟩
      · simp [Custody.bound, Engine.uploads]
      · simp [Custody.bound, Output.delivered?]
      · simp [Custody.bound]

theorem number (numbered : Bool) (books : (engine.number numbered).Books next booked) :
    engine.Books next booked := by
  obtain ⟨seq, counted⟩ := engine.number_shape numbered
  rw [counted] at books
  exact ⟨books.uploads, books.outcomes, books.pending, books.log⟩

theorem drop (books : engine.Books next booked) (why : String) :
    engine.Books (next.drop why) booked := by
  have ended : engine.Books { next with session := none } booked :=
    ⟨books.uploads, books.outcomes, books.pending, books.log⟩
  exact ended.emit rfl

theorem settle {outcome : Engine × Bool} (books : engine.Books outcome.1 booked) (why : String) :
    engine.Books (Engine.settle why outcome) booked := by
  obtain ⟨next, delivered⟩ := outcome
  cases delivered with
  | true => exact books
  | false => exact books.drop why

/-- One piece of content. -/
theorem single (env : Env) (engine : Engine) (numbered : Bool) (parcel : Parcel) {plan : Plan}
    (sending : Sending) (proper : plan.Proper) :
    engine.Books ((engine.number numbered).carryOut env plan sending).1
      (bookings [⟨parcel, plan, sending⟩]) := by
  rw [bookings]
  cases delivers : Entry.delivers ⟨parcel, plan, sending⟩ with
  | true => exact (carryOut env _ proper delivers).number numbered
  | false => exact ((carryOut_fails env _ delivers).lost [_]).number numbered

end Books

/-- What the loop over the files of a command goes by stays as it is. -/
theorem carryOut_frame (env : Env) (engine : Engine) (numbered : Bool) (entry : Entry) :
    let outcome := (engine.number numbered).carryOut env entry.plan entry.sending
    outcome.2 = entry.delivers ∧ outcome.1.key = engine.key ∧
      outcome.1.recentFiles = engine.recentFiles ∧
      outcome.1.seq = if numbered then engine.seq + 1 else engine.seq := by
  have counted : (engine.number numbered).key = engine.key ∧
      (engine.number numbered).recentFiles = engine.recentFiles ∧
      (engine.number numbered).seq = if numbered then engine.seq + 1 else engine.seq := by
    cases numbered <;> exact ⟨rfl, rfl, rfl⟩
  obtain ⟨parcel, plan, sending⟩ := entry
  cases plan with
  | refuse output => exact ⟨rfl, counted⟩
  | upload payload report => exact ⟨rfl, counted⟩
  | post event hold row notice sha =>
      obtain ⟨holds, held, carried⟩ :=
        (engine.number numbered).carryOut_post env event hold row notice sha sending
      simp only [carried]
      cases delivered : sending.delivered <;> exact ⟨delivered.symm, counted⟩

variable {env : Env}

/-- Several pieces of content: the rest is handled when the first one did not meet a
dead socket. -/
theorem Books.chain (engine : Engine) (numbered : Bool) (entry : Entry)
    (proper : entry.plan.Proper) (rest : List Entry) (later : Engine → Engine × Bool)
    (others : ∀ next, next = ((engine.number numbered).carryOut env entry.plan entry.sending).1 →
      next.Books (later next).1 (bookings rest)) :
    engine.Books
      (match (engine.number numbered).carryOut env entry.plan entry.sending with
      | (next, true) => later next
      | (next, false) => (next, false)).1 (bookings (entry :: rest)) := by
  obtain ⟨channel, -⟩ := carryOut_frame env engine numbered entry
  rw [bookings]
  cases delivers : entry.delivers with
  | true =>
      have first := (Books.carryOut env (engine.number numbered) proper delivers).number numbered
      split
      next next outcome =>
        rw [outcome] at first
        exact first.trans (others next (by rw [outcome]))
      next next outcome =>
        rw [outcome, delivers] at channel
        cases channel
  | false =>
      have failed := (Books.carryOut_fails env (engine.number numbered) delivers).number numbered
      split
      next next outcome =>
        rw [outcome, delivers] at channel
        cases channel
      next next outcome =>
        rw [outcome] at failed
        exact failed.lost _

theorem sendFiles_books (engine : Engine) (threshold : Int)
    (documents : List (Document × Sending)) :
    engine.Books (engine.sendFiles env threshold documents).1
      (bookings
        (fileEntries env engine.key threshold engine.recentFiles engine.seq documents)) := by
  induction documents generalizing engine with
  | nil => exact .refl engine
  | cons pair rest ih =>
      obtain ⟨document, sending⟩ := pair
      rw [sendFiles, fileEntries]
      by_cases echo : engine.recentFiles.seen document.path sending.now = true
      · rw [if_pos echo, if_pos echo]
        exact ih engine
      · rw [if_neg echo, if_neg echo, sendFileClip_eq]
        let entry : Entry := ⟨.file document,
          filePlan env engine.key (engine.seq + 1) threshold document sending, sending⟩
        refine Books.chain engine document.metadata.isOk entry (filePlan_proper ..) _
          (fun next => sendFiles env threshold next rest) fun next same => ?_
        obtain ⟨-, key, recentFiles, seq⟩ :=
          carryOut_frame env engine document.metadata.isOk entry
        rw [← same] at key recentFiles seq
        rw [← key, ← recentFiles, ← seq]
        exact ih next

/-- Commands do what is booked for them. -/
theorem command_books (env : Env) (engine : Engine) (session : Session) (cmd : Cmd) :
    engine.Books (engine.command env session cmd) (bookings (engine.entries env session cmd)) := by
  have texts : ∀ text html sending why,
      engine.Books (settle why (engine.sendTextClip env session.maxMsg text html sending))
        (bookings
          [⟨.text text html,
            textPlan env engine.key (engine.seq + 1) session.maxMsg text html sending,
            sending⟩]) := by
    intro text html sending why
    rw [sendTextClip_eq]
    exact (Books.single env engine true _ sending (textPlan_proper ..)).settle why
  cases cmd with
  | localText text html exclude sending =>
      simp only [command, entries]
      by_cases echo : engine.recentText.seen (env.prims.sha256Hex (bytesOf text)) sending.now = true
      · rw [if_pos echo, if_pos echo]
        exact .refl engine
      · rw [if_neg echo, if_neg echo]
        cases (if exclude = true then env.classify text else none) with
        | some reason => exact Books.emit (Books.emit (.refl engine) rfl) rfl
        | none => exact texts _ _ _ _
  | sendText text sending => exact texts _ _ _ _
  | localImage picture sending =>
      simp only [command, entries]
      split_ifs
      · exact .refl engine
      · obtain ⟨numbered, same⟩ := spawnImageClip_eq env engine picture _ sending
        rw [same]
        exact Books.single env engine numbered _ sending (imagePlan_proper ..)
  | sendFile document sending =>
      simp only [command, entries]
      rw [sendFileClip_eq]
      exact (Books.single env engine _ _ sending (filePlan_proper ..)).settle _
  | localFiles documents => exact (engine.sendFiles_books session.threshold documents).settle _
  | setPool name delivered => exact Books.settle ((Books.refl engine).emit rfl) _

theorem fileEntries_proper (env : Env) (key : GroupKey) (threshold : Int) (recent : Dedup)
    (seq : Nat) (documents : List (Document × Sending)) :
    ∀ entry ∈ fileEntries env key threshold recent seq documents, entry.plan.Proper := by
  induction documents generalizing seq with
  | nil => simp [fileEntries]
  | cons pair rest ih =>
      obtain ⟨document, sending⟩ := pair
      intro entry listed
      rw [fileEntries] at listed
      by_cases echo : recent.seen document.path sending.now = true
      · rw [if_pos echo] at listed
        exact ih seq entry listed
      · rw [if_neg echo] at listed
        rcases List.mem_cons.mp listed with rfl | other
        · exact filePlan_proper ..
        · exact ih _ entry other

theorem entries_proper (env : Env) (engine : Engine) (session : Session) (cmd : Cmd) :
    ∀ entry ∈ engine.entries env session cmd, entry.plan.Proper := by
  intro entry listed
  cases cmd with
  | localText text html exclude sending =>
      simp only [entries] at listed
      split at listed
      · cases listed
      · split at listed
        · cases listed
        · cases List.mem_singleton.mp listed
          exact textPlan_proper ..
  | sendText text sending =>
      cases List.mem_singleton.mp listed
      exact textPlan_proper ..
  | localImage picture sending =>
      simp only [entries] at listed
      split at listed
      · cases listed
      · cases List.mem_singleton.mp listed
        exact imagePlan_proper ..
  | sendFile document sending =>
      cases List.mem_singleton.mp listed
      exact filePlan_proper ..
  | localFiles documents => exact fileEntries_proper _ _ _ _ _ _ entry listed
  | setPool name delivered => cases listed

end Engine

/-! ## The docket follows the engine -/

/-- The frame of an uploaded piece of content. -/
theorem map_event_of_report {entries : List Entry} {reports : List Upload}
    (same : entries.map Entry.report? = reports.map some) :
    entries.map Entry.event? = reports.map (some ·.event) := by
  have event : ∀ entry : Entry, ∀ report, entry.report? = some report →
      entry.event? = some report.event := by
    rintro ⟨parcel, plan, sending⟩ report found
    cases plan with
    | upload payload own =>
        cases found
        rfl
    | refuse | post => cases found
  induction entries generalizing reports with
  | nil =>
      cases reports with
      | nil => rfl
      | cons => cases same
  | cons entry rest ih =>
      cases reports with
      | nil => cases same
      | cons report others =>
          obtain ⟨first, remaining⟩ := List.cons.inj same
          rw [List.map_cons, List.map_cons, event entry report first, ih remaining]

theorem Engine.Logs.delivered {engine next : Engine} {outputs : List Output}
    (logs : engine.Logs next outputs) :
    next.log.filterMap Output.delivered? =
      engine.log.filterMap Output.delivered? ++ outputs.filterMap Output.delivered? := by
  obtain ⟨rest, quiet, same⟩ := logs
  have none : rest.filterMap Output.delivered? = [] := by
    refine List.filterMap_eq_nil_iff.mpr fun output listed => ?_
    have other := quiet output listed
    cases output with
    | clip => cases other
    | _ => rfl
  rw [same, List.filterMap_append, List.filterMap_append, none, List.append_nil]

theorem Engine.Logs.sublist {engine next : Engine} {outputs earlier later : List Output}
    (logs : engine.Logs next outputs) (before : earlier.Sublist engine.log)
    (shown : later.Sublist outputs) : (earlier ++ later).Sublist next.log := by
  obtain ⟨rest, -, same⟩ := logs
  rw [same]
  exact (before.append shown).trans (List.sublist_append_left ..)

theorem Engine.Logs.kept {engine next : Engine} {outputs earlier : List Output}
    (logs : engine.Logs next outputs) (before : earlier.Sublist engine.log) :
    earlier.Sublist next.log := by
  simpa using logs.sublist before (List.nil_sublist outputs)

theorem delivered_readverts (holds : Holds) (accepted : Nat) (stash : List Upload) :
    (readverts holds accepted stash).filterMap Output.delivered? =
      (stash.take accepted).map (·.event) := by
  induction stash generalizing accepted with
  | nil => cases accepted <;> rfl
  | cons report rest ih =>
      cases accepted with
      | zero => rfl
      | succ accepted =>
          rw [readverts, List.filterMap_append, ih]
          rfl

namespace Docket.Faithful

variable {env : Env} {docket : Docket} {next : Engine}

/-- Content that stays where it is. -/
theorem same (faithful : docket.Faithful)
    (progressed : docket.engine.Progressed next docket.engine.uploads docket.engine.outcomes
      docket.engine.pendingUploads []) : Faithful { docket with engine := next } := by
  obtain ⟨uploads, outcomes, pending, log⟩ := progressed
  obtain ⟨counted, shown, refusals⟩ := faithful.refused
  refine ⟨?_, ?_, ?_, ?_, counted, ?_, refusals⟩
  · simpa [log.delivered] using faithful.sent
  · exact faithful.uploading.trans (by rw [uploads])
  · exact faithful.results.trans (by rw [outcomes])
  · exact faithful.pending.trans (by rw [pending])
  · exact log.kept shown

theorem command (faithful : docket.Faithful) (session : Session) (cmd : Cmd) :
    Faithful { docket.account env (.command session cmd) with
      engine := docket.engine.command env session cmd } := by
  obtain ⟨uploads, outcomes, pending, outputs, log, sent, refused⟩ :=
    docket.engine.command_books env session cmd
  have shows : ∀ entry ∈ Custody.bound .refused (bookings (docket.engine.entries env session cmd)),
      ∃ output, entry.refusal? = some output ∧ output.refusal = true :=
    fun entry listed => refusal_of_bound (docket.engine.entries_proper env session cmd) listed
  obtain ⟨counted, shown, refusals⟩ := faithful.refused
  refine ⟨?_, ?_, ?_, ?_, ?_, ?_, ?_⟩
  · simp [account, log, faithful.sent, ← sent]
  · simp [account, uploads, faithful.uploading]
  · simp [account, outcomes, faithful.results, bound_bookings (.inl rfl)]
  · simp [account, pending, faithful.pending, bound_bookings (.inr rfl)]
  · have all : ((Custody.bound .refused
        (bookings (docket.engine.entries env session cmd))).filterMap Entry.refusal?).length =
        (Custody.bound .refused (bookings (docket.engine.entries env session cmd))).length := by
      refine List.filterMap_length_eq_length.mpr fun entry listed => ?_
      obtain ⟨output, found, -⟩ := shows entry listed
      rw [found, Option.isSome_some]
    simp [account, counted, all]
  · simp only [account, log]
    exact shown.append refused
  · intro output listed
    rcases List.mem_append.mp listed with old | new
    · exact refusals output old
    · obtain ⟨entry, booked, found⟩ := List.mem_filterMap.mp new
      obtain ⟨other, also, refusal⟩ := shows entry booked
      rw [found] at also
      cases also
      exact refusal

theorem finish (faithful : docket.Faithful) {position : Nat} {report : Upload}
    {outcome : Except String Unit} (found : docket.engine.uploads[position]? = some report)
    (progressed : docket.engine.Progressed next (docket.engine.uploads.eraseIdx position)
      (docket.engine.outcomes ++ [(outcome, report)]) docket.engine.pendingUploads []) :
    Faithful { docket.account env (.finish position report outcome) with engine := next } := by
  obtain ⟨uploads, outcomes, pending, log⟩ := progressed
  obtain ⟨counted, shown, refusals⟩ := faithful.refused
  have items : ((docket.custody .uploading).map (·.2)).map Entry.report? =
      docket.engine.uploads.map some := faithful.uploading
  have apart : Place.uploading ≠ .results := by decide
  refine ⟨?_, ?_, ?_, ?_, ?_, ?_, refusals⟩
  · simpa [account, log.delivered] using faithful.sent
  · simp only [account]
    rw [Custody.items_move_source apart, uploads, ← List.eraseIdx_map, ← List.eraseIdx_map, items,
      List.eraseIdx_map]
  · have listed : (docket.engine.uploads.map some)[position]? = some (some report) := by
      rw [List.getElem?_map, found]
      rfl
    have moved : (((docket.custody .uploading)[position]?.toList).map (·.2)).map Entry.report? =
        [some report] := by
      rw [List.map_map] at items ⊢
      exact Custody.map_position items listed
    simp only [account, Custody.items_move_target, List.map_append, moved, outcomes,
      faithful.results]
    rfl
  · simpa [account, pending] using faithful.pending
  · simpa [account] using counted
  · exact log.kept shown

/-- The first result of an upload in the channel is the docket's. -/
theorem head (faithful : docket.Faithful) {outcome : Except String Unit} {report : Upload}
    {rest : List (Except String Unit × Upload)}
    (first : docket.engine.outcomes = (outcome, report) :: rest) :
    (((docket.custody .results).take 1).map (·.2)).map Entry.report? = [some report] ∧
      (((docket.custody .results).drop 1).map (·.2)).map Entry.report? = rest.map (some ·.2) := by
  have items : ((docket.custody .results).map (·.2)).map Entry.report? =
      some report :: rest.map (some ·.2) := by
    rw [← Custody.items, faithful.results, first]
    rfl
  rw [List.map_take, List.map_take, List.map_drop, List.map_drop, items]
  exact ⟨rfl, rfl⟩

theorem advertise (faithful : docket.Faithful) {report : Upload}
    {rest : List (Except String Unit × Upload)}
    (first : docket.engine.outcomes = (.ok (), report) :: rest)
    (progressed : docket.engine.Progressed next docket.engine.uploads rest
      docket.engine.pendingUploads (report.posted docket.engine.holds)) :
    Faithful { docket.account env (.settle report (.ok ()) true) with engine := next } := by
  obtain ⟨uploads, outcomes, pending, log⟩ := progressed
  obtain ⟨counted, shown, refusals⟩ := faithful.refused
  obtain ⟨taken, left⟩ := faithful.head first
  have apart : Place.results ≠ .sent := by decide
  refine ⟨?_, ?_, ?_, ?_, ?_, ?_, refusals⟩
  · have frame := map_event_of_report (taken.trans (List.map_singleton (f := some)).symm)
    simp only [account, Custody.items_move_target, List.map_append, frame, log.delivered,
      faithful.sent]
    rfl
  · simpa [account, uploads] using faithful.uploading
  · simp only [account]
    rw [Custody.items_move_source apart, left, outcomes]
  · simpa [account, pending] using faithful.pending
  · simpa [account] using counted
  · exact log.kept shown

theorem stash (faithful : docket.Faithful) {report : Upload}
    {rest : List (Except String Unit × Upload)}
    (first : docket.engine.outcomes = (.ok (), report) :: rest)
    (progressed : docket.engine.Progressed next docket.engine.uploads rest
      (docket.engine.pendingUploads ++ [report])
      [.clip report.event (docket.engine.holds.get? report.event.blobId) false]) :
    Faithful { docket.account env (.settle report (.ok ()) false) with engine := next } := by
  obtain ⟨uploads, outcomes, pending, log⟩ := progressed
  obtain ⟨counted, shown, refusals⟩ := faithful.refused
  obtain ⟨taken, left⟩ := faithful.head first
  have apart : Place.results ≠ .pending := by decide
  refine ⟨?_, ?_, ?_, ?_, ?_, ?_, refusals⟩
  · have failed : [Output.clip report.event (docket.engine.holds.get? report.event.blobId)
        false].filterMap Output.delivered? = [] := rfl
    simpa [account, log.delivered, failed] using faithful.sent
  · simpa [account, uploads] using faithful.uploading
  · simp only [account]
    rw [Custody.items_move_source apart, left, outcomes]
  · simp only [account, Custody.items_move_target, List.map_append, taken, pending,
      faithful.pending]
    rfl
  · simpa [account] using counted
  · exact log.kept shown

theorem fail (faithful : docket.Faithful) {report : Upload} {message : String} (delivered : Bool)
    {rest : List (Except String Unit × Upload)}
    (first : docket.engine.outcomes = (.error message, report) :: rest)
    (progressed : docket.engine.Progressed next docket.engine.uploads rest
      docket.engine.pendingUploads
      [if report.errViaError then .error message else .notify message]) :
    Faithful { docket.account env (.settle report (.error message) delivered) with
      engine := next } := by
  obtain ⟨uploads, outcomes, pending, log⟩ := progressed
  obtain ⟨counted, shown, refusals⟩ := faithful.refused
  obtain ⟨taken, left⟩ := faithful.head first
  have apart : Place.results ≠ .refused := by decide
  refine ⟨?_, ?_, ?_, ?_, ?_, ?_, ?_⟩
  · have silent : (if report.errViaError = true then Output.error message
        else .notify message).delivered? = none := by
      cases report.errViaError <;> rfl
    simpa [account, log.delivered, silent] using faithful.sent
  · simpa [account, uploads] using faithful.uploading
  · simp only [account]
    rw [Custody.items_move_source apart, left, outcomes]
  · simpa [account, pending] using faithful.pending
  · have one := congrArg List.length taken
    simp only [List.length_map, List.length_singleton] at one
    simp only [account, Custody.items_move_target, List.length_append, List.length_map, counted,
      one, List.length_singleton]
  · simpa [account] using log.sublist shown (.refl _)
  · intro output listed
    rcases List.mem_append.mp listed with old | new
    · exact refusals output old
    · cases List.mem_singleton.mp new
      cases report.errViaError <;> rfl

theorem readvertise (faithful : docket.Faithful) {accepted : Nat}
    (progressed : docket.engine.Progressed next docket.engine.uploads docket.engine.outcomes
      (docket.engine.pendingUploads.drop accepted)
      (readverts docket.engine.holds accepted docket.engine.pendingUploads)) :
    Faithful { docket.account env (.readvertise accepted) with engine := next } := by
  obtain ⟨uploads, outcomes, pending, log⟩ := progressed
  obtain ⟨counted, shown, refusals⟩ := faithful.refused
  have items : ((docket.custody .pending).map (·.2)).map Entry.report? =
      docket.engine.pendingUploads.map some := faithful.pending
  have apart : Place.pending ≠ .sent := by decide
  refine ⟨?_, ?_, ?_, ?_, ?_, ?_, refusals⟩
  · have moved : (((docket.custody .pending).take accepted).map (·.2)).map Entry.report? =
        (docket.engine.pendingUploads.take accepted).map some := by
      rw [List.map_take, List.map_take, items, List.map_take]
    simp only [account, Custody.items_move_target, List.map_append, map_event_of_report moved,
      log.delivered, faithful.sent, delivered_readverts, List.map_map]
    rfl
  · simpa [account, uploads] using faithful.uploading
  · simpa [account, outcomes] using faithful.results
  · simp only [account]
    rw [Custody.items_move_source apart, List.map_drop, List.map_drop, items, pending,
      List.map_drop]
  · simpa [account] using counted
  · exact log.kept shown

/-- One case analysis over what a turn means for content. -/
theorem advance (faithful : docket.Faithful) {progress : Progress}
    (advances : docket.engine.Advances env next progress) :
    Faithful { docket.account env progress with engine := next } := by
  match progress with
  | .none => exact faithful.same advances
  | .command session cmd =>
      cases advances
      exact faithful.command session cmd
  | .finish position report outcome => exact faithful.finish advances.1 advances.2
  | .settle report (.ok ()) true =>
      obtain ⟨rest, first, progressed⟩ := advances
      exact faithful.advertise first progressed
  | .settle report (.ok ()) false =>
      obtain ⟨rest, first, progressed⟩ := advances
      exact faithful.stash first progressed
  | .settle report (.error message) delivered =>
      obtain ⟨rest, first, progressed⟩ := advances
      exact faithful.fail delivered first progressed
  | .readvertise accepted => exact faithful.readvertise advances

end Docket.Faithful

namespace Docket

variable {env : Env} {config : Config} {docket : Docket}

theorem Faithful.start (env : Env) (config : Config) : (Docket.start env config).Faithful where
  sent := rfl
  uploading := rfl
  results := rfl
  pending := rfl
  refused := ⟨rfl, .slnil, fun output listed => by cases listed⟩

theorem exact_account (exact : docket.custody.Exact docket.taken) (progress : Progress) :
    (docket.account env progress).custody.Exact (docket.account env progress).taken := by
  match progress with
  | .none => exact exact
  | .command session cmd =>
      have received := exact.receiveAll (bookings (docket.engine.entries env session cmd))
      rwa [map_bookings] at received
  | .finish position report outcome =>
      exact exact.move (by decide) (Custody.perm_eraseIdx _ position)
  | .settle report (.ok ()) true => exact exact.move (by decide) (Custody.perm_drop_take _ 1)
  | .settle report (.ok ()) false => exact exact.move (by decide) (Custody.perm_drop_take _ 1)
  | .settle report (.error message) delivered =>
      exact exact.move (by decide) (Custody.perm_drop_take _ 1)
  | .readvertise accepted => exact exact.move (by decide) (Custody.perm_drop_take _ accepted)

/-- Content is lost only by the command arm. -/
theorem lost_account (none : docket.custody.items .lost = []) {action : Action}
    (delivers : docket.delivers env action = true) :
    (docket.account env (docket.engine.progress action)).custody.items .lost = [] := by
  rw [Docket.delivers] at delivers
  generalize docket.engine.progress action = progress at delivers
  match progress with
  | .none => exact none
  | .command session cmd =>
      simp only [account, Custody.items_receiveAll, none, bound_lost_of_delivers delivers,
        List.nil_append]
  | .finish position report outcome => simpa [account] using none
  | .settle report (.ok ()) true => simpa [account] using none
  | .settle report (.ok ()) false => simpa [account] using none
  | .settle report (.error message) delivered => simpa [account] using none
  | .readvertise accepted => simpa [account] using none

theorem survives_of_exact (exact : docket.custody.Exact docket.taken)
    (none : docket.custody.items .lost = []) : docket.Survives := by
  refine ⟨fun tag entry known => ?_, exact.once⟩
  obtain ⟨place, listed, only⟩ := exact.unique known
  have kept : place ≠ .lost := by
    rintro rfl
    rw [List.map_eq_nil_iff.mp none] at listed
    cases listed
  exact ⟨place, ⟨kept, listed⟩, fun other also => only other also.2⟩

/-- What every turn keeps while the command arm can send. -/
structure Sound (docket : Docket) : Prop where
  faithful : docket.Faithful
  exact : docket.custody.Exact docket.taken
  none : docket.custody.items .lost = []

theorem Sound.step (sound : docket.Sound) {action : Action} {after : Docket}
    (delivers : docket.delivers env action = true)
    (stepped : docket.step env action = some after) : after.Sound := by
  obtain ⟨engine, moved, rfl⟩ := Option.map_eq_some_iff.mp stepped
  exact ⟨sound.faithful.advance (Engine.advances_of_step moved), exact_account sound.exact _,
    lost_account sound.none delivers⟩

/-- In every run in which the frames of the command arm meet a working socket, every
piece of content taken from the command channel is sent once, refused with an output
that shows it, or held. -/
theorem content_survives
    (run : Run (Docket.step env) (fun docket action => docket.delivers env action = true)
      (Docket.start env config) docket) : docket.Faithful ∧ docket.Survives := by
  have sound : docket.Sound := run.invariant ⟨Faithful.start env config, .empty, rfl⟩
    fun sound delivers stepped => sound.step delivers stepped
  exact ⟨sound.faithful, survives_of_exact sound.exact sound.none⟩

/-- A text is taken from the command channel, the link is found dead when its frame is
sent, and the next connection knows nothing of it. -/
theorem text_lost_with_link :
    ¬∀ (env : Env) (config : Config) (docket : Docket),
      Reachable (Docket.step env) (Docket.start env config) docket → docket.Survives := by
  intro claim
  obtain ⟨docket, reached, checked⟩ := Reachable.exists_of_exec (Docket.step demoEnv)
    (Docket.start demoEnv demoConfig)
    [.connect ⟨0, 0⟩ 0 0,
      .command (.sendText "hi" { demoSending Reference.text with delivered := false }),
      .connect ⟨0, 0⟩ 0 1]
    (fun docket => decide (docket.taken.length = 1 ∧ ∀ place ∈ [Place.sent, .uploading, .results,
      .pending, .refused], docket.custody.tags place = []))
    (by decide +kernel)
  obtain ⟨one, empty⟩ := of_decide_eq_true checked
  obtain ⟨entry, known⟩ : ∃ entry, docket.taken[0]? = some entry :=
    ⟨_, List.getElem?_eq_getElem (by omega)⟩
  obtain ⟨place, ⟨kept, listed⟩, -⟩ := (claim demoEnv demoConfig docket reached).1 0 entry known
  have tagged := Custody.mem_tags listed
  cases place with
  | lost => exact kept rfl
  | sent | uploading | results | pending | refused =>
      rw [empty _ (by simp)] at tagged
      cases tagged

/-- A text is sent, an image that cannot be encoded is refused, and a file is uploaded
whose frame then meets a dead socket. -/
theorem content_after_dead_link :
    ∃ docket, Run (Docket.step demoEnv) (fun docket action => docket.delivers demoEnv action = true)
        (Docket.start demoEnv demoConfig) docket ∧
      docket.custody.tags .sent = [0] ∧ docket.custody.tags .refused = [1] ∧
      docket.custody.tags .pending = [2] ∧ docket.Faithful ∧ docket.Survives := by
  obtain ⟨docket, reached, checked⟩ := Run.exists_of_execWhen (Docket.step demoEnv)
    (Docket.delivers demoEnv) (Docket.start demoEnv demoConfig)
    [.connect ⟨0, 0⟩ 0 0, .command (.sendText "hi" (demoSending Reference.text)),
      .command (.localImage ⟨[], .error "empty", none⟩ (demoSending Reference.image)),
      .command (.localFiles [(⟨"/home/u/a.bin", .ok 3, .ok Reference.file.plain⟩,
        demoSending Reference.file)]),
      .finish 0 (.ok []), .result false demoApplying]
    (fun docket => decide (docket.custody.tags .sent = [0] ∧ docket.custody.tags .refused = [1] ∧
      docket.custody.tags .pending = [2]))
    (by decide +kernel)
  obtain ⟨sent, refused, pending⟩ := of_decide_eq_true checked
  obtain ⟨faithful, survives⟩ := content_survives reached
  exact ⟨docket, reached, sent, refused, pending, faithful, survives⟩

end Docket

end CopySync.Desktop
