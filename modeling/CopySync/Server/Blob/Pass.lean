import CopySync.Server.Blob.GC

/-!
# A collector pass, step by step

`runGC` is a pass that nothing interrupts.  The daemon runs it on a goroutine of its
own: each of its reads, file removals and record deletions is one step, and the other
goroutines run in between.  The clock, the pins and the records are read once; a file
is looked up when its record is visited.
-/

namespace CopySync.Server

open Foundation

/-- Whether an entry has been idle for longer than the time to live. -/
def GCConfig.expires (cfg : GCConfig) (entry : BlobEntry) : Bool :=
  decide (0 < cfg.blobTTL ∧ cfg.blobTTL < cfg.now.sub entry.lastAccess)

/-- The two loops of a pass, at their heads: the entries left, and the usage the second
loop has still to bring down. -/
inductive PassLoop where
  | expiring (rest : List BlobEntry)
  | evicting (rest : List BlobEntry) (usage : Int)
  deriving DecidableEq, Repr

/-- What a pass does next: list the records, visit the head of a loop, remove a file, or
delete the record of a file that is gone.  Only a removed file counts as deleted. -/
inductive PassStage where
  | listing
  | looping (loop : PassLoop)
  | removing (id : BlobID) (loop : PassLoop)
  | forgetting (id : BlobID) (counted : Bool) (loop : PassLoop)
  deriving DecidableEq, Repr

/-- A pass between two of its steps, with the snapshot it works from. -/
structure Pass where
  cfg : GCConfig
  pinned : List BlobID
  survivors : List BlobEntry
  deleted : Nat
  stage : PassStage

/-- One step as the rest of the daemon sees it. -/
inductive PassStep where
  | goes (pass : Pass)
  | removes (path : Path) (pass : Pass)
  | forgets (id : BlobID) (pass : Pass)
  | returns (deleted : Nat)
  | panics

/-- The pass after a step it does not end with. -/
def PassStep.pass? : PassStep → Option Pass
  | .goes pass | .removes _ pass | .forgets _ pass => some pass
  | .returns _ | .panics => none

namespace Pass

/-- A pass begins by reading the pin set. -/
def start (cfg : GCConfig) (store : Store) : Pass where
  cfg
  pinned := store.allQueuedBlobIDs
  survivors := []
  deleted := 0
  stage := .listing

def moved (pass : Pass) (stage : PassStage) : Pass := { pass with stage }

/-- The entry stays. -/
def keep (pass : Pass) (entry : BlobEntry) (rest : List BlobEntry) : Pass :=
  { pass with survivors := pass.survivors ++ [entry], stage := .looping (.expiring rest) }

def evictable (pass : Pass) : List BlobEntry :=
  pass.survivors.filter fun entry => entry.id ∉ pass.pinned

section Steps

variable {σ : Type} (fs : Filesystem σ) (root : Path) (sorter : AccessSorter)

/-- The step a pass takes next.  `measured` is what `DiskUsage` reports should it be
asked: its walk over the directory is not atomic. -/
def next (pass : Pass) (store : Store) (disk : σ) (measured : Int) : PassStep :=
  match pass.stage with
  | .listing => .goes (pass.moved (.looping (.expiring store.listBlobEntries)))
  | .looping (.expiring (entry :: rest)) =>
      if entry.id ∈ pass.pinned then .goes (pass.keep entry rest)
      else
        match pathFor root entry.id with
        | none => .panics
        | some path =>
            if (fs.stat disk path).isNone then
              .goes (pass.moved (.forgetting entry.id false (.expiring rest)))
            else if pass.cfg.expires entry then
              .goes (pass.moved (.removing entry.id (.expiring rest)))
            else .goes (pass.keep entry rest)
  | .looping (.expiring []) =>
      if 0 < pass.cfg.storeCap ∧ pass.cfg.storeCap < measured then
        .goes (pass.moved (.looping (.evicting (sorter.sort pass.evictable) measured)))
      else .returns pass.deleted
  | .looping (.evicting [] _) => .returns pass.deleted
  | .looping (.evicting (entry :: rest) usage) =>
      if usage ≤ pass.cfg.storeCap then .returns pass.deleted
      else if entry.size = 0 then
        match pathFor root entry.id with
        | none => .panics
        | some path =>
            .goes (pass.moved (.removing entry.id
              (.evicting rest (usage - (fs.stat disk path).getD 0))))
      else .goes (pass.moved (.removing entry.id (.evicting rest (usage - entry.size))))
  | .removing id loop =>
      match pathFor root id with
      | none => .panics
      | some path => .removes path (pass.moved (.forgetting id true loop))
  | .forgetting id counted loop =>
      .forgets id { pass with
        deleted := if counted then pass.deleted + 1 else pass.deleted
        stage := .looping loop }

end Steps

/-! ## What is left to remove -/

/-- Whether the first loop, or later the second, may remove the file of an entry still to
be visited. -/
def threatens (pass : Pass) (entry : BlobEntry) : Bool :=
  decide (entry.id ∉ pass.pinned) &&
    (pass.cfg.expires entry || decide (0 < pass.cfg.storeCap))

def aheadIn (pass : Pass) : PassLoop → List BlobID
  | .expiring rest =>
      ((rest.filter pass.threatens) ++
        pass.evictable.filter fun _ => decide (0 < pass.cfg.storeCap)).map (·.id)
  | .evicting rest usage => if usage ≤ pass.cfg.storeCap then [] else rest.map (·.id)

/-- The ids whose files the pass may still remove, by the records it has listed. -/
def ahead (pass : Pass) : List BlobID :=
  match pass.stage with
  | .listing => []
  | .looping loop => pass.aheadIn loop
  | .removing id loop => id :: pass.aheadIn loop
  | .forgetting _ _ loop => pass.aheadIn loop

/-- Two ids name one file. -/
def sharesFile (root : Path) (left right : BlobID) : Bool :=
  (pathFor root left).any fun path => decide (pathFor root right = some path)

/-- Whether the pass may still remove the file of a blob. -/
def reaches (root : Path) (pass : Pass) (id : BlobID) : Bool :=
  pass.ahead.any fun candidate => sharesFile root candidate id

@[simp] theorem aheadIn_moved (pass : Pass) (stage : PassStage) (loop : PassLoop) :
    (pass.moved stage).aheadIn loop = pass.aheadIn loop := rfl

@[simp] theorem mem_aheadIn_expiring {pass : Pass} {rest : List BlobEntry} {id : BlobID} :
    id ∈ pass.aheadIn (.expiring rest) ↔
      ∃ entry, (entry ∈ rest ∧ pass.threatens entry = true ∨
        entry ∈ pass.evictable ∧ 0 < pass.cfg.storeCap) ∧ entry.id = id := by
  simp only [aheadIn, List.mem_map, List.mem_append, List.mem_filter, decide_eq_true_eq]

@[simp] theorem mem_aheadIn_evicting {pass : Pass} {rest : List BlobEntry} {usage : Int}
    {id : BlobID} :
    id ∈ pass.aheadIn (.evicting rest usage) ↔
      ¬usage ≤ pass.cfg.storeCap ∧ ∃ entry ∈ rest, entry.id = id := by
  rw [aheadIn]
  split_ifs with under
  · simp [under]
  · simp [under]

/-- What is ahead once an entry was visited was ahead before. -/
theorem mem_aheadIn_expiring_cons {pass : Pass} (entry : BlobEntry) {rest : List BlobEntry}
    {id : BlobID} (ahead : id ∈ pass.aheadIn (.expiring rest)) :
    id ∈ pass.aheadIn (.expiring (entry :: rest)) := by
  obtain ⟨found, later | survivor, rfl⟩ := mem_aheadIn_expiring.mp ahead
  · exact mem_aheadIn_expiring.mpr ⟨found, .inl ⟨List.mem_cons_of_mem _ later.1, later.2⟩, rfl⟩
  · exact mem_aheadIn_expiring.mpr ⟨found, .inr survivor, rfl⟩

theorem mem_aheadIn_evicting_cons {pass : Pass} {entry : BlobEntry} {rest : List BlobEntry}
    {usage lower : Int} {id : BlobID} (exceeded : ¬usage ≤ pass.cfg.storeCap)
    (ahead : id ∈ (pass.moved (.removing entry.id (.evicting rest lower))).ahead) :
    id ∈ pass.aheadIn (.evicting (entry :: rest) usage) := by
  rcases List.mem_cons.mp ahead with rfl | ahead
  · exact mem_aheadIn_evicting.mpr ⟨exceeded, entry, List.mem_cons_self, rfl⟩
  · obtain ⟨-, found, membership, rfl⟩ := mem_aheadIn_evicting.mp ahead
    exact mem_aheadIn_evicting.mpr ⟨exceeded, found, List.mem_cons_of_mem _ membership, rfl⟩

theorem reaches_of_ahead {root : Path} {pass : Pass} {candidate id : BlobID} {path : Path}
    (ahead : candidate ∈ pass.ahead) (candidatePath : pathFor root candidate = some path)
    (path_eq : pathFor root id = some path) : pass.reaches root id = true :=
  List.any_eq_true.mpr ⟨candidate, ahead, by simp [sharesFile, candidatePath, path_eq]⟩

theorem reaches_mono {root : Path} {pass later : Pass} {id : BlobID}
    (shrinks : ∀ candidate ∈ later.ahead, candidate ∈ pass.ahead)
    (reached : later.reaches root id = true) : pass.reaches root id = true := by
  obtain ⟨candidate, ahead, shares⟩ := List.any_eq_true.mp reached
  exact List.any_eq_true.mpr ⟨candidate, shrinks candidate ahead, shares⟩

theorem evictable_keep (pass : Pass) (entry : BlobEntry) (rest : List BlobEntry) :
    (pass.keep entry rest).evictable =
      pass.evictable ++ [entry].filter fun entry => entry.id ∉ pass.pinned :=
  List.filter_append _ _

/-- Keeping an entry moves it from the entries left to the survivors. -/
theorem ahead_keep {pass : Pass} {entry : BlobEntry} {rest : List BlobEntry} {candidate : BlobID}
    (ahead : candidate ∈ (pass.keep entry rest).ahead) :
    candidate ∈ pass.aheadIn (.expiring (entry :: rest)) := by
  obtain ⟨found, later | ⟨survivor, capped⟩, rfl⟩ := mem_aheadIn_expiring.mp ahead
  · exact mem_aheadIn_expiring.mpr ⟨found, .inl ⟨List.mem_cons_of_mem _ later.1, later.2⟩, rfl⟩
  · refine mem_aheadIn_expiring.mpr ⟨found, ?_, rfl⟩
    rw [evictable_keep] at survivor
    rcases List.mem_append.mp survivor with old | new
    · exact .inr ⟨old, capped⟩
    · obtain ⟨same, unpinned⟩ := List.mem_filter.mp new
      cases List.mem_singleton.mp same
      have exceeded : 0 < pass.cfg.storeCap := capped
      exact .inl ⟨List.mem_cons_self, by simpa [threatens, exceeded] using unpinned⟩

section Steps

variable {σ : Type} {fs : Filesystem σ} {root : Path} {sorter : AccessSorter}
variable {pass later : Pass} {store : Store} {disk : σ} {measured : Int}

/-- How a pass goes on after a step: the records are listed, or nothing new is ahead. -/
def Continues (store : Store) (pass later : Pass) : Prop :=
  (pass.stage = .listing ∧ later = pass.moved (.looping (.expiring store.listBlobEntries))) ∨
    ∀ candidate ∈ later.ahead, candidate ∈ pass.ahead

/-- Steps after which the pass goes on. -/
theorem next_continues
    (stepped : (pass.next fs root sorter store disk measured).pass? = some later) :
    Continues store pass later := by
  rw [next] at stepped
  split at stepped
  next stage =>
    cases stepped
    exact .inl ⟨stage, rfl⟩
  next entry rest stage =>
    -- The entry is kept, or named as the one whose file or record goes next.
    have kept : Continues store pass (pass.keep entry rest) := .inr fun candidate ahead => by
      simpa [Pass.ahead, stage] using ahead_keep ahead
    split at stepped
    next =>
      cases stepped
      exact kept
    next unpinned =>
      split at stepped
      next => cases stepped
      next path found =>
        split_ifs at stepped with vanished expires
        · cases stepped
          refine .inr fun candidate ahead => ?_
          simp only [Pass.ahead, stage]
          exact mem_aheadIn_expiring_cons entry ahead
        · cases stepped
          refine .inr fun candidate ahead => ?_
          simp only [Pass.ahead, stage]
          rcases List.mem_cons.mp ahead with rfl | ahead
          · exact mem_aheadIn_expiring.mpr
              ⟨entry, .inl ⟨List.mem_cons_self, by simp [threatens, unpinned, expires]⟩, rfl⟩
          · exact mem_aheadIn_expiring_cons entry ahead
        · cases stepped
          exact kept
  next stage =>
    split_ifs at stepped with exceeded
    · cases stepped
      refine .inr fun candidate ahead => ?_
      obtain ⟨-, found, membership, rfl⟩ := mem_aheadIn_evicting.mp ahead
      have evictable : found ∈ pass.evictable := (sorter.perm _).subset membership
      simp only [Pass.ahead, stage]
      exact mem_aheadIn_expiring.mpr ⟨found, .inr ⟨evictable, exceeded.1⟩, rfl⟩
    · cases stepped
  next => cases stepped
  next entry rest usage stage =>
    have left : ∀ {lower : Int} {candidate : BlobID}, ¬usage ≤ pass.cfg.storeCap →
        candidate ∈ (pass.moved (.removing entry.id (.evicting rest lower))).ahead →
        candidate ∈ pass.ahead := by
      intro lower candidate exceeded ahead
      simp only [Pass.ahead, stage]
      exact mem_aheadIn_evicting_cons exceeded ahead
    split_ifs at stepped with under unsized
    · cases stepped
    · split at stepped
      next => cases stepped
      next =>
        cases stepped
        exact .inr fun candidate => left under
    · cases stepped
      exact .inr fun candidate => left under
  next id loop stage =>
    split at stepped
    next => cases stepped
    next =>
      cases stepped
      refine .inr fun candidate ahead => ?_
      simp only [Pass.ahead, stage]
      exact List.mem_cons_of_mem _ ahead
  next id counted loop stage =>
    cases stepped
    refine .inr fun candidate ahead => ?_
    simp only [Pass.ahead, stage]
    exact ahead

/-- A removal is of the file of the id the pass has named, which was ahead. -/
theorem next_removes {path : Path}
    (stepped : pass.next fs root sorter store disk measured = .removes path later) :
    ∃ id ∈ pass.ahead, pathFor root id = some path := by
  cases stage : pass.stage with
  | listing => simp [next, stage] at stepped
  | removing id loop =>
      simp only [next, stage] at stepped
      split at stepped
      next => cases stepped
      next found =>
        cases stepped
        exact ⟨id, by simp [Pass.ahead, stage], found⟩
  | forgetting id counted loop => simp [next, stage] at stepped
  | looping loop =>
      cases loop with
      | expiring entries =>
          cases entries with
          | nil =>
              simp only [next, stage] at stepped
              split_ifs at stepped
          | cons entry rest =>
              simp only [next, stage] at stepped
              split at stepped
              next => cases stepped
              next =>
                split at stepped
                next => cases stepped
                next => split_ifs at stepped
      | evicting entries usage =>
          cases entries with
          | nil => simp [next, stage] at stepped
          | cons entry rest =>
              simp only [next, stage] at stepped
              split_ifs at stepped
              split at stepped
              next => cases stepped
              next => cases stepped

end Steps

end Pass

end CopySync.Server
