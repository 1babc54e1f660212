import CopySync.Server.Types

/-!
# Desktop client: who is online

The roster a client shows is the one of its greeting, corrected by every presence
frame that follows.
-/

namespace CopySync.Desktop

open Server

structure RosterDevice where
  id : String
  name : String
  online : Bool
  deriving DecidableEq, Repr

def setRoster (devices : List DeviceInfo) : List RosterDevice :=
  devices.map fun info => ⟨info.device.id, info.device.name, info.online⟩

/-- Update the first entry of the device, or append one. -/
def applyPresence (presence : Presence) : List RosterDevice → List RosterDevice
  | [] => [⟨presence.device.id, presence.device.name, presence.online⟩]
  | entry :: rest =>
      if entry.id = presence.device.id then
        { entry with online := presence.online, name := presence.device.name } :: rest
      else entry :: applyPresence presence rest

/-- What a frame does to the roster. -/
def rosterStep (roster : List RosterDevice) : Server.Frame → List RosterDevice
  | .helloOK hello => setRoster hello.roster
  | .presence payload => applyPresence payload roster
  | _ => roster

/-- The roster after a connection's frames, on top of the one shown before it. -/
def rosterAfter (shown : List RosterDevice) (frames : List Server.Frame) : List RosterDevice :=
  frames.foldl rosterStep shown

/-- One entry a device. -/
def Distinct (roster : List RosterDevice) : Prop := (roster.map (·.id)).Nodup

variable {presence : Presence} {roster : List RosterDevice} {entry : RosterDevice}

theorem id_of_mem_applyPresence (listed : entry ∈ applyPresence presence roster) :
    entry.id = presence.device.id ∨ entry ∈ roster := by
  induction roster with
  | nil =>
      cases List.mem_singleton.mp listed
      exact .inl rfl
  | cons head rest ih =>
      rw [applyPresence] at listed
      split_ifs at listed with same
      · rcases List.mem_cons.mp listed with rfl | old
        · exact .inl same
        · exact .inr (.tail _ old)
      · rcases List.mem_cons.mp listed with rfl | later
        · exact .inr (.head _)
        · exact (ih later).imp_right (.tail _)

theorem Distinct.applyPresence (distinct : Distinct roster) :
    Distinct (applyPresence presence roster) := by
  induction roster with
  | nil => exact List.pairwise_singleton _ _
  | cons head rest ih =>
      obtain ⟨fresh, restDistinct⟩ := List.nodup_cons.mp distinct
      rw [Desktop.applyPresence]
      split_ifs with same
      · exact distinct
      · refine List.nodup_cons.mpr ⟨?_, ih restDistinct⟩
        intro listed
        obtain ⟨entry, member, equal⟩ := List.mem_map.mp listed
        rcases id_of_mem_applyPresence member with announced | old
        · exact same (equal.symm.trans announced)
        · exact fresh (List.mem_map.mpr ⟨entry, old, equal⟩)

/-- After a presence frame the entry of its device says what the frame says, and every
other entry is an old one. -/
theorem mem_applyPresence (distinct : Distinct roster)
    (listed : entry ∈ applyPresence presence roster) :
    entry.id = presence.device.id ∧ entry.online = presence.online ∨
      entry.id ≠ presence.device.id ∧ entry ∈ roster := by
  induction roster with
  | nil =>
      cases List.mem_singleton.mp listed
      exact .inl ⟨rfl, rfl⟩
  | cons head rest ih =>
      obtain ⟨fresh, restDistinct⟩ := List.nodup_cons.mp distinct
      rw [applyPresence] at listed
      split_ifs at listed with same
      · rcases List.mem_cons.mp listed with rfl | old
        · exact .inl ⟨same, rfl⟩
        · refine .inr ⟨fun equal => fresh ?_, .tail _ old⟩
          exact List.mem_map.mpr ⟨entry, old, equal.trans same.symm⟩
      · rcases List.mem_cons.mp listed with rfl | later
        · exact .inr ⟨same, .head _⟩
        · exact (ih restDistinct later).imp_right fun other => ⟨other.1, .tail _ other.2⟩

end CopySync.Desktop
