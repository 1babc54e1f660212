import CopySync.Foundation.Path
import CopySync.Foundation.Unicode

/-!
# Names of directory entries

A text names an entry of a directory when it is not empty, not `.` or `..`, and has no
slash.  Joining such a text to a directory appends it as one component.
-/

namespace CopySync.Foundation

def IsFileName (name : List UInt8) : Prop :=
  name ≠ [] ∧ name ≠ [46] ∧ name ≠ [46, 46] ∧ (47 : UInt8) ∉ name

instance (name : List UInt8) : Decidable (IsFileName name) :=
  inferInstanceAs (Decidable (_ ∧ _ ∧ _ ∧ _))

/-- The entry of a directory with a name. -/
def Path.child (path : Path) (name : List UInt8) : Path :=
  { path with components := path.components ++ [name] }

theorem Path.join_fileName (path : Path) {name : List UInt8} (plain : IsFileName name) :
    path.join name = path.child name := by
  obtain ⟨nonempty, notDot, notDots, slashless⟩ := plain
  rw [Path.join, splitPath_of_no_slash fun byte membership same => slashless (same ▸ membership)]
  simp [Path.step, Path.child, nonempty, notDot, notDots]

/-! ## Texts -/

theorem bytesOf_injective : Function.Injective bytesOf := by
  intro first second same
  have decoded := congrArg decodeLossy same
  simp only [bytesOf, decodeLossy_utf8] at decoded
  exact String.toList_injective decoded

/-- The byte of an ASCII character stands for that character only. -/
theorem toUInt8_mem_bytesOf {char : Char} (small : char.toNat < 128) (text : String) :
    char.toUInt8 ∈ bytesOf text ↔ char ∈ text.toList := by
  rw [bytesOf, List.mem_flatMap]
  constructor
  · rintro ⟨other, among, byte⟩
    rcases Nat.lt_or_ge other.toNat 128 with ascii | large
    · rw [utf8_ascii ascii, List.mem_singleton] at byte
      have same := congrArg UInt8.toNat byte
      rw [toNat_toUInt8 small, toNat_ofNat (by omega)] at same
      exact Char.toNat_inj.mp same ▸ among
    · have beyond := utf8_large large byte
      rw [toNat_toUInt8 small] at beyond
      omega
  · intro among
    refine ⟨char, among, ?_⟩
    rw [utf8_ascii small]
    exact List.mem_singleton_self _

/-- A text names an entry when its characters say so. -/
theorem isFileName_bytesOf {text : String} (nonempty : text ≠ "") (notDot : text ≠ ".")
    (notDots : text ≠ "..") (slashless : '/' ∉ text.toList) : IsFileName (bytesOf text) :=
  ⟨fun same => nonempty (bytesOf_injective same), fun same => notDot (bytesOf_injective same),
    fun same => notDots (bytesOf_injective same),
    fun slash => slashless ((toUInt8_mem_bytesOf (by decide) text).mp slash)⟩

end CopySync.Foundation
