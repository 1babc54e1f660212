import Mathlib.Data.List.Forall2
import Mathlib.Data.List.Infix

/-!
# Patterns in recoded texts

A text is recoded symbol by symbol.  Where the symbols of a pattern keep a code of their
own, and no other symbol produces one of these codes, the pattern occurs in the recoded
text exactly where it occurs in the text.
-/

namespace CopySync.Foundation

universe u v

variable {α : Type u} {β : Type v}

/-- A kept symbol becomes its code; any other becomes one or more codes of which none
belongs to a kept symbol. -/
inductive Recodes (code : α → β) (kept : α → Prop) : List α → List β → Prop where
  | nil : Recodes code kept [] []
  | keep {symbol : α} {text : List α} {out : List β} :
      kept symbol → Recodes code kept text out →
        Recodes code kept (symbol :: text) (code symbol :: out)
  | replace {symbol : α} {text : List α} {out image : List β} :
      ¬kept symbol → image ≠ [] → (∀ other, kept other → code other ∉ image) →
        Recodes code kept text out → Recodes code kept (symbol :: text) (image ++ out)

namespace Recodes

variable {code : α → β} {kept : α → Prop} {text : List α} {out : List β}

/-- No two kept symbols share a code. -/
def Distinct (code : α → β) (kept : α → Prop) : Prop :=
  ∀ left right, kept left → kept right → code left = code right → left = right

theorem append {moreText : List α} {moreOut : List β} (front : Recodes code kept text out)
    (back : Recodes code kept moreText moreOut) :
    Recodes code kept (text ++ moreText) (out ++ moreOut) := by
  induction front with
  | nil => exact back
  | keep isKept _ ih => exact .keep isKept ih
  | replace notKept shown apart _ ih =>
      rw [List.append_assoc]
      exact .replace notKept shown apart ih

theorem reverse (recoded : Recodes code kept text out) :
    Recodes code kept text.reverse out.reverse := by
  induction recoded with
  | nil => exact .nil
  | keep isKept _ ih =>
      rw [List.reverse_cons, List.reverse_cons]
      exact ih.append (.keep isKept .nil)
  | @replace _ _ _ image notKept shown apart _ ih =>
      rw [List.reverse_cons, List.reverse_append]
      refine ih.append ?_
      rw [← List.append_nil image.reverse]
      refine .replace notKept (by simpa using shown) (fun other isKept => ?_) .nil
      simpa using apart other isKept

theorem isEmpty_eq (recoded : Recodes code kept text out) : out.isEmpty = text.isEmpty := by
  cases recoded with
  | nil => rfl
  | keep => rfl
  | replace _ shown => simp [shown]

/-- Every symbol recoded on its own. -/
theorem of_flatMap {image : α → List β} (own : ∀ symbol, kept symbol → image symbol = [code symbol])
    (shown : ∀ symbol, ¬kept symbol → image symbol ≠ [])
    (apart : ∀ symbol, ¬kept symbol → ∀ other, kept other → code other ∉ image symbol)
    (text : List α) : Recodes code kept text (text.flatMap image) := by
  induction text with
  | nil => exact .nil
  | cons symbol rest ih =>
      rw [List.flatMap_cons]
      by_cases isKept : kept symbol
      · rw [own symbol isKept]
        exact .keep isKept ih
      · exact .replace isKept (shown symbol isKept) (apart symbol isKept) ih

/-! ## Occurrences of a pattern -/

section Pattern

variable (distinct : Distinct code kept)

include distinct

theorem prefix_iff (recoded : Recodes code kept text out) {pattern : List α}
    (ofKept : ∀ symbol ∈ pattern, kept symbol) :
    pattern.map code <+: out ↔ pattern <+: text := by
  induction recoded generalizing pattern with
  | nil => simp
  | @keep symbol text out isKept _ ih =>
      cases pattern with
      | nil => simp
      | cons first pattern =>
          have firstKept := ofKept first List.mem_cons_self
          have others := @ih pattern fun symbol among =>
            ofKept symbol (List.mem_cons_of_mem _ among)
          rw [List.map_cons, List.cons_prefix_cons, List.cons_prefix_cons, others]
          exact and_congr_left fun _ => ⟨distinct _ _ firstKept isKept, congrArg code⟩
  | @replace symbol text out image notKept shown apart _ _ =>
      cases pattern with
      | nil => simp
      | cons first pattern =>
          have firstKept := ofKept first List.mem_cons_self
          have foreign := apart first firstKept
          obtain ⟨unit, image, rfl⟩ := List.exists_cons_of_ne_nil shown
          rw [List.map_cons, List.cons_append, List.cons_prefix_cons, List.cons_prefix_cons]
          constructor
          · rintro ⟨rfl, -⟩
            exact absurd List.mem_cons_self foreign
          · rintro ⟨rfl, -⟩
            exact absurd firstKept notKept

theorem suffix_iff (recoded : Recodes code kept text out) {pattern : List α}
    (ofKept : ∀ symbol ∈ pattern, kept symbol) :
    pattern.map code <:+ out ↔ pattern <:+ text := by
  rw [← List.reverse_prefix, ← List.map_reverse,
    recoded.reverse.prefix_iff distinct (by simpa using ofKept), List.reverse_prefix]

omit distinct in
/-- An occurrence does not start within codes that miss its first symbol. -/
theorem infix_append_iff {first : β} {pattern image : List β} (foreign : first ∉ image) :
    first :: pattern <:+: image ++ out ↔ first :: pattern <:+: out := by
  induction image with
  | nil => rfl
  | cons unit image ih =>
      rw [List.cons_append, List.infix_cons_iff, List.cons_prefix_cons,
        ih fun among => foreign (List.mem_cons_of_mem _ among)]
      refine ⟨?_, .inr⟩
      rintro (⟨rfl, -⟩ | occurs)
      · exact absurd List.mem_cons_self foreign
      · exact occurs

theorem infix_iff (recoded : Recodes code kept text out) {pattern : List α}
    (ofKept : ∀ symbol ∈ pattern, kept symbol) (nonempty : pattern ≠ []) :
    pattern.map code <:+: out ↔ pattern <:+: text := by
  induction recoded with
  | nil => simp
  | keep isKept recoded ih =>
      rw [List.infix_cons_iff, List.infix_cons_iff, ih,
        (keep isKept recoded).prefix_iff distinct ofKept]
  | replace notKept shown apart recoded ih =>
      obtain ⟨first, pattern, rfl⟩ := List.exists_cons_of_ne_nil nonempty
      have firstKept := ofKept first List.mem_cons_self
      rw [List.map_cons, infix_append_iff (apart first firstKept), ← List.map_cons, ih,
        List.infix_cons_iff, List.cons_prefix_cons]
      refine ⟨.inr, ?_⟩
      rintro (⟨rfl, -⟩ | occurs)
      · exact absurd firstKept notKept
      · exact occurs

variable [DecidableEq α] [DecidableEq β]

omit distinct [DecidableEq α] in
theorem splitOn_append {separator : β} {image : List β} (foreign : separator ∉ image) :
    (image ++ out).splitOn separator = (out.splitOn separator).modifyHead (image ++ ·) := by
  induction image with
  | nil =>
      rw [List.nil_append]
      generalize out.splitOn separator = parts
      cases parts with
      | nil => rfl
      | cons head tail => rfl
  | cons unit image ih =>
      have other : (unit == separator) = false := by
        rw [beq_eq_false_iff_ne]
        rintro rfl
        exact foreign List.mem_cons_self
      rw [List.cons_append, List.splitOn_cons_eq_if_modifyHead, other,
        ih fun among => foreign (List.mem_cons_of_mem _ among)]
      generalize out.splitOn separator = parts
      cases parts with
      | nil => rfl
      | cons head tail => rfl

/-- The parts between separators are recoded one by one. -/
theorem splitOn (recoded : Recodes code kept text out) {separator : α}
    (isKept : kept separator) :
    List.Forall₂ (Recodes code kept) (text.splitOn separator) (out.splitOn (code separator)) := by
  induction recoded with
  | nil => exact .cons .nil .nil
  | @keep symbol text out symbolKept recoded ih =>
      rw [List.splitOn_cons_eq_if_modifyHead, List.splitOn_cons_eq_if_modifyHead]
      by_cases same : symbol = separator
      · subst same
        simpa using ih.cons .nil
      · have other : code symbol ≠ code separator := fun equal =>
          same (distinct _ _ symbolKept isKept equal)
        simp only [beq_iff_eq, same, other, if_false]
        generalize text.splitOn separator = parts, out.splitOn (code separator) = codes at ih ⊢
        cases ih with
        | nil => exact .nil
        | cons head tail => exact .cons (.keep symbolKept head) tail
  | @replace symbol text out image notKept shown apart recoded ih =>
      have other : symbol ≠ separator := by
        rintro rfl
        exact notKept isKept
      rw [List.splitOn_cons_eq_if_modifyHead, splitOn_append (apart separator isKept)]
      simp only [beq_iff_eq, other, if_false]
      generalize text.splitOn separator = parts, out.splitOn (code separator) = codes at ih ⊢
      cases ih with
      | nil => exact .nil
      | cons head tail => exact .cons (.replace notKept shown apart head) tail

end Pattern

end Recodes

end CopySync.Foundation
