import Mathlib.Data.List.Basic

/-!
# Delimited frames

A stream carries bodies, each followed by a delimiter that no body contains.  A reader takes
what is in front up to the first delimiter; what it takes so are the bodies in their order.
-/

namespace CopySync.Foundation

universe u

variable {α : Type u} {delimiter : α}

/-- The stream that carries the bodies. -/
def encodeFrames (delimiter : α) (bodies : List (List α)) : List α :=
  bodies.flatMap (· ++ [delimiter])

@[simp] theorem encodeFrames_nil : encodeFrames delimiter [] = [] := rfl

@[simp] theorem encodeFrames_cons (body : List α) (bodies : List (List α)) :
    encodeFrames delimiter (body :: bodies) =
      body ++ delimiter :: encodeFrames delimiter bodies := by
  simp [encodeFrames]

/-- A stream without a delimiter carries nothing. -/
theorem eq_nil_of_encodeFrames {bodies : List (List α)} {stream : List α}
    (carried : encodeFrames delimiter bodies = stream) (without : delimiter ∉ stream) :
    bodies = [] := by
  cases bodies with
  | nil => rfl
  | cons body bodies =>
      rw [encodeFrames_cons] at carried
      exact absurd (carried ▸ by simp) without

theorem append_delimiter_inj {first other rest later : List α} (fresh : delimiter ∉ first)
    (free : delimiter ∉ other) (same : first ++ delimiter :: rest = other ++ delimiter :: later) :
    first = other ∧ rest = later := by
  induction first generalizing other with
  | nil =>
      cases other with
      | nil => exact ⟨rfl, (List.cons.inj same).2⟩
      | cons head _ => exact absurd (List.cons.inj same).1 (List.ne_of_not_mem_cons free)
  | cons head first ih =>
      cases other with
      | nil => exact absurd (List.cons.inj same).1.symm (List.ne_of_not_mem_cons fresh)
      | cons front other =>
          obtain ⟨rfl, tails⟩ := List.cons.inj same
          obtain ⟨rfl, rfl⟩ := ih (List.not_mem_of_not_mem_cons fresh)
            (List.not_mem_of_not_mem_cons free) tails
          exact ⟨rfl, rfl⟩

/-- What stands before the first delimiter is the first body. -/
theorem encodeFrames_eq_append {bodies : List (List α)} {body rest : List α}
    (plain : ∀ body ∈ bodies, delimiter ∉ body) (free : delimiter ∉ body)
    (carried : encodeFrames delimiter bodies = body ++ delimiter :: rest) :
    ∃ more, bodies = body :: more ∧ encodeFrames delimiter more = rest := by
  cases bodies with
  | nil => simp at carried
  | cons first more =>
      rw [encodeFrames_cons] at carried
      have fresh : delimiter ∉ first := plain first List.mem_cons_self
      obtain ⟨rfl, tail⟩ := append_delimiter_inj fresh free carried
      exact ⟨more, rfl, tail⟩

section Reading

variable [DecidableEq α]

/-- The front of a buffer through its first delimiter, and what follows. -/
def takeFrame (delimiter : α) : List α → Option (List α × List α)
  | [] => none
  | item :: rest =>
      if item = delimiter then some ([item], rest)
      else (takeFrame delimiter rest).map fun (frame, later) => (item :: frame, later)

/-- Nothing is taken exactly when there is no delimiter. -/
theorem takeFrame_eq_none {buffer : List α} :
    takeFrame delimiter buffer = none ↔ delimiter ∉ buffer := by
  induction buffer with
  | nil => simp [takeFrame]
  | cons item rest ih =>
      rw [takeFrame, List.mem_cons, not_or]
      by_cases found : item = delimiter
      · simp [found]
      · simp [found, ih, Ne.symm found]

/-- What is taken ends with the first delimiter. -/
theorem takeFrame_eq_some {buffer frame later : List α}
    (taken : takeFrame delimiter buffer = some (frame, later)) :
    ∃ body, delimiter ∉ body ∧ frame = body ++ [delimiter] ∧ buffer = frame ++ later := by
  induction buffer generalizing frame later with
  | nil => cases taken
  | cons item rest ih =>
      rw [takeFrame] at taken
      by_cases found : item = delimiter
      · rw [if_pos found, Option.some.injEq, Prod.mk.injEq] at taken
        obtain ⟨rfl, rfl⟩ := taken
        exact ⟨[], List.not_mem_nil, by rw [found, List.nil_append], rfl⟩
      · rw [if_neg found] at taken
        obtain ⟨⟨front, back⟩, inside, split⟩ := Option.map_eq_some_iff.mp taken
        obtain ⟨body, free, ended, whole⟩ := ih inside
        cases split
        refine ⟨item :: body, ?_, by rw [ended, List.cons_append], by rw [whole, List.cons_append]⟩
        rw [List.mem_cons, not_or]
        exact ⟨Ne.symm found, free⟩

/-- A reader that holds back `partly`, which has no delimiter, takes the next body. -/
theorem takeFrame_next {bodies : List (List α)} {partly buffer coming frame later : List α}
    (plain : ∀ body ∈ bodies, delimiter ∉ body) (unended : delimiter ∉ partly)
    (carried : encodeFrames delimiter bodies = partly ++ buffer ++ coming)
    (taken : takeFrame delimiter buffer = some (frame, later)) :
    ∃ body more, bodies = body :: more ∧ partly ++ frame = body ++ [delimiter] ∧
      encodeFrames delimiter more = later ++ coming := by
  obtain ⟨ending, free, rfl, rfl⟩ := takeFrame_eq_some taken
  have fresh : delimiter ∉ partly ++ ending := by
    rw [List.mem_append, not_or]
    exact ⟨unended, free⟩
  have split : encodeFrames delimiter bodies =
      (partly ++ ending) ++ delimiter :: (later ++ coming) := by
    rw [carried]
    simp
  obtain ⟨more, rfl, tail⟩ := encodeFrames_eq_append plain fresh split
  exact ⟨partly ++ ending, more, rfl, (List.append_assoc ..).symm, tail⟩

end Reading

end CopySync.Foundation
