import CopySync.Foundation.Holdings
import CopySync.Foundation.Window
import Mathlib.Data.List.Perm.Basic

/-!
# Store-and-forward mailboxes

One recipient as the items addressed to it see it.  An item is accepted either
straight into the channel of a link or into the recipient's queue.  A link that
comes up drains the queue into its hand, moves items from the hand to its channel,
and may give up and return the tail of its hand to the queue.  A writer takes
items from the channel and delivers them.

The state keeps what happened as well as what is: every item accepted, pushed to
a channel, stored in the queue, delivered, discarded and lost, in order.  Three
facts hold about every run: items are conserved; if nothing is accepted or
drained at the wrong moment, items are pushed in the order of acceptance; and a
property of what is accepted and drained is a property of what is pushed and stored.
-/

namespace CopySync.Foundation

universe u

/-- One link of the recipient: items drained and still to be pushed, items to be
returned to the queue, the channel, and the item the writer holds. -/
structure Link (ι : Type u) where
  hand : List ι
  tail : List ι
  channel : List ι
  inFlight : Option ι

namespace Link

variable {ι : Type u}

/-- A link that holds nothing. -/
def empty : Link ι := ⟨[], [], [], none⟩

/-- Everything a link holds. -/
def items (link : Link ι) : List ι :=
  link.hand ++ link.tail ++ link.channel ++ link.inFlight.toList

/-- What a link still has to write. -/
def unwritten (link : Link ι) : List ι := link.channel ++ link.inFlight.toList

end Link

structure Mailbox (ι : Type u) where
  queue : List ι
  links : List (Link ι)
  accepted : List ι
  pushed : List ι
  stored : List ι
  written : List ι
  discarded : List ι
  lost : List ι

/-- Labels of the moves, with the data side conditions speak about. -/
inductive Move (ι : Type u) where
  | idle
  | connect
  | live (link : Nat) (item : ι)
  | store (item : ι)
  | drain (link : Nat)
  | deliver (link : Nat)
  | giveUp (link : Nat)
  | restore (link : Nat)
  | take (link : Nat)
  | wrote (link : Nat)
  | fail (link : Nat)
  | discard

/-- The items a move accepts. -/
def Move.accepts {ι : Type u} : Move ι → List ι
  | .live _ item | .store item => [item]
  | _ => []

namespace Mailbox

variable {ι : Type u}

def empty : Mailbox ι := ⟨[], [], [], [], [], [], [], []⟩

/-- One move.  Appending to the queue may trim it from the front. -/
inductive Step (m : Mailbox ι) : Move ι → Mailbox ι → Prop where
  | idle : Step m .idle m
  | connect : Step m .connect { m with links := m.links ++ [.empty] }
  | live {index : Nat} {link : Link ι} (item : ι) (found : m.links[index]? = some link) :
      Step m (.live index item)
        { m with
          links := m.links.set index { link with channel := link.channel ++ [item] }
          accepted := m.accepted ++ [item]
          pushed := m.pushed ++ [item] }
  | store (item : ι) {trimmed kept : List ι} (split : m.queue ++ [item] = trimmed ++ kept) :
      Step m (.store item)
        { m with
          queue := kept
          accepted := m.accepted ++ [item]
          stored := m.stored ++ [item]
          discarded := m.discarded ++ trimmed }
  | drain {index : Nat} {link : Link ι} (found : m.links[index]? = some link)
      (vacant : link.hand = [] ∧ link.tail = []) :
      Step m (.drain index)
        { m with
          queue := []
          links := m.links.set index { link with hand := m.queue } }
  | deliver {index : Nat} {link : Link ι} {item : ι} {rest : List ι}
      (found : m.links[index]? = some link) (next : link.hand = item :: rest) :
      Step m (.deliver index)
        { m with
          links := m.links.set index
            { link with hand := rest, channel := link.channel ++ [item] }
          pushed := m.pushed ++ [item] }
  | giveUp {index : Nat} {link : Link ι} (found : m.links[index]? = some link)
      (vacant : link.tail = []) :
      Step m (.giveUp index)
        { m with links := m.links.set index { link with hand := [], tail := link.hand } }
  | restore {index : Nat} {link : Link ι} {item : ι} {rest trimmed kept : List ι}
      (found : m.links[index]? = some link) (next : link.tail = item :: rest)
      (split : m.queue ++ [item] = trimmed ++ kept) :
      Step m (.restore index)
        { m with
          queue := kept
          links := m.links.set index { link with tail := rest }
          stored := m.stored ++ [item]
          discarded := m.discarded ++ trimmed }
  | take {index : Nat} {link : Link ι} {item : ι} {rest : List ι}
      (found : m.links[index]? = some link) (next : link.channel = item :: rest)
      (free : link.inFlight = none) :
      Step m (.take index)
        { m with links := m.links.set index { link with channel := rest, inFlight := some item } }
  | wrote {index : Nat} {link : Link ι} {item : ι} (found : m.links[index]? = some link)
      (held : link.inFlight = some item) :
      Step m (.wrote index)
        { m with
          links := m.links.set index { link with inFlight := none }
          written := m.written ++ [item] }
  | fail {index : Nat} {link : Link ι} {item : ι} (found : m.links[index]? = some link)
      (held : link.inFlight = some item) :
      Step m (.fail index)
        { m with
          links := m.links.set index { link with inFlight := none }
          lost := m.lost ++ [item] }
  | discard {kept dropped : List ι} (sublist : kept.Sublist m.queue)
      (split : (kept ++ dropped).Perm m.queue) :
      Step m .discard { m with queue := kept, discarded := m.discarded ++ dropped }

theorem Step.accepted_eq {m after : Mailbox ι} {move : Move ι} (step : m.Step move after) :
    after.accepted = m.accepted ++ move.accepts := by
  cases step <;> simp [Move.accepts]

/-- An item of the queue was there before, or was stored or restored by the move. -/
theorem Step.queue_origin {m after : Mailbox ι} {move : Move ι} (step : m.Step move after)
    {item : ι} (queued : item ∈ after.queue) :
    item ∈ m.queue ∨ move = .store item ∨
      ∃ index link rest, move = .restore index ∧ m.links[index]? = some link ∧
        link.tail = item :: rest := by
  cases step with
  | @store new trimmed kept split =>
      have appended : item ∈ m.queue ++ [new] := split ▸ List.mem_append_right _ queued
      rcases List.mem_append.mp appended with old | same
      · exact .inl old
      · exact .inr (.inl (congrArg Move.store (List.mem_singleton.mp same).symm))
  | drain => cases queued
  | @restore index link new rest trimmed kept found next split =>
      have appended : item ∈ m.queue ++ [new] := split ▸ List.mem_append_right _ queued
      rcases List.mem_append.mp appended with old | same
      · exact .inl old
      · cases List.mem_singleton.mp same
        exact .inr (.inr ⟨index, link, rest, rfl, found, next⟩)
  | discard sublist => exact .inl (sublist.subset queued)
  | _ => exact .inl queued

/-! ## Conservation -/

/-- Every accepted item is in exactly one place. -/
def Conserved (m : Mailbox ι) : Prop :=
  m.accepted.Perm
    (m.written ++ m.discarded ++ m.lost ++ m.queue ++ m.links.flatMap Link.items)

section Conservation

variable [DecidableEq ι]

theorem Conserved.step {m after : Mailbox ι} {move : Move ι} (conserved : m.Conserved)
    (step : m.Step move after) : after.Conserved := by
  unfold Conserved at *
  rw [List.perm_iff_count] at *
  intro query
  have balance := conserved query
  simp only [List.count_append] at balance ⊢
  cases step with
  | idle => exact balance
  | connect => simpa [Link.items, Link.empty] using balance
  | @live _ link item found =>
      have exchange := count_held_set Link.items found
        { link with channel := link.channel ++ [item] } query
      simp only [Link.items, List.count_append] at exchange ⊢
      omega
  | store item split =>
      have contents := congrArg (List.count query) split
      simp only [List.count_append] at contents ⊢
      omega
  | @drain _ link found vacant =>
      have exchange := count_held_set Link.items found { link with hand := m.queue } query
      simp only [Link.items, List.count_append, vacant, List.count_nil] at exchange ⊢
      omega
  | @deliver _ link item rest found next =>
      have exchange := count_held_set Link.items found
        { link with hand := rest, channel := link.channel ++ [item] } query
      simp only [Link.items, next, List.count_append, List.count_cons, List.count_nil]
        at exchange ⊢
      omega
  | @giveUp _ link found vacant =>
      have exchange :=
        count_held_set Link.items found { link with hand := [], tail := link.hand } query
      simp only [Link.items, vacant, List.count_append, List.count_nil] at exchange ⊢
      omega
  | @restore _ link item rest _ _ found next split =>
      have exchange := count_held_set Link.items found { link with tail := rest } query
      have contents := congrArg (List.count query) split
      simp only [Link.items, next, List.count_append, List.count_cons, List.count_nil]
        at exchange contents ⊢
      omega
  | @take _ link item rest found next free =>
      have exchange := count_held_set Link.items found
        { link with channel := rest, inFlight := some item } query
      simp only [Link.items, next, free, List.count_append, List.count_cons, Option.toList,
        List.count_nil] at exchange ⊢
      omega
  | @wrote _ link item found held =>
      have exchange := count_held_set Link.items found { link with inFlight := none } query
      simp only [Link.items, held, List.count_append, List.count_cons, Option.toList,
        List.count_nil] at exchange ⊢
      omega
  | @fail _ link item found held =>
      have exchange := count_held_set Link.items found { link with inFlight := none } query
      simp only [Link.items, held, List.count_append, List.count_cons, Option.toList,
        List.count_nil] at exchange ⊢
      omega
  | discard sublist split =>
      have contents := split.count_eq query
      simp only [List.count_append] at contents ⊢
      omega

end Conservation

/-! ## Unwritten items -/

/-- Moves that put an item into the channel of a link. -/
def Feeds (index : Nat) : Move ι → Prop
  | .live link _ => link = index
  | .deliver link => link = index
  | _ => False

section Unwritten

variable {m after : Mailbox ι} {move : Move ι} {index target : Nat} {link new found : Link ι}

/-- After an update of one link that adds nothing to write, whoever still has to
write had to before. -/
theorem unwritten_of_set (old : m.links[target]? = some link)
    (shrinks : new.unwritten ≠ [] → link.unwritten ≠ [])
    (lookup : (m.links.set target new)[index]? = some found) (pending : found.unwritten ≠ []) :
    ∃ before, m.links[index]? = some before ∧ before.unwritten ≠ [] := by
  rw [List.getElem?_set] at lookup
  split_ifs at lookup with same inside
  · cases lookup
    exact ⟨link, same ▸ old, shrinks pending⟩
  · exact ⟨found, lookup, pending⟩

/-- Only feeding a link gives it something to write. -/
theorem Step.unwritten_origin (step : m.Step move after)
    (lookup : after.links[index]? = some found) (pending : found.unwritten ≠ []) :
    (∃ before, m.links[index]? = some before ∧ before.unwritten ≠ []) ∨ Feeds index move := by
  cases step with
  | idle | store | discard => exact .inl ⟨found, lookup, pending⟩
  | connect =>
      rcases getElem?_concat_cases lookup with earlier | ⟨-, rfl⟩
      · exact .inl ⟨found, earlier, pending⟩
      · exact absurd rfl pending
  | @live target link item old =>
      rw [List.getElem?_set] at lookup
      split_ifs at lookup with same
      · exact .inr same
      · exact .inl ⟨found, lookup, pending⟩
  | @deliver target link item rest old next =>
      rw [List.getElem?_set] at lookup
      split_ifs at lookup with same
      · exact .inr same
      · exact .inl ⟨found, lookup, pending⟩
  | drain old _ => exact .inl (unwritten_of_set old (fun more => by exact more) lookup pending)
  | giveUp old _ => exact .inl (unwritten_of_set old (fun more => by exact more) lookup pending)
  | restore old _ _ => exact .inl (unwritten_of_set old (fun more => by exact more) lookup pending)
  | take old next _ =>
      exact .inl (unwritten_of_set old (fun _ => by simp [Link.unwritten, next]) lookup pending)
  | wrote old held =>
      exact .inl (unwritten_of_set old (fun _ => by simp [Link.unwritten, held]) lookup pending)
  | fail old held =>
      exact .inl (unwritten_of_set old (fun _ => by simp [Link.unwritten, held]) lookup pending)

/-- Only a failed write loses an item. -/
theorem Step.lost_eq (step : m.Step move after) (written : ∀ link, move ≠ .fail link) :
    after.lost = m.lost := by
  cases step with
  | fail => exact absurd rfl (written _)
  | _ => rfl

end Unwritten

/-! ## Order -/

/-- No link holds drained items. -/
def HandsFree (m : Mailbox ι) : Prop := ∀ link ∈ m.links, link.hand = [] ∧ link.tail = []

/-- Nothing is accepted and no queue is drained while drained items are held, and
nothing overtakes the queue. -/
def OrderSafe (m : Mailbox ι) : Move ι → Prop
  | .live _ _ => m.queue = [] ∧ m.HandsFree
  | .store _ => m.HandsFree
  | .drain _ => m.HandsFree
  | _ => True

/-- Only the link `owner` holds drained items. -/
def HeldBy (links : List (Link ι)) (owner : Nat) (hand tail : List ι) : Prop :=
  ∀ index link, links[index]? = some link →
    (index = owner → link.hand = hand ∧ link.tail = tail) ∧
    (index ≠ owner → link.hand = [] ∧ link.tail = [])

/-- What was pushed, then what is queued, then what a link holds is in the order of
acceptance.  Items a link still has to push are older than the queue, which is
therefore empty; items it returns are younger. -/
structure OrderedBy (m : Mailbox ι) (owner : Nat) (hand tail : List ι) : Prop where
  held : HeldBy m.links owner hand tail
  present : hand ++ tail ≠ [] → owner < m.links.length
  single : hand = [] ∨ tail = []
  older : hand = [] ∨ m.queue = []
  sublist : (m.pushed ++ m.queue ++ hand ++ tail).Sublist m.accepted

def Ordered (m : Mailbox ι) : Prop := ∃ owner hand tail, m.OrderedBy owner hand tail

/-- Pushing follows acceptance. -/
theorem Ordered.pushed_sublist {m : Mailbox ι} (ordered : m.Ordered) :
    m.pushed.Sublist m.accepted := by
  obtain ⟨owner, hand, tail, order⟩ := ordered
  have first : m.pushed.Sublist (m.pushed ++ m.queue ++ hand ++ tail) := by
    simp only [List.append_assoc]
    exact List.sublist_append_left ..
  exact first.trans order.sublist

theorem HandsFree.heldBy {m : Mailbox ι} (free : m.HandsFree) (owner : Nat) :
    HeldBy m.links owner [] [] := fun _ _ found =>
  have vacant := free _ (List.mem_of_getElem? found)
  ⟨fun _ => vacant, fun _ => vacant⟩

/-- Updating one link keeps the others' hands. -/
theorem HeldBy.set {links : List (Link ι)} {owner index : Nat} {hand tail newHand newTail : List ι}
    {new : Link ι} (held : HeldBy links owner hand tail)
    (atOwner : index = owner → new.hand = newHand ∧ new.tail = newTail)
    (elsewhere : index ≠ owner → new.hand = [] ∧ new.tail = [] ∧ newHand = hand ∧ newTail = tail) :
    HeldBy (links.set index new) owner newHand newTail := by
  intro query link found
  rw [List.getElem?_set] at found
  split at found
  next same =>
    subst same
    split at found
    next =>
      cases found
      exact ⟨atOwner, fun different => ⟨(elsewhere different).1, (elsewhere different).2.1⟩⟩
    next => cases found
  next different =>
    constructor
    · intro same
      have away : index ≠ owner := fun atSame => different (atSame.trans same.symm)
      obtain ⟨-, -, rfl, rfl⟩ := elsewhere away
      exact (held query link found).1 same
    · exact (held query link found).2

/-- Updating a link without touching what it holds. -/
theorem HeldBy.set_same {links : List (Link ι)} {owner index : Nat} {hand tail : List ι}
    {link new : Link ι} (held : HeldBy links owner hand tail) (found : links[index]? = some link)
    (sameHand : new.hand = link.hand) (sameTail : new.tail = link.tail) :
    HeldBy (links.set index new) owner hand tail := by
  obtain ⟨atOwner, elsewhere⟩ := held index link found
  refine held.set (fun same => ?_) (fun different => ?_)
  · rw [sameHand, sameTail]
    exact atOwner same
  · rw [sameHand, sameTail]
    exact ⟨(elsewhere different).1, (elsewhere different).2, rfl, rfl⟩

/-- Links that come up hold nothing. -/
theorem HeldBy.concat {links : List (Link ι)} {owner : Nat} {hand tail : List ι}
    (held : HeldBy links owner hand tail) (present : hand ++ tail ≠ [] → owner < links.length) :
    HeldBy (links ++ [.empty]) owner hand tail := by
  intro index link found
  rcases getElem?_concat_cases found with earlier | ⟨last, rfl⟩
  · exact held index link earlier
  · constructor
    · intro same
      have vacant : hand ++ tail = [] := by
        by_contra some
        exact Nat.ne_of_lt (present some) (same ▸ last)
      obtain ⟨rfl, rfl⟩ := List.append_eq_nil_iff.mp vacant
      exact ⟨rfl, rfl⟩
    · exact fun _ => ⟨rfl, rfl⟩

section OrderSteps

variable {m : Mailbox ι} {owner index : Nat} {hand tail : List ι} {link : Link ι}

theorem OrderedBy.pushed_queue (order : m.OrderedBy owner hand tail) :
    (m.pushed ++ m.queue).Sublist m.accepted := by
  refine List.Sublist.trans ?_ order.sublist
  simp only [List.append_assoc]
  exact (List.sublist_append_left ..).append_left _

/-- Trimming the queue from the front keeps the order. -/
theorem sublist_trim {pushed queue rest trimmed kept accepted : List ι}
    (split : queue = trimmed ++ kept) (sublist : (pushed ++ (queue ++ rest)).Sublist accepted) :
    (pushed ++ (kept ++ rest)).Sublist accepted := by
  refine List.Sublist.trans ?_ sublist
  rw [split]
  exact ((List.sublist_append_right trimmed kept).append_right rest).append_left pushed

theorem OrderedBy.live (order : m.OrderedBy owner hand tail) (item : ι)
    (vacant : m.queue = []) (free : m.HandsFree) (found : m.links[index]? = some link) :
    OrderedBy
      { m with
        links := m.links.set index { link with channel := link.channel ++ [item] }
        accepted := m.accepted ++ [item]
        pushed := m.pushed ++ [item] } owner [] [] where
  held := (free.heldBy owner).set_same found rfl rfl
  present := by simp
  single := .inl rfl
  older := .inl rfl
  sublist := by
    have pushed := order.pushed_queue
    rw [vacant, List.append_nil] at pushed
    simp only [vacant, List.append_nil]
    exact pushed.append_right [item]

theorem OrderedBy.store (order : m.OrderedBy owner hand tail) (item : ι) (free : m.HandsFree)
    {trimmed kept : List ι} (split : m.queue ++ [item] = trimmed ++ kept) :
    OrderedBy
      { m with
        queue := kept
        accepted := m.accepted ++ [item]
        stored := m.stored ++ [item]
        discarded := m.discarded ++ trimmed } owner [] [] where
  held := free.heldBy owner
  present := by simp
  single := .inl rfl
  older := .inl rfl
  sublist := by
    have appended := order.pushed_queue.append_right [item]
    rw [List.append_assoc, ← List.append_nil (m.queue ++ [item])] at appended
    simpa using sublist_trim split appended

theorem OrderedBy.drain (order : m.OrderedBy owner hand tail) (free : m.HandsFree)
    (found : m.links[index]? = some link) :
    OrderedBy
      { m with
        queue := []
        links := m.links.set index { link with hand := m.queue } } index m.queue [] where
  held := by
    refine (free.heldBy index).set (fun _ => ⟨rfl, ?_⟩) (fun different => absurd rfl different)
    exact (free link (List.mem_of_getElem? found)).2
  present := fun _ => by
    simpa using (List.getElem?_eq_some_iff.mp found).1
  single := .inr rfl
  older := .inr rfl
  sublist := by simpa using order.pushed_queue

/-- A link that holds something is the owner. -/
theorem OrderedBy.owns (order : m.OrderedBy owner hand tail)
    (found : m.links[index]? = some link) (holds : link.hand ≠ [] ∨ link.tail ≠ []) :
    index = owner ∧ link.hand = hand ∧ link.tail = tail := by
  obtain ⟨atOwner, elsewhere⟩ := order.held index link found
  by_cases same : index = owner
  · exact ⟨same, atOwner same⟩
  · obtain ⟨noHand, noTail⟩ := elsewhere same
    rcases holds with some | some
    · exact absurd noHand some
    · exact absurd noTail some

theorem OrderedBy.deliver {item : ι} {rest : List ι} (order : m.OrderedBy owner hand tail)
    (found : m.links[index]? = some link) (next : link.hand = item :: rest) :
    OrderedBy
      { m with
        links := m.links.set index { link with hand := rest, channel := link.channel ++ [item] }
        pushed := m.pushed ++ [item] } owner rest [] := by
  obtain ⟨rfl, handEq, tailEq⟩ := order.owns found (.inl (by simp [next]))
  have handCons : hand = item :: rest := handEq.symm.trans next
  have noTail : tail = [] := order.single.resolve_left (by simp [handCons])
  have noQueue : m.queue = [] := order.older.resolve_left (by simp [handCons])
  have sublist := order.sublist
  subst noTail handCons
  refine ⟨order.held.set (fun _ => ⟨rfl, tailEq⟩) (fun different => absurd rfl different),
    fun _ => ?_, .inr rfl, .inr noQueue, ?_⟩
  · simpa using order.present (by simp)
  · simpa [noQueue] using sublist

theorem OrderedBy.giveUp (order : m.OrderedBy owner hand tail)
    (found : m.links[index]? = some link) (vacant : link.tail = []) :
    ∃ newHand newTail, OrderedBy
      { m with links := m.links.set index { link with hand := [], tail := link.hand } }
      owner newHand newTail := by
  obtain ⟨atOwner, elsewhere⟩ := order.held index link found
  by_cases same : index = owner
  · obtain ⟨handEq, tailEq⟩ := atOwner same
    have noTail : tail = [] := tailEq.symm.trans vacant
    have sublist := order.sublist
    have present := order.present
    subst noTail
    refine ⟨[], hand, order.held.set (fun _ => ⟨rfl, handEq⟩) (absurd same), ?_, .inl rfl,
      .inl rfl, ?_⟩
    · simpa using present
    · simpa using sublist
  · obtain ⟨noHand, noTail⟩ := elsewhere same
    exact ⟨hand, tail,
      order.held.set (fun atSame => absurd atSame same) (fun _ => ⟨rfl, noHand, rfl, rfl⟩),
      by simpa using order.present, order.single, order.older, order.sublist⟩

theorem OrderedBy.restore {item : ι} {rest trimmed kept : List ι}
    (order : m.OrderedBy owner hand tail) (found : m.links[index]? = some link)
    (next : link.tail = item :: rest) (split : m.queue ++ [item] = trimmed ++ kept) :
    OrderedBy
      { m with
        queue := kept
        links := m.links.set index { link with tail := rest }
        stored := m.stored ++ [item]
        discarded := m.discarded ++ trimmed } owner [] rest := by
  obtain ⟨rfl, handEq, tailEq⟩ := order.owns found (.inr (by simp [next]))
  have tailCons : tail = item :: rest := tailEq.symm.trans next
  have noHand : hand = [] := order.single.resolve_right (by simp [tailCons])
  have sublist := order.sublist
  subst noHand tailCons
  refine ⟨order.held.set (fun _ => ⟨handEq, rfl⟩) (fun different => absurd rfl different),
    fun _ => ?_, .inl rfl, .inl rfl, ?_⟩
  · simpa using order.present (by simp)
  · have regrouped : (m.pushed ++ ((m.queue ++ [item]) ++ rest)).Sublist m.accepted := by
      simpa using sublist
    simpa using sublist_trim split regrouped

theorem OrderedBy.discard {kept dropped : List ι} (order : m.OrderedBy owner hand tail)
    (kept_sublist : kept.Sublist m.queue) :
    OrderedBy { m with queue := kept, discarded := m.discarded ++ dropped } owner hand tail where
  held := order.held
  present := order.present
  single := order.single
  older := order.older.imp_right fun vacant => by
    rw [vacant] at kept_sublist
    exact List.sublist_nil.mp kept_sublist
  sublist := by
    refine List.Sublist.trans ?_ order.sublist
    exact ((kept_sublist.append_left m.pushed).append_right hand).append_right tail

/-- Moves that change neither the queue nor a hand nor the accepted or pushed
items. -/
theorem OrderedBy.writer {new : Link ι} {written lost : List ι}
    (order : m.OrderedBy owner hand tail) (found : m.links[index]? = some link)
    (sameHand : new.hand = link.hand) (sameTail : new.tail = link.tail) :
    OrderedBy { m with links := m.links.set index new, written := written, lost := lost }
      owner hand tail where
  held := order.held.set_same found sameHand sameTail
  present := by simpa using order.present
  single := order.single
  older := order.older
  sublist := order.sublist

end OrderSteps

theorem Ordered.step {m after : Mailbox ι} {move : Move ι} (ordered : m.Ordered)
    (safe : m.OrderSafe move) (step : m.Step move after) : after.Ordered := by
  obtain ⟨owner, hand, tail, order⟩ := ordered
  cases step with
  | idle => exact ⟨owner, hand, tail, order⟩
  | connect =>
      exact ⟨owner, hand, tail, order.held.concat order.present,
        fun some => by simpa using Nat.lt_succ_of_lt (order.present some),
        order.single, order.older, order.sublist⟩
  | live item found => exact ⟨owner, _, _, order.live item safe.1 safe.2 found⟩
  | store item split => exact ⟨owner, _, _, order.store item safe split⟩
  | drain found _ => exact ⟨_, _, _, order.drain safe found⟩
  | deliver found next => exact ⟨owner, _, _, order.deliver found next⟩
  | giveUp found vacant =>
      obtain ⟨newHand, newTail, given⟩ := order.giveUp found vacant
      exact ⟨owner, newHand, newTail, given⟩
  | restore found next split => exact ⟨owner, _, _, order.restore found next split⟩
  | take found _ _ => exact ⟨owner, hand, tail, order.writer found rfl rfl⟩
  | wrote found _ => exact ⟨owner, hand, tail, order.writer found rfl rfl⟩
  | fail found _ => exact ⟨owner, hand, tail, order.writer found rfl rfl⟩
  | discard kept _ => exact ⟨owner, hand, tail, order.discard kept⟩

/-! ## Properties of moving items -/

/-- Every item in the hands of a link is good. -/
def Clean (good : ι → Prop) (m : Mailbox ι) : Prop :=
  ∀ link ∈ m.links, ∀ item ∈ link.hand ++ link.tail, good item

/-- The items a move takes out of the reach of earlier checks: what it accepts and
what it drains. -/
def taken (m : Mailbox ι) (move : Move ι) : List ι :=
  move.accepts ++ match move with
    | .drain _ => m.queue
    | _ => []

/-- The items a move pushes or stores are good. -/
def Places (good : ι → Prop) (m after : Mailbox ι) : Prop :=
  (∃ items, after.pushed = m.pushed ++ items ∧ ∀ item ∈ items, good item) ∧
    ∃ items, after.stored = m.stored ++ items ∧ ∀ item ∈ items, good item

section Clean

variable {good : ι → Prop} {m after : Mailbox ι} {index : Nat} {link new : Link ι}

theorem Clean.set (clean : m.Clean good) (fine : ∀ item ∈ new.hand ++ new.tail, good item) :
    ∀ link ∈ m.links.set index new, ∀ item ∈ link.hand ++ link.tail, good item := by
  intro link membership
  rcases List.mem_or_eq_of_mem_set membership with old | rfl
  · exact clean link old
  · exact fine

theorem Clean.at (clean : m.Clean good) (found : m.links[index]? = some link) :
    ∀ item ∈ link.hand ++ link.tail, good item :=
  clean link (List.mem_of_getElem? found)

/-- From a clean state, a move that takes only good items places only good items and
ends in a clean state. -/
theorem Clean.step {move : Move ι} (clean : m.Clean good)
    (takes : ∀ item ∈ m.taken move, good item) (step : m.Step move after) :
    after.Clean good ∧ m.Places good after := by
  have nothing : ∀ {items : List ι}, ∃ more, items = items ++ more ∧ ∀ item ∈ more, good item :=
    ⟨[], by simp, by simp⟩
  have one : ∀ {items : List ι} {item : ι}, good item →
      ∃ more, items ++ [item] = items ++ more ∧ ∀ query ∈ more, good query := fun fine =>
    ⟨_, rfl, by simpa using fine⟩
  simp only [taken] at takes
  cases step with
  | idle => exact ⟨clean, nothing, nothing⟩
  | connect =>
      refine ⟨?_, ?_, ?_⟩
      · intro link membership
        rcases List.mem_append.mp membership with old | new
        · exact clean link old
        · simp [List.mem_singleton.mp new, Link.empty]
      · exact nothing
      · exact nothing
  | live item found =>
      have held := clean.at found
      exact ⟨clean.set held, one (takes item (by simp [Move.accepts])), nothing⟩
  | store item split => exact ⟨clean, nothing, one (takes item (by simp [Move.accepts]))⟩
  | drain found vacant =>
      exact ⟨clean.set (by simpa [Move.accepts, vacant] using takes), nothing, nothing⟩
  | deliver found next =>
      have held := clean.at found
      simp only [next, List.cons_append, List.forall_mem_cons] at held
      exact ⟨clean.set held.2, one held.1, nothing⟩
  | giveUp found vacant =>
      have held := clean.at found
      exact ⟨clean.set (by simpa [vacant] using held), nothing, nothing⟩
  | @restore _ link item rest _ _ found next split =>
      have held := clean.at found
      have fine : good item := held item (by simp [next])
      refine ⟨clean.set fun item membership => held item ?_, nothing, one fine⟩
      rcases List.mem_append.mp membership with inHand | inTail
      · exact List.mem_append_left _ inHand
      · exact List.mem_append_right _ (next ▸ List.mem_cons_of_mem _ inTail)
  | take found _ _ =>
      have held := clean.at found
      exact ⟨clean.set held, nothing, nothing⟩
  | wrote found _ =>
      have held := clean.at found
      exact ⟨clean.set held, nothing, nothing⟩
  | fail found _ =>
      have held := clean.at found
      exact ⟨clean.set held, nothing, nothing⟩
  | discard _ _ => exact ⟨clean, nothing, nothing⟩

end Clean

/-! ## What a move puts into a channel -/

/-- The items in the channel of a link; a link that is not there holds none. -/
def channelAt (links : List (Link ι)) (index : Nat) : List ι := links[index]?.elim [] Link.channel

/-- The items a move puts into the channel of a link. -/
def fed (m : Mailbox ι) (index : Nat) : Move ι → List ι
  | .live link item => if link = index then [item] else []
  | .deliver link =>
      if link = index then (m.links[index]?.elim [] Link.hand).take 1 else []
  | _ => []

section Fed

variable {m after : Mailbox ι} {move : Move ι} {links : List (Link ι)} {link new : Link ι}
variable {target : Nat}

theorem channelAt_set (found : links[target]? = some link) (index : Nat) :
    channelAt (links.set target new) index =
      if target = index then new.channel else channelAt links index := by
  obtain ⟨inside, -⟩ := List.getElem?_eq_some_iff.mp found
  rw [channelAt, List.getElem?_set]
  by_cases same : target = index
  · subst same
    simp [inside]
  · rw [if_neg same, if_neg same]
    rfl

/-- An update of one link that puts nothing into its channel. -/
theorem drop_channelAt_set (found : links[target]? = some link)
    (shorter : new.channel.length ≤ link.channel.length) (index : Nat) :
    (channelAt (links.set target new) index).drop (channelAt links index).length = [] := by
  rw [channelAt_set found]
  split_ifs with same
  · subst same
    rw [channelAt, found]
    exact List.drop_eq_nil_of_le shorter
  · exact List.drop_length

/-- What a channel is longer by was put into it by the move. -/
theorem Step.drop_channelAt (step : m.Step move after) (index : Nat) :
    (channelAt after.links index).drop (channelAt m.links index).length = m.fed index move := by
  cases step with
  | idle | store | discard => exact List.drop_length
  | connect =>
      rw [channelAt, channelAt]
      rcases Nat.lt_or_ge index m.links.length with inside | beyond
      · rw [List.getElem?_append_left inside]
        exact List.drop_length
      · rw [List.getElem?_append_right beyond, List.getElem?_singleton]
        split_ifs <;> exact List.drop_nil
  | @live target link item found =>
      rw [channelAt_set found, fed]
      split_ifs with same
      · subst same
        rw [channelAt, found]
        exact List.drop_left
      · exact List.drop_length
  | @deliver target link item rest found next =>
      rw [channelAt_set found, fed]
      split_ifs with same
      · subst same
        rw [channelAt, found, Option.elim_some, Option.elim_some, next]
        exact List.drop_left
      · exact List.drop_length
  | drain found | giveUp found | restore found | wrote found | fail found =>
      apply drop_channelAt_set found
      exact Nat.le_refl _
  | take found next =>
      apply drop_channelAt_set found
      rw [next]
      exact Nat.le_succ _

end Fed

/-! ## Where items come from -/

/-- Only a new connection is a new link. -/
theorem Step.links_length {m after : Mailbox ι} {move : Move ι} (step : m.Step move after)
    (other : move ≠ .connect) : after.links.length = m.links.length := by
  cases step with
  | connect => exact absurd rfl other
  | _ => simp

/-- Everything the mailbox still holds. -/
def contents (m : Mailbox ι) : List ι := m.queue ++ m.links.flatMap Link.items

section Contents

variable {m after : Mailbox ι} {move : Move ι} {index : Nat} {link new : Link ι} {item : ι}

theorem mem_contents :
    item ∈ m.contents ↔ item ∈ m.queue ∨ ∃ link ∈ m.links, item ∈ link.items := by
  simp [contents]

theorem mem_contents_of_link (found : m.links[index]? = some link) (held : item ∈ link.items) :
    item ∈ m.contents :=
  mem_contents.mpr (.inr ⟨link, List.mem_of_getElem? found, held⟩)

/-- After an update of one link, whatever is held was held, or comes from its new
items. -/
theorem contents_of_set {queue : List ι} (queued : item ∈ queue → item ∈ m.contents)
    (fresh : item ∈ new.items → item ∈ m.contents)
    (held : item ∈ queue ∨ ∃ link ∈ m.links.set index new, item ∈ link.items) :
    item ∈ m.contents := by
  rcases held with waiting | ⟨link, membership, linked⟩
  · exact queued waiting
  · rcases List.mem_or_eq_of_mem_set membership with old | rfl
    · exact mem_contents.mpr (.inr ⟨link, old, linked⟩)
    · exact fresh linked

/-- A move holds nothing but what was held and what it accepts. -/
theorem Step.contents_origin (step : m.Step move after) (held : item ∈ after.contents) :
    item ∈ m.contents ∨ item ∈ move.accepts := by
  have waiting : item ∈ m.queue → item ∈ m.contents := fun queued =>
    mem_contents.mpr (.inl queued)
  rw [mem_contents] at held
  cases step with
  | idle => exact .inl (mem_contents.mpr held)
  | connect =>
      rcases held with queued | ⟨link, membership, linked⟩
      · exact .inl (waiting queued)
      · rcases List.mem_append.mp membership with old | new
        · exact .inl (mem_contents.mpr (.inr ⟨link, old, linked⟩))
        · simp [List.mem_singleton.mp new, Link.empty, Link.items] at linked
  | @live index link new found =>
      by_cases same : item = new
      · exact .inr (by simp [Move.accepts, same])
      · refine .inl (contents_of_set waiting (fun fresh => mem_contents_of_link found ?_) held)
        simpa [Link.items, same] using fresh
  | @store new trimmed kept split =>
      rcases held with queued | linked
      · have appended : item ∈ m.queue ++ [new] := split ▸ List.mem_append_right _ queued
        rcases List.mem_append.mp appended with old | same
        · exact .inl (waiting old)
        · exact .inr (by simpa [Move.accepts] using same)
      · exact .inl (mem_contents.mpr (.inr linked))
  | @drain index link found vacant =>
      refine .inl (contents_of_set (fun queued => by cases queued) (fun fresh => ?_) held)
      simp only [Link.items, List.mem_append, Option.mem_toList, vacant.2] at fresh
      rcases fresh with ((queued | none) | channel) | writing
      · exact waiting queued
      · cases none
      · exact mem_contents_of_link found (by simp [Link.items, channel])
      · exact mem_contents_of_link found (by simp [Link.items, writing])
  | @deliver index link new rest found next =>
      refine .inl (contents_of_set waiting (fun fresh => mem_contents_of_link found ?_) held)
      simp only [Link.items, List.mem_append, Option.mem_toList, next, List.mem_cons] at fresh ⊢
      tauto
  | @giveUp index link found vacant =>
      refine .inl (contents_of_set waiting (fun fresh => mem_contents_of_link found ?_) held)
      simpa [Link.items, vacant] using fresh
  | @restore index link new rest trimmed kept found next split =>
      have tailed : item = new → item ∈ m.contents := fun same =>
        mem_contents_of_link found (by simp [Link.items, next, same])
      refine .inl (contents_of_set (fun queued => ?_)
        (fun fresh => mem_contents_of_link found ?_) held)
      · have appended : item ∈ m.queue ++ [new] := split ▸ List.mem_append_right _ queued
        rcases List.mem_append.mp appended with old | same
        · exact waiting old
        · exact tailed (List.mem_singleton.mp same)
      · simp only [Link.items, List.mem_append, Option.mem_toList, next, List.mem_cons] at fresh ⊢
        tauto
  | @take index link new rest found next free =>
      refine .inl (contents_of_set waiting (fun fresh => mem_contents_of_link found ?_) held)
      simp only [Link.items, List.mem_append, Option.mem_toList, next, free,
        List.mem_cons, Option.some.injEq] at fresh ⊢
      tauto
  | @wrote index link new found writing =>
      refine .inl (contents_of_set waiting (fun fresh => mem_contents_of_link found ?_) held)
      simp only [Link.items, Option.toList_none, List.append_nil, List.mem_append] at fresh ⊢
      exact .inl fresh
  | @fail index link new found writing =>
      refine .inl (contents_of_set waiting (fun fresh => mem_contents_of_link found ?_) held)
      simp only [Link.items, Option.toList_none, List.append_nil, List.mem_append] at fresh ⊢
      exact .inl fresh
  | @discard kept dropped sublist split =>
      rcases held with queued | linked
      · exact .inl (waiting (sublist.subset queued))
      · exact .inl (mem_contents.mpr (.inr linked))

end Contents

end Mailbox

end CopySync.Foundation
