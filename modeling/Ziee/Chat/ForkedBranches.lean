/-
**What a fork shows.**

A fork copies the links that are older than the message's link; a branch is displayed in the order
of its links' times. The two agree unless times are equal: a message of the same time can be
displayed before the message of the fork and is not copied, and two earlier messages of one time can
change places.

* `linksOf_forked` — the links of the new branch, whatever they are copied for.
* **`forks_show_iff`** — in a run, all forks show this exactly when all of them meet the condition.
-/

import Ziee.Chat.BranchStore
import Ziee.Library.Prefixes
import Ziee.Providers.Decode

namespace Ziee.Chat

open Prefixes RowOrder
open Ziee.Agent (Uuid)
open Ziee.Providers (bind_eq_ok)

def clone (branch : Uuid) (link : BranchMessage) : BranchMessage :=
  { link with branchId := branch, isClone := true }

def idsInOrder (scan : Scan) (rows : List BranchMessage) : List Uuid :=
  (orderBy BranchMessage.createdAt (scan.read rows)).map BranchMessage.messageId

/-- **No two messages up to a time share one.** -/
def TimesDiffer (rows : List BranchMessage) (cutoff : Timestamp) : Prop :=
  ∀ a ∈ rows, ∀ b ∈ rows, a.createdAt ≤ cutoff → a.createdAt = b.createdAt → a = b

def ComesLast (rows : List BranchMessage) (cutoff : Timestamp)
    (added : Option BranchMessage) : Prop :=
  ∀ new ∈ added, ∀ a ∈ rows, a.createdAt < cutoff → a.createdAt < new.createdAt

def forkedRows (rows : List BranchMessage) (branch : Uuid) (cutoff : Timestamp)
    (added : Option BranchMessage) : List BranchMessage :=
  (rows.filter fun link => link.createdAt < cutoff).map (clone branch) ++ added.toList

def Scan.reading (rows read : List BranchMessage) (perm : read.Perm rows) : Scan where
  read := fun others => if others = rows then read else others
  perm := fun others => by
    split
    · rename_i same
      exact same ▸ perm
    · exact List.Perm.refl others

section Links

variable {rows : List BranchMessage} {link new : BranchMessage} {branch : Uuid}
  {added : Option BranchMessage} {scan : Scan} {cutoff : Timestamp}

theorem idsInOrder_reading {read : List BranchMessage} (perm : read.Perm rows) :
    idsInOrder (.reading rows read perm) rows =
      (orderBy BranchMessage.createdAt read).map BranchMessage.messageId := by
  rw [idsInOrder, Scan.reading]
  simp

theorem idsInOrder_perm (scan : Scan) (rows : List BranchMessage) : (idsInOrder scan rows).Perm
    (rows.map BranchMessage.messageId) :=
  (orderBy_perm.trans (scan.perm rows)).map _

/-- **Two messages can be displayed in this order**, unless the second is older. -/
theorem exists_scan {first second : BranchMessage} (one : first ∈ rows) (two : second ∈ rows)
    (different : first ≠ second) (tie : first.createdAt ≤ second.createdAt) :
    ∃ scan, [first.messageId, second.messageId].Sublist (idsInOrder scan rows) := by
  obtain ⟨read, perm, pair⟩ : ∃ read : List BranchMessage, read.Perm rows ∧
      [first, second].Sublist (orderBy BranchMessage.createdAt read) :=
    orderBy_tie one two different tie
  exact ⟨.reading rows read perm, idsInOrder_reading perm ▸ pair.map _⟩

theorem id_injective (distinct : (rows.map BranchMessage.messageId).Nodup) {a b : BranchMessage}
    (one : a ∈ rows) (two : b ∈ rows) (same : a.messageId = b.messageId) : a = b :=
  List.inj_on_of_nodup_map distinct one two same

theorem display_split (scan : Scan) (distinct : (rows.map BranchMessage.messageId).Nodup)
    (member : link ∈ rows) (differ : TimesDiffer rows link.createdAt) : ∃ front back,
    orderBy BranchMessage.createdAt (scan.read rows) = front ++ link :: back ∧
    front.Perm (rows.filter fun other => other.createdAt < link.createdAt) ∧
    front.Pairwise (fun a b => a.createdAt ≤ b.createdAt) ∧
    (idsInOrder scan rows).takeWhile (fun id => id ≠ link.messageId) =
      front.map BranchMessage.messageId := by
  have perm : (orderBy BranchMessage.createdAt (scan.read rows)).Perm rows :=
    orderBy_perm.trans (scan.perm rows)
  have sorted : (orderBy BranchMessage.createdAt (scan.read rows)).Pairwise
      fun a b => a.createdAt ≤ b.createdAt := orderBy_pairwise
  have ids := idsInOrder_perm scan rows
  unfold idsInOrder at ids ⊢
  obtain ⟨front, back, split⟩ := List.append_of_mem (perm.mem_iff.mpr member)
  rw [split] at perm sorted ids ⊢
  obtain ⟨early, late, across⟩ := List.pairwise_append.mp sorted
  have nodup : (front ++ link :: back).Nodup := (List.Nodup.of_map _ (ids.nodup_iff.mpr distinct))
  refine ⟨front, back, rfl, ?_, early, ?_⟩
  · -- what stands before the message is older, as no other message has its time
    have before : front.filter (fun other => other.createdAt < link.createdAt) = front := by
      refine List.filter_eq_self.mpr fun other inside => ?_
      have old := across other inside link List.mem_cons_self
      have apart : other ≠ link := fun same =>
        (List.nodup_append.mp nodup).2.2 other inside link List.mem_cons_self same
      have other' := perm.subset (List.mem_append_left _ inside)
      simpa using lt_of_le_of_ne old fun same => apart (differ other other' link member old same)
    have after : (link :: back).filter (fun other => other.createdAt < link.createdAt) = [] := by
      refine List.filter_eq_nil_iff.mpr fun other inside => ?_
      rcases List.mem_cons.mp inside with rfl | inside
      · simp
      · simpa using (List.pairwise_cons.mp late).1 other inside
    have kept := perm.filter fun other => other.createdAt < link.createdAt
    rwa [List.filter_append, before, after, List.append_nil] at kept
  · rw [List.map_append, List.map_cons] at ids ⊢
    exact takeWhile_append (ids.nodup_iff.mpr distinct)

/-- **The fork shows the messages before**, when times differ. -/
theorem forkedRows_shows (distinct : (rows.map BranchMessage.messageId).Nodup)
    (member : link ∈ rows)
    (differ : TimesDiffer rows link.createdAt) (last : ComesLast rows link.createdAt added)
    (scan scan' : Scan) : idsInOrder scan' (forkedRows rows branch link.createdAt added) =
      (idsInOrder scan rows).takeWhile (fun id => id ≠ link.messageId) ++
        added.toList.map BranchMessage.messageId := by
  obtain ⟨front, back, -, perm, sorted, taken⟩ := display_split scan distinct member differ
  have old : ∀ other ∈ front, other ∈ rows ∧ other.createdAt < link.createdAt := by
    intro other inside
    simpa using List.mem_filter.mp (perm.subset inside)
  have copied : (front.map (clone branch) ++ added.toList).Perm
      (scan'.read (forkedRows rows branch link.createdAt added)) :=
    ((perm.map _).append_right _).trans (scan'.perm _).symm
  have ordered : (front.map (clone branch) ++ added.toList).Pairwise
      fun a b => a.createdAt ≤ b.createdAt := by
    refine List.pairwise_append.mpr ⟨List.pairwise_map.mpr sorted, ?_, ?_⟩
    · cases added with
      | none => exact List.Pairwise.nil
      | some new => exact List.pairwise_singleton _ _
    · intro a inside b new
      obtain ⟨other, here, rfl⟩ := List.mem_map.mp inside
      exact (last b (Option.mem_toList.mp new) other (old other here).1 (old other here).2).le
  have unique : ∀ a ∈ scan'.read (forkedRows rows branch link.createdAt added),
      ∀ b ∈ scan'.read (forkedRows rows branch link.createdAt added),
      a.createdAt = b.createdAt → a = b := by
    intro a one b two same
    rw [← copied.mem_iff, List.mem_append] at one two
    rcases one with one | one
    · obtain ⟨x, here, rfl⟩ := List.mem_map.mp one
      rcases two with two | two
      · obtain ⟨y, there, rfl⟩ := List.mem_map.mp two
        rw [differ x (old x here).1 y (old y there).1 (old x here).2.le same]
      · exact absurd same (last b (Option.mem_toList.mp two) x (old x here).1 (old x here).2).ne
    · rcases two with two | two
      · obtain ⟨y, there, rfl⟩ := List.mem_map.mp two
        exact absurd same.symm (last a (Option.mem_toList.mp one) y (old y there).1
          (old y there).2).ne
      · exact Option.mem_unique (Option.mem_toList.mp one) (Option.mem_toList.mp two)
  rw [taken, idsInOrder, ← orderBy_unique unique copied ordered, List.map_append, List.map_map]
  rfl

theorem forkedRows_distinct (distinct : (rows.map BranchMessage.messageId).Nodup)
    (fresh : ∀ new ∈ added, new.messageId ∉ rows.map BranchMessage.messageId) :
    ((forkedRows rows branch cutoff added).map BranchMessage.messageId).Nodup := by
  have kept : ((rows.filter fun link => link.createdAt < cutoff).map
      BranchMessage.messageId).Nodup := distinct.sublist (List.filter_sublist.map _)
  rw [forkedRows, List.map_append, List.map_map]
  refine List.nodup_append.mpr ⟨kept, ?_, fun a one b two same => ?_⟩
  · cases added with
    | none => exact List.nodup_nil
    | some new => exact List.nodup_singleton _
  · obtain ⟨new, here, rfl⟩ := List.mem_map.mp two
    refine fresh new (Option.mem_toList.mp here) (same ▸ ?_)
    exact (List.filter_sublist.map BranchMessage.messageId).subset one

theorem mem_forkedRows {other : BranchMessage} (member : other ∈ rows)
    (early : other.createdAt < cutoff) : clone branch other ∈ forkedRows rows branch cutoff added :=
  List.mem_append_left _ (List.mem_map_of_mem (List.mem_filter.mpr ⟨member, by simpa using early⟩))

/-- **Only then**: with equal times some display differs. -/
theorem differ_of_shows (distinct : (rows.map BranchMessage.messageId).Nodup) (member : link ∈ rows)
    (fresh : ∀ new ∈ added, new.messageId ∉ rows.map BranchMessage.messageId)
    (shows : ∀ scan scan', idsInOrder scan' (forkedRows rows branch link.createdAt added) =
      (idsInOrder scan rows).takeWhile (fun id => id ≠ link.messageId) ++
        added.toList.map BranchMessage.messageId) :
    TimesDiffer rows link.createdAt ∧ ComesLast rows link.createdAt added := by
  have nodup : (rows.map BranchMessage.messageId).Nodup := distinct
  have nodup' : ∀ scan, (idsInOrder scan (forkedRows rows branch link.createdAt added)).Nodup :=
    fun scan => (idsInOrder_perm scan _).nodup_iff.mpr (forkedRows_distinct distinct fresh)
  -- all displays of the new branch agree
  have agree : ∀ scan scan', idsInOrder scan (forkedRows rows branch link.createdAt added) =
      idsInOrder scan' (forkedRows rows branch link.createdAt added) := fun scan scan' =>
    (shows scan scan).trans (shows scan scan').symm
  -- no message but the one of the fork has its time
  have alone : ∀ other ∈ rows, other.createdAt = link.createdAt → other = link := by
    intro other here same
    by_contra apart
    obtain ⟨scan, pair⟩ := exists_scan here member apart same.le
    have taken := mem_takeWhile_of_pair ((idsInOrder_perm scan rows).nodup_iff.mpr nodup) pair
    have displayed : other.messageId ∈
        idsInOrder scan (forkedRows rows branch link.createdAt added) := by
      rw [shows scan scan]
      exact List.mem_append_left _ taken
    rw [(idsInOrder_perm scan _).mem_iff, forkedRows, List.map_append, List.mem_append,
      List.map_map] at displayed
    rcases displayed with copied | new
    · obtain ⟨old, kept, id⟩ := List.mem_map.mp copied
      obtain ⟨inside, early⟩ := List.mem_filter.mp kept
      have whole := id_injective distinct inside here id
      rw [whole, same] at early
      simp at early
    · obtain ⟨new, inside, id⟩ := List.mem_map.mp new
      refine fresh new (Option.mem_toList.mp inside) (id ▸ ?_)
      exact List.mem_map_of_mem here
  refine ⟨fun a one b two old same => ?_, fun new inside a here early => ?_⟩
  · by_contra apart
    rcases lt_or_eq_of_le old with early | equal
    · have apart' : clone branch a ≠ clone branch b := by
        intro clones
        have ids : (clone branch a).messageId = (clone branch b).messageId :=
          congrArg BranchMessage.messageId clones
        exact apart (id_injective distinct one two ids)
      have first : clone branch a ∈ forkedRows rows branch link.createdAt added :=
        mem_forkedRows one early
      have second : clone branch b ∈ forkedRows rows branch link.createdAt added :=
        mem_forkedRows two (same ▸ early)
      obtain ⟨scan, pair⟩ := exists_scan first second apart' same.le
      obtain ⟨scan', pair'⟩ := exists_scan second first (Ne.symm apart') same.ge
      rw [agree scan' scan] at pair'
      exact pair_antisymm (nodup' scan) pair pair'
    · exact apart ((alone a one equal).trans (alone b two (same ▸ equal)).symm)
  · by_contra late
    have first : new ∈ forkedRows rows branch link.createdAt added :=
      List.mem_append_right _ (Option.mem_toList.mpr inside)
    have second : clone branch a ∈ forkedRows rows branch link.createdAt added :=
      mem_forkedRows here early
    have apart : new.messageId ≠ a.messageId := fun same =>
      fresh new inside (same ▸ List.mem_map_of_mem here)
    have apart' : new ≠ clone branch a := by
      intro same
      have ids : new.messageId = (clone branch a).messageId := congrArg BranchMessage.messageId same
      exact apart ids
    obtain ⟨scan, pair⟩ := exists_scan first second apart' (not_lt.mp late)
    -- the new message is displayed last
    have place := shows scan scan
    have last : added.toList.map BranchMessage.messageId = [new.messageId] := by
      rw [Option.mem_def.mp inside]
      rfl
    rw [last] at place
    rw [place] at pair
    have shown : (clone branch a).messageId ∈
        idsInOrder scan (forkedRows rows branch link.createdAt added) :=
      (idsInOrder_perm scan _).mem_iff.mpr (List.mem_map_of_mem second)
    rw [place] at shown
    have earlier := (List.mem_append.mp shown).resolve_right fun end' =>
      apart (List.mem_singleton.mp end').symm
    refine pair_antisymm (place ▸ nodup' scan) pair ?_
    exact (List.singleton_sublist.mpr earlier).append (List.Sublist.refl [new.messageId])

end Links

/-! ### What the statements write -/

section Statements

variable {store after : ChatStore} {branch message : Uuid} {link : BranchMessage}
  {links : List BranchMessage}

theorem insertBranch_ok {row : Branch} (done : store.insertBranch branch row = .ok after) :
    branch ∉ store.branches ∧ after.links = store.links ∧ after.messages = store.messages := by
  unfold ChatStore.insertBranch at done
  split at done
  · rename_i valid
    cases done
    exact ⟨valid.1, rfl, rfl⟩
  · cases done

theorem insertLinks_ok (done : store.insertLinks links = .ok after) :
    after.links = store.links ++ links ∧ after.messages = store.messages := by
  unfold ChatStore.insertLinks at done
  split at done
  · cases done
    exact ⟨rfl, rfl⟩
  · cases done

theorem insertMessage_ok {row : Message} (done : store.insertMessage row = .ok after) :
    row.id ∉ store.messages.map Message.id ∧ after.links = store.links := by
  unfold ChatStore.insertMessage at done
  split at done
  · rename_i fresh
    cases done
    exact ⟨fresh, rfl⟩
  · cases done

theorem linkOf_some (found : store.linkOf branch message = some link) :
    link ∈ store.linksOf branch ∧ link.messageId = message :=
  ⟨List.mem_of_find?_eq_some found, by
    unfold ChatStore.linkOf at found
    simpa using List.find?_some found⟩

theorem mem_linksOf : link ∈ store.linksOf branch ↔ link ∈ store.links ∧
    link.branchId = branch := by
  simp [ChatStore.linksOf]

theorem linksOf_distinct (store : ChatStore) (branch : Uuid) :
    ((store.linksOf branch).map BranchMessage.messageId).Nodup := by
  have keys : ((store.linksOf branch).map BranchMessage.key).Nodup :=
    store.unique.sublist (List.filter_sublist.map _)
  have same : (store.linksOf branch).map BranchMessage.key =
      ((store.linksOf branch).map BranchMessage.messageId).map fun id => (branch, id) := by
    rw [List.map_map]
    refine List.map_congr_left fun link member => ?_
    rw [BranchMessage.key, (mem_linksOf.mp member).2]
    rfl
  rw [same] at keys
  exact List.Nodup.of_map _ keys

theorem linksOf_known (member : link ∈ store.linksOf branch) :
    link.messageId ∈ store.messages.map Message.id :=
  store.known link (mem_linksOf.mp member).1

theorem linksOf_fresh (fresh : branch ∉ store.branches) : store.linksOf branch = [] := by
  refine List.filter_eq_nil_iff.mpr fun link member => ?_
  have home := store.homed link member
  simp only [decide_eq_true_eq]
  rintro rfl
  exact fresh home

end Statements

/-! ### Forks -/

def shown (scan : Scan) (store : ChatStore) (branch : Uuid) : List Uuid :=
  (store.listMessagesInBranch scan branch).map Message.id

/-- **What a fork is for**: the new branch shows the messages before the one of the fork and then
what is new, and the parent shows what it did, in whatever order the rows are read. -/
structure ForkShows (store after : ChatStore) (parent branch message : Uuid) (added : List Uuid) :
    Prop where
  copied : ∀ scan scan', shown scan' after branch =
    (shown scan store parent).takeWhile (fun id => id ≠ message) ++ added
  kept : ∀ scan, shown scan after parent = shown scan store parent

section Forks

variable {store after : ChatStore} {conversation parent branch message id : Uuid} {now : Timestamp}
  {forkLevel content : String}

theorem shown_eq (scan : Scan) (store : ChatStore) (branch : Uuid) :
    shown scan store branch = idsInOrder scan (store.linksOf branch) := by
  have each : ∀ links : List BranchMessage,
      (∀ link ∈ links, link.messageId ∈ store.messages.map Message.id) →
      (store.join links).map Message.id = links.map BranchMessage.messageId := by
    intro links known
    induction links with
    | nil => rfl
    | cons link rest ih =>
      obtain ⟨message, here, same⟩ := List.mem_map.mp (known link List.mem_cons_self)
      obtain ⟨found, get⟩ : ∃ found, store.getMessage link.messageId = some found :=
        Option.isSome_iff_exists.mp (List.find?_isSome.mpr ⟨message, here, by simpa using same⟩)
      have id : found.id = link.messageId := by
        unfold ChatStore.getMessage at get
        simpa using List.find?_some get
      have rest' := ih fun other member => known other (List.mem_cons_of_mem _ member)
      have split : store.join (link :: rest) = found :: store.join rest :=
        List.filterMap_cons_some get
      rw [split, List.map_cons, List.map_cons, rest', id]
  exact each _ fun link member => linksOf_known ((scan.perm _).subset (orderBy_perm.subset member))

/-- **The rows after a fork.** -/
structure Forked (store after : ChatStore) (parent branch : Uuid) (link : BranchMessage)
    (added : Option BranchMessage) : Prop where
  kept : after.linksOf parent = store.linksOf parent
  rows : after.linksOf branch = forkedRows (store.linksOf parent) branch link.createdAt added
  fresh : ∀ new ∈ added, new.messageId ∉ (store.linksOf parent).map BranchMessage.messageId

theorem linksOf_forked {link : BranchMessage} {added : Option BranchMessage}
    (unknown : branch ∉ store.branches) (member : link ∈ store.linksOf parent)
    (home : ∀ new ∈ added, new.branchId = branch)
    (fresh : ∀ new ∈ added, new.messageId ∉ store.messages.map Message.id)
    (links : after.links = store.links ++
      (store.clones parent branch link.createdAt ++ added.toList)) :
    Forked store after parent branch link added := by
  have apart : parent ≠ branch := by
    rintro rfl
    obtain ⟨inside, same⟩ := mem_linksOf.mp member
    exact unknown (same ▸ store.homed link inside)
  have copies : ∀ other ∈ store.clones parent branch link.createdAt ++ added.toList,
      other.branchId = branch := by
    intro other inside
    rcases List.mem_append.mp inside with copied | new
    · obtain ⟨_, -, rfl⟩ := List.mem_map.mp copied
      rfl
    · exact home other (Option.mem_toList.mp new)
  refine ⟨?_, ?_, fun new inside known => ?_⟩
  · rw [ChatStore.linksOf, links, List.filter_append]
    have none : (store.clones parent branch link.createdAt ++ added.toList).filter
        (fun other => other.branchId = parent) = [] :=
      List.filter_eq_nil_iff.mpr fun other inside => by simp [copies other inside, Ne.symm apart]
    rw [none, List.append_nil]
    rfl
  · have old := linksOf_fresh unknown
    unfold ChatStore.linksOf at old
    rw [ChatStore.linksOf, links, List.filter_append, old, List.nil_append]
    exact List.filter_eq_self.mpr fun other inside => by simp [copies other inside]
  · obtain ⟨other, here, same⟩ := List.mem_map.mp known
    exact fresh new inside (same ▸ linksOf_known here)

/-- **A fork shows what it should exactly when times differ.** -/
theorem Forked.shows_iff {link : BranchMessage} {added : Option BranchMessage}
    (forked : Forked store after parent branch link added)
    (found : store.linkOf parent message = some link) :
    ForkShows store after parent branch message (added.toList.map BranchMessage.messageId) ↔
      TimesDiffer (store.linksOf parent) link.createdAt ∧
      ComesLast (store.linksOf parent) link.createdAt added := by
  obtain ⟨member, rfl⟩ := linkOf_some found
  have distinct := linksOf_distinct store parent
  have kept : ∀ scan, shown scan after parent = shown scan store parent := fun scan => by
    rw [shown_eq, shown_eq, forked.kept]
  constructor
  · intro shows
    refine @differ_of_shows _ _ branch _ distinct member forked.fresh fun scan scan' => ?_
    rw [← forked.rows, ← shown_eq, ← shown_eq]
    exact shows.copied scan scan'
  · rintro ⟨differ, last⟩
    refine ⟨fun scan scan' => ?_, kept⟩
    rw [shown_eq, shown_eq, forked.rows]
    exact forkedRows_shows distinct member differ last scan scan'

theorem createBranchFromMessage_forked
    (done : store.createBranchFromMessage conversation parent message forkLevel branch now =
      .ok after) :
    ∃ link, store.linkOf parent message = some link ∧
      Forked store after parent branch link none := by
  unfold ChatStore.createBranchFromMessage at done
  split at done
  · cases done
  · rename_i link found
    refine ⟨link, found, ?_⟩
    obtain ⟨made, inserted, done⟩ := bind_eq_ok done
    obtain ⟨copied, cloned, done⟩ := bind_eq_ok done
    cases done
    obtain ⟨unknown, links, -⟩ := insertBranch_ok inserted
    obtain ⟨links', -⟩ := insertLinks_ok cloned
    refine linksOf_forked unknown (linkOf_some found).1 (by simp) (by simp) ?_
    show copied.links = _
    rw [links', links]
    simp

theorem editMessage_forked
    (done : store.editMessage message conversation content parent branch id now = .ok after) :
    ∃ link, store.linkOf parent message = some link ∧
      Forked store after parent branch link (some ⟨branch, id, false, now⟩) := by
  unfold ChatStore.editMessage at done
  split at done
  · cases done
  · split at done
    · cases done
    · rename_i original _ link found
      refine ⟨link, found, ?_⟩
      obtain ⟨made, inserted, done⟩ := bind_eq_ok done
      obtain ⟨copied, cloned, done⟩ := bind_eq_ok done
      obtain ⟨added, created, done⟩ := bind_eq_ok done
      obtain ⟨linked, attached, done⟩ := bind_eq_ok done
      cases done
      obtain ⟨unknown, madeLinks, madeMessages⟩ := insertBranch_ok inserted
      obtain ⟨copiedLinks, copiedMessages⟩ := insertLinks_ok cloned
      obtain ⟨fresh, addedLinks⟩ := insertMessage_ok created
      obtain ⟨allLinks, -⟩ := insertLinks_ok attached
      rw [copiedMessages, madeMessages] at fresh
      refine linksOf_forked unknown (linkOf_some found).1 (by simp) ?_ ?_
      · intro new here
        rw [← Option.mem_some_iff.mp here]
        exact fresh
      · show linked.links = _
        have filled : ∀ content, (added.insertContent content).links = added.links := fun _ => rfl
        rw [allLinks, filled, addedLinks, copiedLinks, madeLinks]
        simp

end Forks

/-! ### Runs -/

/-- The transactions, with the ids and the time they get. -/
inductive BranchOp
  | createMessage (branch : Uuid) (role : String) (modelId : Option Uuid) (id : Uuid)
      (now : Timestamp)
  | createBranchFromMessage (conversation parent message : Uuid) (forkLevel : String)
    (branch : Uuid) (now : Timestamp)
  | editMessage (message conversation : Uuid) (content : String) (parent branch id : Uuid)
      (now : Timestamp)

namespace ChatStore

def perform (store : ChatStore) : BranchOp → Except StoreError ChatStore
  | .createMessage branch role modelId id now => store.createMessage branch role modelId id now
  | .createBranchFromMessage conversation parent message forkLevel branch now =>
    store.createBranchFromMessage conversation parent message forkLevel branch now
  | .editMessage message conversation content parent branch id now =>
    store.editMessage message conversation content parent branch id now

def step (store : ChatStore) (op : BranchOp) : ChatStore :=
  match store.perform op with
  | .ok after => after
  | .error _ => store

def run (store : ChatStore) (ops : List BranchOp) : ChatStore := ops.foldl step store

end ChatStore

def ForkExact (start : ChatStore) (before : List BranchOp) (op : BranchOp) : Prop :=
  ∀ after, (start.run before).perform op = .ok after → match op with
    | .createMessage .. => True
    | .createBranchFromMessage _ parent message _ branch _ =>
      ForkShows (start.run before) after parent branch message []
    | .editMessage message _ _ parent branch id _ =>
      ForkShows (start.run before) after parent branch message [id]

/-- **When a fork does**: no two messages of the parent up to the message of the fork share a time,
and a message that an edit adds comes after those that are copied. -/
def ForkSafe (start : ChatStore) (before : List BranchOp) (op : BranchOp) : Prop :=
  ∀ after, (start.run before).perform op = .ok after → match op with
    | .createMessage .. => True
    | .createBranchFromMessage _ parent message _ _ _ => ∀ link,
      (start.run before).linkOf parent message = some link →
      TimesDiffer ((start.run before).linksOf parent) link.createdAt
    | .editMessage message _ _ parent branch id now => ∀ link,
      (start.run before).linkOf parent message = some link →
      TimesDiffer ((start.run before).linksOf parent) link.createdAt ∧
      ComesLast ((start.run before).linksOf parent) link.createdAt (some ⟨branch, id, false, now⟩)

theorem forkExact_iff {start : ChatStore} {before : List BranchOp} {op : BranchOp} :
    ForkExact start before op ↔ ForkSafe start before op := by
  refine forall_congr' fun after => forall_congr' fun done => ?_
  cases op with
  | createMessage branch role modelId id now => exact Iff.rfl
  | createBranchFromMessage conversation parent message forkLevel branch now =>
    obtain ⟨link, found, forked⟩ := createBranchFromMessage_forked done
    refine (forked.shows_iff found).trans ⟨?_, fun safe => ⟨safe link found, by simp [ComesLast]⟩⟩
    rintro ⟨differ, -⟩ other same
    rw [found] at same
    cases same
    exact differ
  | editMessage message conversation content parent branch id now =>
    obtain ⟨link, found, forked⟩ := editMessage_forked done
    refine (forked.shows_iff found).trans ⟨?_, fun safe => safe link found⟩
    rintro both other same
    rw [found] at same
    cases same
    exact both

/-- **Forks of forks**: in every run all forks show what they should exactly when all are safe. -/
theorem forks_show_iff (start : ChatStore) (ops : List BranchOp) :
    EachStep (ForkExact start) ops ↔ EachStep (ForkSafe start) ops :=
  forall_congr' fun _ => forall_congr' fun _ => forall_congr' fun _ => imp_congr_right fun _ =>
    forkExact_iff

/-! ### Two messages of one time -/

def freshConversation : ChatStore where
  conversations := (∅ : AList _).insert 5 (some 1)
  branches := (∅ : AList _).insert 1 ⟨5, none, none, "user", 0⟩
  messages := []
  contents := []
  links := []
  messageIds := List.nodup_nil
  unique := List.nodup_nil
  homed := by simp
  known := by simp

/-- Two messages are created at one time; the second is edited later. -/
def tiedFork : List BranchOp :=
  [.createMessage 1 "user" none 10 100, .createMessage 1 "assistant" none 11 100,
    .editMessage 11 5 "again" 1 2 12 200]

/-- **The message before is lost**: the branch displayed it, the fork does not. -/
theorem tied_fork_drops :
    shown ⟨id, List.Perm.refl⟩ (freshConversation.run (tiedFork.take 2)) 1 = [10, 11] ∧
    shown ⟨id, List.Perm.refl⟩ (freshConversation.run tiedFork) 2 = [12] ∧
    ¬EachStep (ForkExact freshConversation) tiedFork := by
  have parent : shown ⟨id, List.Perm.refl⟩
    (freshConversation.run (tiedFork.take 2)) 1 = [10, 11] := by
    decide
  have child : shown ⟨id, List.Perm.refl⟩ (freshConversation.run tiedFork) 2 = [12] := by
    decide
  refine ⟨parent, child, fun each => ?_⟩
  have exact := each (tiedFork.take 2) (.editMessage 11 5 "again" 1 2 12 200) [] rfl
  have last : freshConversation.run tiedFork =
      (freshConversation.run (tiedFork.take 2)).step (.editMessage 11 5 "again" 1 2 12 200) := rfl
  rw [last, ChatStore.step] at child
  cases done : (freshConversation.run (tiedFork.take 2)).perform
      (.editMessage 11 5 "again" 1 2 12 200) with
  | ok after =>
    rw [done] at child
    have copied := (exact after done).copied ⟨id, List.Perm.refl⟩ ⟨id, List.Perm.refl⟩
    rw [child, parent] at copied
    revert copied
    decide
  | error error =>
    rw [done] at child
    change shown ⟨id, List.Perm.refl⟩ (freshConversation.run (tiedFork.take 2)) 2 = [12] at child
    revert child
    decide

end Ziee.Chat
