import Mathlib.Data.List.TakeDrop
import Mathlib.Data.Nat.Notation
import Mathlib.Tactic.TypeStar

/-!
# Reading a list in pages

A server holds a finite list and hands it out in pages. A page is asked for with a cursor, or
without one for the first page, and comes with the cursor of the next page if there are more items.
A client follows the cursors until it gets none (`Collects`).

* `collects_page`: following the cursors of a server gives exactly its items.
* `collects_last_iff`: an answer without a cursor is all that a client ever gets.
-/

/-- A list that is served in pages: the page that begins at item `n` ends before item `pageEnd n`,
and is named by `cursor n`. -/
structure PagedServer (α : Type*) where
  items : List α
  pageEnd : ℕ → ℕ
  lt_pageEnd : ∀ n, n < pageEnd n
  cursor : ℕ → String
  offset : String → Option ℕ
  offset_cursor : ∀ n, offset (cursor n) = some n

namespace PagedServer

variable {α : Type*} (server : PagedServer α)

/-- The page that begins at item `n`, and the next cursor. -/
def pageAt (n : ℕ) : List α × Option String :=
  ((server.items.take (server.pageEnd n)).drop n,
    if server.pageEnd n < server.items.length then some (server.cursor (server.pageEnd n)) else none)

/-- The answer to a request for a page; a cursor that names no page is refused. -/
def page : Option String → Option (List α × Option String)
  | none => some (server.pageAt 0)
  | some cursor => (server.offset cursor).map server.pageAt

theorem page_cursor (n : ℕ) : server.page (some (server.cursor n)) = some (server.pageAt n) := by
  simp [page, server.offset_cursor]

end PagedServer

/-- A client that asks `fetch` for a page, and then for the next one as long as it gets a cursor,
has received these items when it is done. -/
inductive Collects {α : Type*} (fetch : Option String → Option (List α × Option String)) :
    Option String → List α → Prop
  | last {cursor : Option String} {items : List α} :
      fetch cursor = some (items, none) → Collects fetch cursor items
  | more {cursor : Option String} {next : String} {items rest : List α} :
      fetch cursor = some (items, some next) → Collects fetch (some next) rest →
      Collects fetch cursor (items ++ rest)

variable {α : Type*}

/-- An answer without a cursor ends the run. -/
theorem collects_last_iff {fetch : Option String → Option (List α × Option String)}
    {cursor : Option String} {items received : List α} (h : fetch cursor = some (items, none)) :
    Collects fetch cursor received ↔ received = items := by
  constructor
  · intro hc
    cases hc with
    | last h' =>
      rw [h] at h'
      cases h'
      rfl
    | more h' =>
      rw [h] at h'
      cases h'
  · rintro rfl
    exact Collects.last h

/-- The items of a page, and those behind it. -/
theorem PagedServer.pageAt_append (server : PagedServer α) (n : ℕ) :
    (server.pageAt n).1 ++ server.items.drop (server.pageEnd n) = server.items.drop n := by
  unfold pageAt
  rw [List.drop_take]
  have hend := server.lt_pageEnd n
  have hsplit := List.take_append_drop (server.pageEnd n - n) (server.items.drop n)
  rwa [List.drop_drop, show n + (server.pageEnd n - n) = server.pageEnd n by omega] at hsplit

/-- From any page on, a client receives the items from there on. -/
theorem PagedServer.collects_pageAt (server : PagedServer α) {cursor : Option String} {n : ℕ}
    (h : server.page cursor = some (server.pageAt n)) :
    Collects server.page cursor (server.items.drop n) := by
  -- each page leaves fewer items behind it
  induction hleft : server.items.length - n using Nat.strongRecOn
    generalizing cursor n with
  | _ left ih =>
    rw [← server.pageAt_append n]
    have hend := server.lt_pageEnd n
    by_cases hmore : server.pageEnd n < server.items.length
    · have hfetch : server.page cursor =
          some ((server.pageAt n).1, some (server.cursor (server.pageEnd n))) := by
        rw [h]
        simp [pageAt, hmore]
      apply Collects.more hfetch
      exact ih _ (by omega) (server.page_cursor _) rfl
    · have hnil : server.items.drop (server.pageEnd n) = [] :=
        List.drop_eq_nil_of_le (Nat.le_of_not_lt hmore)
      rw [hnil, List.append_nil]
      apply Collects.last
      rw [h]
      simp [pageAt, hmore]

/-- A client that follows the cursors of a server receives each of its items once, in order. -/
theorem PagedServer.collects_page (server : PagedServer α) :
    Collects server.page none server.items :=
  server.collects_pageAt (n := 0) rfl
