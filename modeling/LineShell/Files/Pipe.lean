import LineShell.Text.Bytes

/-!
# Pipes

What a pipe holds, and how much it takes.

## The model

A pipe hands out bytes in the order in which it got them. It keeps them on a fixed number of pages,
and a page is free again when all its bytes have been read. The bytes of a write that make no full page
go to the last page if they fit there, and all others to new pages, so that a pipe can be full before
it holds as many bytes as its pages could. A pipe that somebody empties all the time is never full.
-/

namespace LineShell

/-- A page of a pipe. -/
structure Page where
  /-- How many bytes were written to it. -/
  filled : Nat
  /-- How many of them have not been read. -/
  unread : Nat
  deriving DecidableEq, Repr

/-- A pipe. -/
structure Pipe where
  /-- The bytes to be read next. -/
  front : Bytes := []
  /-- The bytes after them, last one first. -/
  back : Bytes := []
  /-- The pages in use, first one first. -/
  pages : List Page := []
  /-- Whether it can be full. -/
  bounded : Bool := true
  deriving DecidableEq, Repr

namespace Pipe

/-- How many bytes a page takes. -/
def pageSize : Nat := 4096

/-- How many pages a pipe has. -/
def pageCount : Nat := 16

/-- A pipe that is never full, and holds some bytes. -/
def unbounded (bs : Bytes) : Pipe := { front := bs, bounded := false }

/-- All bytes of the pipe, in order. -/
def bytes (p : Pipe) : Bytes :=
  match p.back with
  | [] => p.front
  | back => p.front ++ back.reverse

/-- There is nothing to read. -/
def isEmpty (p : Pipe) : Bool := p.front.isEmpty && p.back.isEmpty

/-- Bytes that can be read now; there are some unless the pipe is empty. -/
def peek (p : Pipe) : Bytes := if p.front.isEmpty then p.back.reverse else p.front

/-! ### Reading -/

/-- The pages after bytes were read. -/
def turn : Nat → List Page → List Page
  | _, [] => []
  | n, page :: pages =>
    if n < page.unread then { page with unread := page.unread - n } :: pages
    else turn (n - page.unread) pages

/-- How many of so many bytes are still to be taken after a row of them was, and what is left of the
row. -/
def skip : Nat → Bytes → Nat × Bytes
  | 0, bs => (0, bs)
  | n, [] => (n, [])
  | n + 1, _ :: bs => skip n bs

/-- The pipe after bytes were read. -/
def advance (p : Pipe) (n : Nat) : Pipe :=
  let pages := turn n p.pages
  match skip n p.front with
  | (0, front) => { p with front, pages }
  | (more, _) => { p with front := p.back.reverse.drop more, back := [], pages }

/-! ### Writing -/

/-- The pages with bytes that fit on the last page, if there are such bytes. -/
def topUp (n : Nat) : List Page → Option (List Page)
  | [] => none
  | [page] =>
    if 0 < n && page.filled + n ≤ pageSize then
      some [{ filled := page.filled + n, unread := page.unread + n }]
    else none
  | page :: pages => (topUp n pages).map (page :: ·)

/-- New pages for bytes, of which there are at most so many. -/
def newPages : Nat → Nat → List Page
  | 0, _ => []
  | count + 1, n =>
    if n = 0 then []
    else { filled := min n pageSize, unread := min n pageSize } :: newPages count (n - pageSize)

/-- How many bytes of a write the pipe takes now, and the pages after that. The last page in use is
tried at the start of a write only. -/
def takes (p : Pipe) (starting : Bool) (n : Nat) : Nat × List Page :=
  let spare := if starting then n % pageSize else 0
  let (done, pages) := match topUp spare p.pages with
    | some pages => (spare, pages)
    | none => (0, p.pages)
  let added := newPages (pageCount - pages.length) (n - done)
  (done + added.foldr (·.filled + ·) 0, pages ++ added)

/-- The pipe with more bytes, whether it has pages for them or not. -/
def append (p : Pipe) (bs : Bytes) : Pipe := { p with back := bs.reverse ++ p.back }

/-- The pipe after it has taken what it can of a write, and how many bytes that were. -/
def push (p : Pipe) (starting : Bool) (bs : Bytes) : Nat × Pipe :=
  if p.bounded then
    let (n, pages) := p.takes starting bs.length
    (n, { p with back := (bs.take n).reverse ++ p.back, pages })
  else (bs.length, p.append bs)

/-- There is no page left. -/
def isFull (p : Pipe) : Bool := p.bounded && pageCount ≤ p.pages.length

end Pipe

end LineShell
