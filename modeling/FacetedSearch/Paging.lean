import FacetedSearch.Saturating

/-!
The position within the pages of a result.

Pages are numbered from 1.  Moves to a page that does not exist are refused and change nothing.
A position can be put on any page while the total is not known; `Paging.clamp` brings it back to
the pages there are.
-/

namespace FacetedSearch

/-- The current page, the size of a page and the number of results. -/
structure Paging where
  page : UInt64
  size : UInt64
  total : UInt64
deriving DecidableEq

/-- The moves that the two buttons offer. -/
structure Navigation where
  previous : Bool
  next : Bool
deriving DecidableEq

/-- The zero-based number of the first result on a page, or the largest word when it is beyond. -/
def pageStart (page size : UInt64) : UInt64 :=
  Saturating.mul (Saturating.pred page) size

namespace Paging

/-- The page size used unless another one is asked for. -/
def defaultSize : UInt64 :=
  10

/-- The first page of a result that is not known yet.  A page holds at least one result. -/
def start (size : UInt64) : Paging :=
  ⟨1, max size 1, 0⟩

/-- The number of pages that hold all results; zero when a page has no size. -/
def pages (paging : Paging) : UInt64 :=
  UInt64.ofNat ((paging.total.toNat + paging.size.toNat - 1) / paging.size.toNat)

/-- The number of pages, unless a page has no size. -/
def pages? (paging : Paging) : Option UInt64 :=
  if paging.size = 0 then none else some paging.pages

/-- Whether there is a page with a number. -/
def hasPage (paging : Paging) (page : UInt64) : Bool :=
  decide (1 ≤ page) && decide (page ≤ paging.pages)

/-- The zero-based number of the first result on the current page. -/
def offset (paging : Paging) : UInt64 :=
  pageStart paging.page paging.size

def navigation (paging : Paging) : Navigation :=
  ⟨paging.page != 1, decide (paging.page < paging.pages)⟩

def setTotal (paging : Paging) (total : UInt64) : Paging :=
  { paging with total }

def reset (paging : Paging) : Paging :=
  { paging with page := 1 }

/-- The position on a given page, if there is such a page. -/
def goTo? (paging : Paging) (page : UInt64) : Option Paging :=
  if paging.hasPage page then some { paging with page } else none

def nextPage (paging : Paging) : UInt64 :=
  Saturating.succ paging.page

def previousPage (paging : Paging) : UInt64 :=
  Saturating.pred paging.page

/-- The last page, or the first one when there are no results. -/
def lastPage (paging : Paging) : UInt64 :=
  max paging.pages 1

/-- Brings a position past the end back to the last page. -/
def clamp (paging : Paging) : Paging :=
  if paging.page ≤ paging.lastPage then paging else { paging with page := paging.lastPage }

/-- Whether `clamp` moves the position. -/
def isPastEnd (paging : Paging) : Bool :=
  decide (paging.lastPage < paging.page)

/-- Puts the position on a page whether or not it exists; there is no page zero. -/
def restore (paging : Paging) (page : UInt64) : Paging :=
  { paging with page := max page 1 }

end Paging

end FacetedSearch
