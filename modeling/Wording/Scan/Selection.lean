import Wording.Scan.Report

/-!
The choice and order of reports for a reader: filters by language, by a piece of the name or path and by
how biased a file is, and an order by one column.
-/

set_option autoImplicit false

namespace Wording

/-- How biased a file is: above ten percent, above five, above none, or not at all. -/
inductive BiasBand where
  | high
  | low
  | medium
  | none
deriving DecidableEq, Repr

namespace BiasBand

def text : BiasBand → Text
  | .high => "high".toList
  | .low => "low".toList
  | .medium => "medium".toList
  | .none => "none".toList

def all : List BiasBand := [.high, .low, .medium, .none]

def ofText? (t : Text) : Option BiasBand := all.find? fun b => b.text = t

/-- Whether a quantity lies above one whole number and not above another. -/
def within (least greatest : Int) (q : Number.Quantity) : Bool :=
  (Number.Quantity.whole least).lt q && !(Number.Quantity.whole greatest).lt q

/-- Whether a percentage lies in a band, the upper end included. -/
def holds (b : BiasBand) (q : Number.Quantity) : Bool :=
  match b with
  | .high => (Number.Quantity.whole 10).lt q
  | .medium => within 5 10 q
  | .low => within 0 5 q
  | .none => q.finite?.any fun (n, _) => n = 0

end BiasBand

/-- The column that reports are ordered by. -/
inductive SortColumn where
  | bias
  | elements
  | language
  | name
  | occurrences
  | time
deriving DecidableEq, Repr

namespace SortColumn

def text : SortColumn → Text
  | .bias => "bias".toList
  | .elements => "elements".toList
  | .language => "language".toList
  | .name => "name".toList
  | .occurrences => "occurrences".toList
  | .time => "time".toList

def all : List SortColumn := [.bias, .elements, .language, .name, .occurrences, .time]

def ofText? (t : Text) : Option SortColumn := all.find? fun c => c.text = t

/-- Whether one report may stand before another: numbers come from the greatest down, words from the
first up. -/
def mayPrecede (c : SortColumn) (a b : FileReport) : Bool :=
  match c with
  | .bias => !a.biasPercentage.lt b.biasPercentage
  | .elements => b.totalElements ≤ a.totalElements
  | .language => Text.le a.language b.language
  | .name => Text.le (Text.lower a.name) (Text.lower b.name)
  | .occurrences => b.biasedElements ≤ a.biasedElements
  | .time => b.estimatedFixTime ≤ a.estimatedFixTime

end SortColumn

/-- Which reports are shown, and in which order. An empty language or search text filters nothing. -/
structure Selection where
  language : Text := []
  search : Text := []
  band : Option BiasBand := none
  sortBy : SortColumn := .bias
deriving DecidableEq, Repr

namespace Selection

/-- Whether a report passes all filters. -/
def admits (s : Selection) (r : FileReport) : Bool :=
  (s.language = [] || r.language = Text.lower s.language)
    && (s.search = [] || Text.contains (Text.lower r.name) (Text.lower s.search)
      || Text.contains (Text.lower r.path) (Text.lower s.search))
    && s.band.all fun b => b.holds r.biasPercentage

/-- The admitted reports in order; reports that the order does not tell apart keep theirs. -/
def apply (s : Selection) (reports : List FileReport) : List FileReport :=
  (reports.filter s.admits).mergeSort s.sortBy.mayPrecede

end Selection

end Wording
