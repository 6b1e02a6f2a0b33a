/-
  ErrorBudget.Severity

  How urgent an alert is, and which of a service's two signals it watches.
-/

namespace ErrorBudget

/-- How urgent an alert is: someone is paged at once, or a ticket waits. -/
inductive Severity where
  | page
  | ticket
deriving DecidableEq, Repr

namespace Severity

/-- Both severities in the order in which alerts are built. -/
def all : List Severity := [page, ticket]

/-- The value of the `severity` label. -/
def text : Severity → String
  | page => "page"
  | ticket => "ticket"

/-- The severity that a tag names; only the exact label values do. -/
def ofTag? (tag : String) : Option Severity :=
  if tag = "page" then some page
  else if tag = "ticket" then some ticket
  else none

end Severity

/-- What an alert watches: the ratio of failed requests, or of slow ones. -/
inductive Signal where
  | error
  | latency
deriving DecidableEq, Repr

namespace Signal

/-- Both signals in the order in which alerts are built. -/
def all : List Signal := [error, latency]

/-- The value of the `signal` label. -/
def text : Signal → String
  | error => "error"
  | latency => "latency"

/-- The signal that a tag names; only the exact label values do. -/
def ofTag? (tag : String) : Option Signal :=
  if tag = "error" then some error
  else if tag = "latency" then some latency
  else none

/-- The part of an alert's name. -/
def fragment : Signal → String
  | error => "errors"
  | latency => "latency"

end Signal

end ErrorBudget
