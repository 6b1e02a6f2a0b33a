/-
  ErrorBudget.Query

  The query expressions that alerts are made of: series with selectors,
  numbers, products, comparisons and their combinations.
-/
import ErrorBudget.Labels.Selector

namespace ErrorBudget

/-- How a recorded ratio stands to its threshold. -/
inductive Relation where
  | above
  | below
deriving DecidableEq, Repr

/-- The sign of a relation. -/
def Relation.sign : Relation → List Char
  | above => ['>']
  | below => ['<']

/-- A query expression. A group is one in parentheses. -/
inductive Query where
  | number (literal : List Char)
  | series (name : List Char) (labels : Labels)
  | product (a b : Query)
  | compare (r : Relation) (a b : Query)
  | both (a b : Query)
  | either (a b : Query)
  | group (a : Query)
deriving DecidableEq

namespace Query

/-- The written form of an expression. -/
def chars : Query → List Char
  | number literal => literal
  | series name labels => name ++ labels.selectorChars
  | product a b => a.chars ++ " * ".toList ++ b.chars
  | compare r a b => a.chars ++ ' ' :: r.sign ++ ' ' :: b.chars
  | both a b => a.chars ++ " and ".toList ++ b.chars
  | either a b => a.chars ++ " or ".toList ++ b.chars
  | group a => '(' :: (a.chars ++ [')'])

end Query

end ErrorBudget
