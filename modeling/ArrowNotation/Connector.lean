/-
# Connectors

The five kinds of edge and the tokens that draw them.  A text begins with at most one token, so
the order in which they are tried does not matter (`Connector.takeToken?_eq_some_iff`).
-/
import ArrowNotation.Text.Basic

namespace ArrowNotation

/-- How two nodes are connected. -/
inductive Connector where
  | solidArrow
  | solidLine
  | bidirectional
  | dashedArrow
  | thickArrow
  deriving DecidableEq

namespace Connector

/-- All connectors, in the order in which they are listed to a reader. -/
def all : List Connector := [solidArrow, solidLine, bidirectional, dashedArrow, thickArrow]

theorem mem_all (c : Connector) : c ∈ all := by cases c <;> decide

/-! ## 1. Tokens and names -/

/-- The characters that draw a connector. -/
def token : Connector → Text
  | solidArrow => ['-', '-', '>']
  | solidLine => ['-', '-', '-']
  | bidirectional => ['<', '-', '-', '>']
  | dashedArrow => ['-', '.', '-', '>']
  | thickArrow => ['=', '=', '>']

/-- The name a connector has in listings. -/
def name : Connector → Text
  | solidArrow => "SOLID_ARROW".toText
  | solidLine => "SOLID_LINE".toText
  | bidirectional => "BIDIRECTIONAL".toText
  | dashedArrow => "DASHED_ARROW".toText
  | thickArrow => "THICK_ARROW".toText

/-- What a connector looks like, in words. -/
def description : Connector → Text
  | solidArrow => "Solid arrow".toText
  | solidLine => "Solid line (no arrow)".toText
  | bidirectional => "Bidirectional arrow".toText
  | dashedArrow => "Dashed arrow".toText
  | thickArrow => "Thick arrow".toText

def ofToken? (t : Text) : Option Connector := all.find? fun c => c.token = t

/-- **Reading a token gives the connector that it draws.** -/
@[simp] theorem ofToken?_token (c : Connector) : ofToken? c.token = some c := by
  cases c <;> decide

theorem token_of_ofToken? {t : Text} {c : Connector} (h : ofToken? t = some c) : c.token = t := by
  have := List.find?_some h
  simpa using this

/-! ## 2. A token at the front of a text -/

/-- The connector whose token a text begins with, and what follows the token. -/
def takeToken? (t : Text) : Option (Connector × Text) :=
  all.findSome? fun c => (Text.afterStart? c.token t).map fun rest => (c, rest)

/-- **A token is taken from a text exactly when the text is that token and the rest.** -/
theorem takeToken?_eq_some_iff {t rest : Text} {c : Connector} :
    takeToken? t = some (c, rest) ↔ t = c.token ++ rest := by
  constructor
  · intro h
    obtain ⟨d, -, hd⟩ := List.exists_of_findSome?_eq_some h
    simp only [Option.map_eq_some_iff, Prod.mk.injEq] at hd
    obtain ⟨r, hr, rfl, rfl⟩ := hd
    exact Text.afterStart?_eq_some_iff.mp hr
  · rintro rfl
    cases c <;> rfl

end Connector

end ArrowNotation
