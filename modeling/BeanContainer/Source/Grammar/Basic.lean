import BeanContainer.Source.Grammar.Item
/-!
# The grammar

All rules, filled in for a number of levels. Each rule that refers to another one goes one level down;
since between two levels at least every eighth step reads something, eight levels for each token are
enough.
-/

namespace BeanContainer.Source.Grammar

/-- The grammar one level up. -/
def deeper (grammar : Grammar) : Grammar where
  type := grammar.typeRule
  bound := grammar.boundRule
  expression := grammar.expressionRule
  operand := grammar.operandRule
  operators := grammar.operatorsRule
  arm := grammar.armRule
  pattern := grammar.patternRule
  statements := grammar.statementsRule
  item := grammar.itemRule
  fields := grammar.fieldsRule
  importTree := grammar.importTreeRule

/-- The grammar with the given number of levels. -/
def ofLevels : Nat → Grammar
  | 0 => empty
  | levels + 1 => (ofLevels levels).deeper

/-- The grammar with enough levels for the forest. -/
def enoughFor (forest : Forest) : Grammar :=
  ofLevels (8 * (forest.size + 1))

end BeanContainer.Source.Grammar
